import AgenticRag.Core.SqlSubgraph

/-!
# Tables That Were Disclosed

The agent lists the tables of a database before it queries them, and a
statement is checked against the list. Which tables a statement reads is a
matter of its `FROM` and `JOIN` clauses, nested ones included. The check looks
for names right after these words, and it is made only where there is a list.
So a statement gets through that reads a table behind a comma, in quotes or of
another schema, and on a database whose tables were never listed any does.

What a text reads is given by `statementsOf`, the statements in it.

## Main definitions

* `references`: The tables a text reads.
* `ListedAndFound`: The tables were listed, and the check finds what is read.

## Theorems

* `move_disclosed`: One node keeps to the tables that were listed.
* `statements_disclosed`: So does a run.
-/

namespace AgenticRag

namespace SqlSubgraph

open Py Ordered

/-- The tables a text reads. -/
def references (statementsOf : String → List SqlTree) (sql : String) : List TableName :=
  (statementsOf sql).flatMap SqlTree.tableNames

/-- A table was listed for a database, whatever the case of its name. -/
def Disclosed (u : Unicode) (log : List Event) (key : Key) (table : TableName) : Prop :=
  ∃ tables, .listed key tables ∈ log ∧ u.lower table.text ∈ tables.map u.lower

/-- Every statement of a log reads tables that were listed before it, for the
    database it is sent to. -/
def DisclosedBefore (u : Unicode) (statementsOf : String → List SqlTree) (log : List Event) :
    Prop :=
  ∀ i dbId sql rows, log[i]? = some (.sqlSent dbId sql rows) →
    ∀ table ∈ references statementsOf sql,
      ∃ key, Key.of dbId = some key ∧ Disclosed u (log.take i) key table

/-- Where a statement is about to be run, the tables of its database were
    listed, and the names the check finds are all it reads. -/
def ListedAndFound (u : Unicode) (statementsOf : String → List SqlTree) (input : SqlAgentInput)
    (c : Config) : Prop :=
  c.node = .toolExec → ∀ args text, c.state.pendingAction = some (.executeSql, args) →
    pyGet args "sql" (.str "") = .str text →
      (∀ key, Key.of (actionDbId input args) = some key →
        lookupKey key c.tools.listedTables ≠ none) ∧
      ∀ table ∈ references statementsOf (ensureLimit u input.budget.maxResultRows text),
        u.lower table.text ∈ (extractTables text).map u.lower

/-- The tables the tools know were listed. -/
def Remembered (tools : Toolset) (log : List Event) : Prop :=
  ∀ key tables, tools.listedTables.lookup key = some tables → .listed key tables ∈ log

section Step

variable {u : Unicode} {parse : SqlParser} {rt : DbRuntime} {input : SqlAgentInput}
  {statementsOf : String → List SqlTree} {action : AgentAction} {args : Dict} {tools : Toolset}
  {run : ToolRun}

/-- Statements that read what the log has listed may be added to it. -/
theorem disclosedBefore_append {log events : List Event}
    (h : DisclosedBefore u statementsOf log)
    (hevents : ∀ dbId sql rows, .sqlSent dbId sql rows ∈ events →
      ∀ table ∈ references statementsOf sql,
        ∃ key, Key.of dbId = some key ∧ Disclosed u log key table) :
    DisclosedBefore u statementsOf (log ++ events) := by
  intro i dbId sql rows hi table htable
  -- A statement of the log, or one of those that are added.
  by_cases hlt : i < log.length
  · rw [List.getElem?_append_left hlt] at hi
    rw [List.take_append_of_le_length (Nat.le_of_lt hlt)]
    exact h i dbId sql rows hi table htable
  · have hge : log.length ≤ i := Nat.le_of_not_lt hlt
    rw [List.getElem?_append_right hge] at hi
    rcases hevents dbId sql rows (List.mem_of_getElem? hi) table htable with
      ⟨key, hkey, tables, hlisted, hname⟩
    refine ⟨key, hkey, tables, ?_, hname⟩
    rw [List.take_append, List.take_of_length_le hge]
    exact List.mem_append_left _ hlisted

theorem remembered_append {log events : List Event} (h : Remembered tools log) :
    Remembered tools (log ++ events) := by
  intro key tables hlookup
  exact List.mem_append_left _ (h key tables hlookup)

/-- What a tool makes the tools remember is in its marks. -/
theorem effect_remembered (h : Effect u parse input action args tools run) {log : List Event}
    (hremembered : Remembered tools log) : Remembered run.tools (log ++ run.events) := by
  cases h with
  | quiet observed hran hnew => exact remembered_append hremembered
  | lists key names =>
      intro k tables hlookup
      simp only [lookup_dictSet] at hlookup
      split_ifs at hlookup with hk
      · cases hlookup
        rw [hk]
        exact List.mem_append_right _ (List.mem_singleton.mpr rfl)
      · exact List.mem_append_left _ (hremembered k tables hlookup)
  | describes key table haction => exact remembered_append hremembered
  | describeFails key table => exact remembered_append hremembered
  | sends key text rows haction htext hkey hvalid => exact remembered_append hremembered

theorem lookup_of_lookupKey {β : Type} {key : Key} {d : List (Key × β)} {b : β}
    (h : lookupKey key d = some b) : d.lookup key = some b := by
  unfold lookupKey at h
  split_ifs at h
  exact h

/-- A statement that is sent has passed the check against the list. -/
theorem effect_sent (h : Effect u parse input action args tools run) {dbId : Val} {sql : String}
    {rows : Option (List Val)} (hmem : .sqlSent dbId sql rows ∈ run.events) :
    ∃ key text, action = .executeSql ∧ pyGet args "sql" (.str "") = .str text ∧
      dbId = actionDbId input args ∧ sql = ensureLimit u input.budget.maxResultRows text ∧
      Key.of (actionDbId input args) = some key ∧
      validateSql u parse text (lookupKey key tools.listedTables) = .ok () := by
  cases h with
  | quiet observed hran hnew => cases hmem
  | lists key names => cases List.mem_singleton.mp hmem
  | describes key table haction => cases List.mem_singleton.mp hmem
  | describeFails key table => cases List.mem_singleton.mp hmem
  | sends key text rows haction htext hkey hvalid =>
      cases List.mem_singleton.mp hmem
      exact ⟨key, text, haction, htext, rfl, rfl, hkey, hvalid⟩

/-- What the tools and the log have of the tables. -/
def DisclosureInv (u : Unicode) (statementsOf : String → List SqlTree) (c : Config) : Prop :=
  DisclosedBefore u statementsOf c.log ∧ Remembered c.tools c.log

/-- A statement that is about to be sent reads what was listed. -/
theorem sent_disclosed {c : Config} (hlisted : ListedAndFound u statementsOf input c)
    (hremembered : Remembered c.tools c.log) (hnode : c.node = .toolExec)
    (hpending : c.state.pendingAction = some (action, args))
    (heffect : Effect u parse input action args c.tools run) {dbId : Val} {sql : String}
    {rows : Option (List Val)} (hmem : .sqlSent dbId sql rows ∈ run.events) :
    ∀ table ∈ references statementsOf sql,
      ∃ key, Key.of dbId = some key ∧ Disclosed u c.log key table := by
  intro table htable
  rcases effect_sent heffect hmem with ⟨key, text, haction, htext, hdbId, hsql, hkey, hvalid⟩
  rw [haction] at hpending
  have hfound := hlisted hnode args text hpending htext
  rw [hsql] at htable
  cases hlookup : lookupKey key c.tools.listedTables with
  | none => exact absurd hlookup (hfound.1 key hkey)
  | some tables =>
      rw [hlookup] at hvalid
      -- The name that is read is one the check finds, so it is on the list.
      have htables := ((validateSql_ok_iff _).mp hvalid).2.2 tables rfl
      rcases List.mem_map.mp (hfound.2 table htable) with ⟨name, hname, hlower⟩
      refine ⟨key, by rw [hdbId]; exact hkey, tables,
        hremembered key tables (lookup_of_lookupKey hlookup), ?_⟩
      rw [← hlower]
      exact htables name hname

/-- Running the pending action keeps to the tables that were listed. -/
theorem toolExecNode_disclosed {reply : Reply} {c : Config} {st : State} {tools' : Toolset}
    {events : List Event} (hnode : c.node = .toolExec)
    (hlisted : ListedAndFound u statementsOf input c) (h : DisclosureInv u statementsOf c)
    (hexec : toolExecNode u parse rt input reply c.state c.tools = .ok (st, tools', events)) :
    DisclosedBefore u statementsOf (c.log ++ events) ∧ Remembered tools' (c.log ++ events) := by
  rcases toolExecNode_cases hexec with
    ⟨_, _, htools, hevents⟩ | ⟨action, args, run, hpending, heffect, _, htools, hevents⟩
  · rw [htools]
    refine ⟨disclosedBefore_append h.1 ?_, remembered_append h.2⟩
    intro dbId sql rows hmem
    rw [hevents] at hmem
    cases List.mem_singleton.mp hmem
  · constructor
    · refine disclosedBefore_append h.1 ?_
      intro dbId sql rows hmem
      have hrun : .sqlSent dbId sql rows ∈ run.events := by
        rw [hevents] at hmem
        -- Of the marks of the step only those of the tool itself are statements.
        rcases List.mem_cons.mp hmem with htool | hrest
        · cases htool
        · rcases List.mem_append.mp hrest with hattempt | hsent
          · unfold attempted at hattempt
            split at hattempt
            · cases List.mem_singleton.mp hattempt
            · cases hattempt
          · exact hsent
      exact sent_disclosed hlisted h.2 hnode hpending heffect hrun
    · rw [htools, hevents, ← List.cons_append, ← List.append_assoc]
      -- The marks before those of the tool change nothing of what is remembered.
      exact effect_remembered heffect (remembered_append h.2)

/-- One node keeps to the tables that were listed. -/
theorem move_disclosed {reply : Reply} {c c' : Config} (hmove : Move u parse rt input reply c c')
    (hlisted : ListedAndFound u statementsOf input c) (h : DisclosureInv u statementsOf c) :
    DisclosureInv u statementsOf c' := by
  cases hmove with
  | passes hnode hroom => exact h
  | stops reason hnode hstop => exact h
  | asks st hnode hllm =>
      refine ⟨disclosedBefore_append h.1 ?_, remembered_append h.2⟩
      intro dbId sql rows hmem
      cases List.mem_singleton.mp hmem
  | runs st tools events hnode hexec => exact toolExecNode_disclosed hnode hlisted h hexec
  | raises events hnode hmarks =>
      refine ⟨disclosedBefore_append h.1 ?_, remembered_append h.2⟩
      intro dbId sql rows hmem
      cases hmarks _ hmem
  | closes hnode => exact h
  | rests hnode => exact h

end Step

/-- In a run in which every statement is on a database whose tables were
    listed, and the check finds all the tables it reads, every statement reads
    tables that were listed before it. -/
theorem statements_disclosed (u : Unicode) (parse : SqlParser)
    (statementsOf : String → List SqlTree) (rt : DbRuntime) (input : SqlAgentInput)
    (replies : Nat → Reply) (n : Nat)
    (hlisted : ∀ m < n, ListedAndFound u statementsOf input (after u parse rt input replies m)) :
    DisclosedBefore u statementsOf (after u parse rt input replies n).log := by
  have hinv : DisclosureInv u statementsOf (after u parse rt input replies n) := by
    induction n with
    | zero =>
        constructor
        · intro i dbId sql rows hi
          cases hi
        · intro key tables hlookup
          cases hlookup
    | succ n ih =>
        exact move_disclosed (step_moves u parse rt input _ _) (hlisted n (Nat.lt_succ_self n))
          (ih (fun m hm => hlisted m (Nat.lt_succ_of_lt hm)))
  exact hinv.1

section Comma

/-- One database, whose tables can be listed. -/
def oneDatabase : DbRuntime :=
  { dbTools := [("query_sales", ⟨.none, "sales"⟩), ("list_tables_sales", ⟨.none, "sales"⟩)] }

/-- The tables of two texts, one with a comma. -/
def commaStatements : String → List SqlTree
  | "SELECT * FROM orders LIMIT 500" => [.node .select [⟨none, "orders"⟩] [] []]
  | "SELECT * FROM orders, salaries LIMIT 500" =>
      [.node .select [⟨none, "orders"⟩, ⟨none, "salaries"⟩] [] []]
  | _ => []

/-- The model lists the tables of the database, of which there is one, and runs
    a statement. -/
def commaReplies (sql : String) : Nat → Reply
  | 1 => { llm := .act .listTables [] }
  | 2 => { tables := some ["orders"] }
  | 4 => { llm := .act .executeSql [("sql", .str sql)] }
  | 5 => { rows := some [] }
  | _ => {}

/-- A run that asks for a statement. -/
def commaRun (sql : String) (n : Nat) : Config :=
  after default (fun _ => none) oneDatabase { query := "q", dbId := "sales" } (commaReplies sql) n

theorem statements_disclosed_orders :
    DisclosedBefore default commaStatements (commaRun "SELECT * FROM orders" 6).log := by
  refine statements_disclosed default (fun _ => none) commaStatements oneDatabase
    { query := "q", dbId := "sales" } (commaReplies "SELECT * FROM orders") 6 ?_
  intro m hm hnode args text hpending htext
  match m, hm with
  | 0, _ => cases hnode
  | 1, _ => cases hnode
  | 2, _ => cases hpending
  | 3, _ => cases hnode
  | 4, _ => cases hnode
  | 5, _ =>
      have hargs : (commaRun "SELECT * FROM orders" 5).state.pendingAction =
          some (.executeSql, [("sql", .str "SELECT * FROM orders")]) := rfl
      unfold commaRun at hargs
      rw [hargs] at hpending
      cases hpending
      cases htext
      constructor
      · intro key hkey
        cases hkey
        have hlisted : (lookupKey (.text "sales")
            (commaRun "SELECT * FROM orders" 5).tools.listedTables).isSome = true := by
          decide
        exact Option.isSome_iff_ne_none.mp hlisted
      · decide +kernel

/-- The text of a statement that was sent. -/
def sentText : Event → Option String
  | .sqlSent _ sql _ => some sql
  | _ => none

/-- A list of tables has a name on it. -/
def lists (name : String) : Event → Bool
  | .listed _ tables => (tables.map (default : Unicode).lower).contains name
  | _ => false

/-- The table behind the comma is read, and was not listed. -/
theorem comma_not_disclosed :
    ¬ DisclosedBefore default commaStatements
      (commaRun "SELECT * FROM orders, salaries" 6).log := by
  intro h
  have hsent : ((commaRun "SELECT * FROM orders, salaries" 6).log[6]?).map sentText =
      some (some "SELECT * FROM orders, salaries LIMIT 500") := by decide +kernel
  have hunlisted : ((commaRun "SELECT * FROM orders, salaries" 6).log.take 6).all
      (fun e => !lists "salaries" e) = true := by decide +kernel
  rw [Option.map_eq_some_iff] at hsent
  rcases hsent with ⟨e, he, htext⟩
  cases e with
  | sqlSent dbId sql rows =>
      cases htext
      have hread : (⟨none, "salaries"⟩ : TableName) ∈ references commaStatements
          "SELECT * FROM orders, salaries LIMIT 500" := by decide
      rcases h 6 dbId _ rows he _ hread with ⟨key, _, tables, hlisted, hname⟩
      have hnot := List.all_eq_true.mp hunlisted _ hlisted
      have hyes : lists "salaries" (.listed key tables) = true := by
        refine List.contains_iff_mem.mpr ?_
        have hlower : (default : Unicode).lower (TableName.text ⟨none, "salaries"⟩) =
            "salaries" := by
          decide +kernel
        rwa [hlower] at hname
      rw [hyes] at hnot
      cases hnot
  | llmCalled => cases htext
  | toolRun => cases htext
  | listed dbId tables => cases htext
  | describeSent dbId table answered => cases htext
  | sqlAttempted => cases htext

end Comma

end SqlSubgraph

end AgenticRag
