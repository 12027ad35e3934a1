import AgenticRag.Core.SqlSubgraph

/-!
# The Origin of What Is Reported

The report of an exploration names a statement, rows and a database. The rows
are those of the statement: both are set together, from what the tool hands
back. The database is not. The statement is run on the database its action
names, or else on that of the call. What is reported is the database its
action names, or else the one that was reported before, and a name that is
there but empty counts as a name.

So the report is true to its origin as long as every action that runs a
statement names its database, or leaves it out while the report is still on
that of the call.

## Main definitions

* `lastRan`: The last statement that was answered.
* `NamesDatabase`: An action names its database, or has no need to.

## Theorems

* `move_origin`: One node keeps the report true.
* `report_truthful`: The report of a run is true to its origin.
-/

namespace AgenticRag

namespace SqlSubgraph

open Py Ordered

/-- A statement that was answered: where, what, and the rows. -/
def ranOf : Event → Option (Val × String × List Val)
  | .sqlSent dbId sql (some rows) => some (dbId, sql, rows)
  | _ => none

/-- The last statement that was answered. -/
def lastRan (log : List Event) : Option (Val × String × List Val) :=
  (log.filterMap ranOf).getLast?

/-- What is reported of a statement is of the last one that was answered, with
    its rows as far as they are kept. Without one there is nothing to
    report. -/
def Origin (maxRows : Nat) (log : List Event) (sql : String) (rows : List Val) (dbId : Val) :
    Prop :=
  match lastRan log with
  | none => sql = "" ∧ rows = []
  | some (ranOn, ran, returned) => sql = ran ∧ rows = returned.take maxRows ∧ dbId = ranOn

/-- A report is true to its origin. -/
def Truthful (maxRows : Nat) (log : List Event) (r : DbResult) : Prop :=
  Origin maxRows log r.sql r.rows r.dbId

/-- Where a statement is about to be run, its action names a database, or
    leaves it out while the one to be reported is that of the call. -/
def NamesDatabase (input : SqlAgentInput) (c : Config) : Prop :=
  c.node = .toolExec → ∀ args, c.state.pendingAction = some (.executeSql, args) →
    match args.lookup "db_id" with
    | some v => v.truthy = true
    | none => c.state.finalDbId = .str input.dbId

section Step

variable {u : Unicode} {parse : SqlParser} {rt : DbRuntime} {input : SqlAgentInput}
  {action : AgentAction} {args : Dict} {tools : Toolset} {run : ToolRun}

theorem lastRan_append {log events : List Event} (h : events.filterMap ranOf = []) :
    lastRan (log ++ events) = lastRan log := by
  unfold lastRan
  rw [List.filterMap_append, h, List.append_nil]

theorem lastRan_ran (log events : List Event) (dbId : Val) (sql : String) (rows : List Val) :
    lastRan (log ++ (events ++ [.sqlSent dbId sql (some rows)])) = some (dbId, sql, rows) := by
  unfold lastRan
  rw [List.filterMap_append, List.filterMap_append, ← List.append_assoc]
  exact List.getLast?_concat

theorem marks_ran {events : List Event} (h : ∀ e ∈ events, e.isMark = true) :
    events.filterMap ranOf = [] := by
  refine List.filterMap_eq_nil_iff.mpr ?_
  intro e he
  have hmark := h e he
  cases e with
  | sqlSent dbId sql rows => cases hmark
  | _ => rfl

theorem attempted_ran : (attempted action args).filterMap ranOf = [] := by
  unfold attempted
  split <;> rfl

/-- What is to be reported is the same in two states. -/
def SameFinals (st st' : State) : Prop :=
  st'.finalSql = st.finalSql ∧ st'.finalRows = st.finalRows ∧ st'.finalDbId = st.finalDbId

theorem origin_of_sameFinals {maxRows : Nat} {log log' : List Event} {st st' : State}
    (hlog : lastRan log' = lastRan log) (hst : SameFinals st st')
    (h : Origin maxRows log st.finalSql st.finalRows st.finalDbId) :
    Origin maxRows log' st'.finalSql st'.finalRows st'.finalDbId := by
  unfold Origin at h ⊢
  rw [hlog, hst.1, hst.2.1, hst.2.2]
  exact h

theorem counted_sameFinals (action : AgentAction) (args : Dict) (st : State) :
    SameFinals st (counted action args st) := by
  unfold counted
  split <;> exact ⟨rfl, rfl, rfl⟩

/-- A tool leaves the report alone, unless it runs a statement that is
    answered. -/
theorem effect_finals (h : Effect u parse input action args tools run) (st : State) :
    (run.events.filterMap ranOf = [] ∧ SameFinals st (record action args run.observed st)) ∨
    ∃ sql rows, action = .executeSql ∧
      run.events = [.sqlSent (actionDbId input args) sql (some rows)] ∧
      run.observed = .ran sql (rows.take input.budget.maxResultRows) := by
  cases h with
  | quiet observed hran hnew =>
      refine .inl ⟨rfl, ?_⟩
      unfold record
      dsimp only
      split
      -- A quiet tool has not run a statement.
      · exact absurd rfl (hran _ _)
      · exact ⟨rfl, rfl, rfl⟩
      · exact ⟨rfl, rfl, rfl⟩
  | lists key names =>
      refine .inl ⟨rfl, ?_⟩
      cases action <;> exact ⟨rfl, rfl, rfl⟩
  | describes key table haction =>
      refine .inl ⟨rfl, ?_⟩
      rw [haction]
      exact ⟨rfl, rfl, rfl⟩
  | describeFails key table =>
      refine .inl ⟨rfl, ?_⟩
      cases action <;> exact ⟨rfl, rfl, rfl⟩
  | sends key text rows haction htext hkey hvalid =>
      cases rows with
      | none =>
          refine .inl ⟨rfl, ?_⟩
          rw [haction]
          exact ⟨rfl, rfl, rfl⟩
      | some rows => exact .inr ⟨_, rows, haction, rfl, rfl⟩

/-- The database that will be reported is the one the statement is run on. -/
theorem reported_eq_actionDbId {c : Config} (hnames : NamesDatabase input c)
    (hnode : c.node = .toolExec) (hpending : c.state.pendingAction = some (.executeSql, args)) :
    pyGet args "db_id" c.state.finalDbId = actionDbId input args := by
  have hnamed := hnames hnode args hpending
  -- Left out, the database is that of the call; named, it is not empty.
  unfold actionDbId pyGet
  cases hlookup : args.lookup "db_id" with
  | none =>
      rw [hlookup] at hnamed
      rw [Option.getD_none, Option.getD_none, hnamed]
      rfl
  | some v =>
      rw [hlookup] at hnamed
      rw [Option.getD_some, Option.getD_some, pyOr, if_pos hnamed]

theorem agentLlmNode_finals {reply : LlmReply} {st st' : State}
    (h : agentLlmNode reply st = some st') : SameFinals st st' := by
  rcases agentLlmNode_frame h with ⟨_, _, _, rfl⟩
  exact ⟨rfl, rfl, rfl⟩

theorem finalizeNode_finals (st : State) : SameFinals st (finalizeNode u st) := by
  rcases finalizeNode_frame (u := u) st with ⟨_, _, _, _, hst⟩
  rw [hst]
  exact ⟨rfl, rfl, rfl⟩

/-- What is to be reported is true to its origin. -/
def OriginInv (input : SqlAgentInput) (c : Config) : Prop :=
  Origin input.budget.maxResultRows c.log c.state.finalSql c.state.finalRows c.state.finalDbId

/-- Running the pending action keeps the report true. -/
theorem toolExecNode_origin {reply : Reply} {c : Config} {st : State} {tools' : Toolset}
    {events : List Event} (hnode : c.node = .toolExec) (hnames : NamesDatabase input c)
    (h : OriginInv input c)
    (hexec : toolExecNode u parse rt input reply c.state c.tools = .ok (st, tools', events)) :
    Origin input.budget.maxResultRows (c.log ++ events) st.finalSql st.finalRows st.finalDbId := by
  rcases toolExecNode_cases hexec with
    ⟨_, hst, _, hevents⟩ | ⟨action, args, run, hpending, heffect, hst, _, hevents⟩
  · refine origin_of_sameFinals ?_ ?_ h
    · rw [hevents]
      exact lastRan_append rfl
    · rw [hst]
      exact ⟨rfl, rfl, rfl⟩
  · have hcounted := counted_sameFinals action args c.state
    rcases effect_finals heffect (counted action args c.state) with
      ⟨hquiet, hsame⟩ | ⟨sql, rows, haction, hran, hobserved⟩
    · refine origin_of_sameFinals (lastRan_append ?_) ?_ h
      · rw [hevents, List.filterMap_cons_none rfl, List.filterMap_append, attempted_ran, hquiet,
          List.append_nil]
      · rw [hst]
        exact ⟨hsame.1.trans hcounted.1, hsame.2.1.trans hcounted.2.1,
          hsame.2.2.trans hcounted.2.2⟩
    · -- The statement that was answered is the last one, and the report is of it.
      rw [haction] at hpending
      have hreported := reported_eq_actionDbId hnames hnode hpending
      have hlast : lastRan (c.log ++ events) = some (actionDbId input args, sql, rows) := by
        rw [hevents, hran, ← List.cons_append]
        exact lastRan_ran _ _ _ _ _
      unfold Origin
      rw [hlast, hst, haction, hobserved]
      refine ⟨rfl, rfl, ?_⟩
      show pyGet args "db_id" (counted .executeSql args c.state).finalDbId = actionDbId input args
      rw [← hreported, (counted_sameFinals _ _ c.state).2.2]

/-- One node keeps the report true. -/
theorem move_origin {reply : Reply} {c c' : Config} (hmove : Move u parse rt input reply c c')
    (hnames : NamesDatabase input c) (h : OriginInv input c) : OriginInv input c' := by
  cases hmove with
  | passes hnode hroom => exact h
  | stops reason hnode hstop => exact h
  | asks st hnode hllm =>
      exact origin_of_sameFinals (lastRan_append rfl) (agentLlmNode_finals hllm) h
  | runs st tools events hnode hexec => exact toolExecNode_origin hnode hnames h hexec
  | raises events hnode hmarks =>
      exact origin_of_sameFinals (lastRan_append (marks_ran hmarks)) ⟨rfl, rfl, rfl⟩ h
  | closes hnode => exact origin_of_sameFinals rfl (finalizeNode_finals c.state) h
  | rests hnode => exact h

end Step

/-- The report of a run whose actions all name their database, or have no need
    to, is true to its origin. -/
theorem report_truthful (u : Unicode) (parse : SqlParser) (rt : DbRuntime) (input : SqlAgentInput)
    (replies : Nat → Reply) (n : Nat)
    (hnames : ∀ m < n, NamesDatabase input (after u parse rt input replies m)) (r : DbResult)
    (hr : buildDbResult (after u parse rt input replies n).state = .ok r) :
    Truthful input.budget.maxResultRows (after u parse rt input replies n).log r := by
  -- The invariant holds before any statement: nothing was run, nothing is reported.
  have horigin : OriginInv input (after u parse rt input replies n) := by
    clear hr
    induction n with
    | zero => exact ⟨rfl, rfl⟩
    | succ n ih =>
        exact move_origin (step_moves u parse rt input _ _) (hnames n (Nat.lt_succ_self n))
          (ih (fun m hm => hnames m (Nat.lt_succ_of_lt hm)))
  have hreport := buildDbResult_ok hr
  unfold Truthful
  rw [hreport.1, hreport.2.1, hreport.2.2]
  exact horigin

section Switched

/-- Two databases. -/
def twoDatabases : DbRuntime :=
  { dbTools := [("query_sales", ⟨.none, "sales"⟩), ("query_hr", ⟨.none, "hr"⟩)] }

/-- A question about sales. -/
def salesInput : SqlAgentInput := { query := "q", dbId := "sales" }

/-- The model runs a statement on one database by name, then one on that of the
    call, and is content. -/
def switchingReplies : Nat → Reply
  | 1 => { llm := .act .executeSql [("db_id", .str "hr"), ("sql", .str "SELECT 1")] }
  | 2 => { rows := some [] }
  | 4 => { llm := .act .executeSql [("sql", .str "SELECT 2")] }
  | 5 => { rows := some [.dict [("x", .int 2)]] }
  | 7 => { llm := .act .finish [] }
  | _ => {}

/-- The run of the two statements. -/
def switchingRun (n : Nat) : Config :=
  after default (fun _ => none) twoDatabases salesInput switchingReplies n

theorem report_truthful_first :
    ∃ r, buildDbResult (switchingRun 3).state = .ok r ∧
      Truthful salesInput.budget.maxResultRows (switchingRun 3).log r := by
  rcases exists_buildDbResult (switchingRun 3).state (by decide +kernel) with ⟨r, hr⟩
  refine ⟨r, hr, report_truthful default (fun _ => none) twoDatabases salesInput switchingReplies 3
    ?_ r hr⟩
  intro m hm hnode args hpending
  match m, hm with
  | 0, _ => cases hnode
  | 1, _ => cases hnode
  | 2, _ =>
      have hargs : (switchingRun 2).state.pendingAction =
          some (.executeSql, [("db_id", .str "hr"), ("sql", .str "SELECT 1")]) := rfl
      unfold switchingRun at hargs
      rw [hargs] at hpending
      cases hpending
      rfl

/-- A text, if it is one. -/
def textOf : Val → Option String
  | .str s => some s
  | _ => none

/-- The second statement was run on one database, and is reported of the
    other. -/
theorem switching_not_truthful :
    ∃ r, buildDbResult (switchingRun 9).state = .ok r ∧
      ¬ Truthful salesInput.budget.maxResultRows (switchingRun 9).log r := by
  rcases exists_buildDbResult (switchingRun 9).state (by decide +kernel) with ⟨r, hr⟩
  refine ⟨r, hr, ?_⟩
  have hlast : (lastRan (switchingRun 9).log).map (fun ran => textOf ran.1) =
      some (some "sales") := by decide +kernel
  have hreported : textOf (switchingRun 9).state.finalDbId = some "hr" := by decide +kernel
  intro h
  unfold Truthful Origin at h
  rw [Option.map_eq_some_iff] at hlast
  rcases hlast with ⟨⟨ranOn, ran, rows⟩, hran, hranOn⟩
  rw [hran] at h
  rw [← (buildDbResult_ok hr).2.2, h.2.2, hranOn] at hreported
  simp only [Option.some.injEq] at hreported
  exact absurd hreported (by decide)

end Switched

end SqlSubgraph

end AgenticRag
