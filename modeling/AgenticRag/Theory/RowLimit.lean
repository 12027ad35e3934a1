import AgenticRag.Core.SqlAgent
import AgenticRag.Core.SqlCheck
import AgenticRag.Lib.SqlText

/-!
# The Limit of a Statement

Before the agent's statement is sent, one that has no limit gets one. Whether
it has one is decided by a search for the word in the whole text, and the limit
is put at the end of the text, without the white space and semicolons there.

A statement with a limit at its top level has the word, so it is sent as it
is, whatever the bound: the rows are cut off afterwards. Where the word is
nowhere in the text and the text is a single statement that ends in code with
its parentheses closed, the limit that is added is read as the statement's own.
Nothing is said of the other texts: in them the word stands only where it is no
limit, or what is added is read as part of something else.

## Main definitions

* `trimmedSql`: A text without what a statement may end with.
* `Limited`: All statements have a limit that is no larger than a bound.

## Theorems

* `ensureLimit_of_ownLimits`: Own limits are left alone.
* `limitBounds_ensureLimit`: An added limit is the limit.
* `invokeExecuteSql_limits`: The limits of what is sent.
-/

namespace AgenticRag

open Py Ordered

section Words

variable (u : Unicode)

/-- What a word of SQL is made of. -/
def isSqlWord (c : Char) : Bool := u.isAlnum c || c == '_' || c == '$'

/-- Of the ASCII characters the letters and digits are alphanumeric. -/
def AsciiAlnum : Prop := ∀ c : Char, c.toNat < 128 → u.isAlnum c = c.isAlphanum

variable {u}

theorem isSqlWord_of_ascii (hu : AsciiAlnum u) {c : Char} (hc : c.toNat < 128) :
    isSqlWord u c = (c.isAlphanum || c == '_' || c == '$') := by
  rw [isSqlWord, hu c hc]

/-- A search finds something where its scanner matches somewhere. -/
theorem reFindall_ne_nil {α : Type} {scan : Option Char → List Char → Option (Nat × α)}
    {n : Nat} {a : α} (pre text : List Char) (before : Option Char)
    (h : scan (pre.getLast?.or before) text = some (n + 1, a)) (hne : text ≠ []) :
    reFindall scan before 0 (pre ++ text) ≠ [] := by
  induction pre generalizing before with
  | nil =>
      cases text with
      | nil => exact absurd rfl hne
      | cons c cs =>
          rw [List.getLast?_nil, Option.none_or] at h
          rw [List.nil_append, reFindall, h]
          exact List.cons_ne_nil _ _
  | cons c pre ih =>
      rw [List.cons_append, reFindall]
      -- A match before it is found as well.
      split
      · exact List.cons_ne_nil _ _
      · refine ih (some c) ?_
        rw [← h]
        cases pre with
        | nil => rfl
        | cons d pre => rw [List.getLast?_cons_cons, List.getLast?_cons, Option.some_or,
            Option.some_or]

/-- What the search takes for a letter of the word, whatever its case. -/
theorem toLower_limit {w : List Char} (h : w.map Char.toLower = "limit".toList) :
    ∃ l i m i' t, w = [l, i, m, i', t] ∧ (l = 'l' ∨ l = 'L') ∧ (i = 'i' ∨ i = 'I') ∧
      (m = 'm' ∨ m = 'M') ∧ (i' = 'i' ∨ i' = 'I') ∧ (t = 't' ∨ t = 'T') := by
  have hlist : "limit".toList = ['l', 'i', 'm', 'i', 't'] := by decide
  rw [hlist] at h
  rcases List.map_eq_cons_iff.mp h with ⟨l, w, rfl, hl, h⟩
  rcases List.map_eq_cons_iff.mp h with ⟨i, w, rfl, hi, h⟩
  rcases List.map_eq_cons_iff.mp h with ⟨m, w, rfl, hm, h⟩
  rcases List.map_eq_cons_iff.mp h with ⟨i', w, rfl, hi', h⟩
  rcases List.map_eq_cons_iff.mp h with ⟨t, w, rfl, ht, h⟩
  rw [List.map_eq_nil_iff] at h
  subst h
  exact ⟨l, i, m, i', t, rfl, Sql.eq_or_eq_of_toLower hl (by decide),
    Sql.eq_or_eq_of_toLower hi (by decide), Sql.eq_or_eq_of_toLower hm (by decide),
    Sql.eq_or_eq_of_toLower hi' (by decide), Sql.eq_or_eq_of_toLower ht (by decide)⟩

/-- The search finds the word where it stands. -/
theorem scanLimit_of_stands (hu : AsciiAlnum u) {w after : List Char} {before : Option Char}
    (hw : w.map Char.toLower = "limit".toList)
    (hbefore : before.all (fun c => !isSqlWord u c) = true)
    (hafter : after.head?.all (fun c => !isSqlWord u c) = true) :
    scanLimit u before (w ++ after) = some (5, ()) := by
  rcases toLower_limit hw with ⟨l, i, m, i', t, rfl, hl, hi, hm, hi', ht⟩
  -- What is no letter of SQL is none of the search.
  have hnot : ∀ o : Option Char, o.all (fun c => !isSqlWord u c) = true →
      (o.map (fun c => u.isAlnum c || c == '_')).getD false = false := by
    intro o ho
    cases o with
    | none => rfl
    | some c =>
        rw [Option.all_some, Bool.not_eq_true', isSqlWord, Bool.or_eq_false_iff] at ho
        exact ho.1
  have hstart : u.isAlnum l = true := by
    rcases hl with rfl | rfl <;> rw [hu _ (by decide)] <;> decide
  have hend : u.isAlnum t = true := by
    rcases ht with rfl | rfl <;> rw [hu _ (by decide)] <;> decide
  have hfifth : ([l, i, m, i', t] ++ after)[5]? = after.head? := by
    cases after with
    | nil => rfl
    | cons a as => rfl
  -- Each of the five letters fits in either case.
  have hletters : (([l, i, m, i', t] ++ after).zip limitLetters).all
      (fun p => decide (p.1 ∈ p.2)) = true := by
    simp only [limitLetters, List.cons_append, List.nil_append, List.zip_cons_cons,
      List.zip_nil_right, List.all_cons, List.all_nil, Bool.and_true, Bool.and_eq_true,
      decide_eq_true_eq]
    refine ⟨?_, ?_, ?_, ?_, ?_⟩
    · rcases hl with rfl | rfl <;> decide
    · rcases hi with rfl | rfl <;> decide
    · rcases hm with rfl | rfl <;> decide
    · rcases hi' with rfl | rfl <;> decide
    · rcases ht with rfl | rfl <;> decide
  have hfirst : atBoundary (fun c => u.isAlnum c || c == '_') before
      ([l, i, m, i', t] ++ after).head? = true := by
    rw [atBoundary, hnot before hbefore]
    simp [hstart]
  have hlast : atBoundary (fun c => u.isAlnum c || c == '_') ([l, i, m, i', t] ++ after)[4]?
      ([l, i, m, i', t] ++ after)[5]? = true := by
    rw [atBoundary, hfifth, hnot _ hafter]
    simp [hend]
  rw [scanLimit, if_pos ⟨by simp [limitLetters], hletters, hfirst, hlast⟩]

/-- The word in a text that has it as a token is found. -/
theorem reFindall_scanLimit_ne_nil (hu : AsciiAlnum u) {sql : String} {t : Sql.Token}
    (ht : t ∈ Sql.tokens (isSqlWord u) sql) (hlimit : t.isKeyword "limit" = true) :
    reFindall (scanLimit u) none 0 sql.toList ≠ [] := by
  cases t with
  | word w =>
      have hline : isSqlWord u '\n' = false := by
        rw [isSqlWord_of_ascii hu (by decide)]
        decide
      rcases Sql.standsIn_of_mem_tokens hline ht with ⟨before, after, htext, hne, -, hb, ha⟩
      rw [htext, List.append_assoc]
      rw [Sql.Token.isKeyword, beq_iff_eq] at hlimit
      refine reFindall_ne_nil (n := 4) (a := ()) before (w.toList ++ after) none ?_
        (by simp [hne])
      rw [Option.or_none]
      exact scanLimit_of_stands hu hlimit hb ha
  | quoted => cases hlimit
  | symbol c => cases hlimit

end Words

section Limits

variable (u : Unicode)

/-- A text without the semicolons at its end, after the white space there. -/
def trimmedSql (sql : String) : String :=
  String.ofList ((sql.toList.reverse.dropWhile isSpace).dropWhile (· == ';')).reverse

/-- A text that a limit may be added to: it ends outside quotes and comments,
    all its parentheses are closed, and it is a single statement. -/
structure SingleOpen (sql : String) : Prop where
  isOpen : (Sql.modeAfter (isSqlWord u) .code sql.toList).isOpen = true
  depth : Sql.depth (Sql.tokens (isSqlWord u) sql) = 0
  single : Sql.semicolon ∉ Sql.topLevel 0 (Sql.tokens (isSqlWord u) sql)

/-- Every statement of a text has a limit of its own at its top level. The bound has
    to be written out as a number, and comments that start with `#` are not known. -/
def OwnLimits (sql : String) : Prop :=
  Sql.limitBounds (isSqlWord u) sql ≠ [] ∧
    ∀ bound ∈ Sql.limitBounds (isSqlWord u) sql, bound ≠ none

/-- Every statement of a text has a limit at its top level that is no larger
    than a bound. -/
def Limited (n : Nat) (sql : String) : Prop :=
  Sql.limitBounds (isSqlWord u) sql ≠ [] ∧
    ∀ bound ∈ Sql.limitBounds (isSqlWord u) sql, bound.any (fun m => m ≤ n) = true

instance (n : Nat) (sql : String) : Decidable (Limited u n sql) :=
  inferInstanceAs (Decidable (_ ∧ _))

variable {u}

/-- A statement with a limit of its own is left alone. -/
theorem ensureLimit_of_ownLimits (hu : AsciiAlnum u) {sql : String} (h : OwnLimits u sql)
    (n : Nat) : ensureLimit u n sql = sql := by
  rcases List.exists_mem_of_ne_nil _ h.1 with ⟨bound, hbound⟩
  rcases List.mem_map.mp hbound with ⟨statement, hstatement, hlimit⟩
  rcases Option.ne_none_iff_exists'.mp (h.2 bound hbound) with ⟨m, hm⟩
  rcases Sql.exists_keyword_of_limitBound (hlimit.trans hm) with ⟨t, ht, hkeyword⟩
  rw [ensureLimit, if_neg (reFindall_scanLimit_ne_nil hu (Sql.mem_of_mem_statements hstatement ht)
    hkeyword)]

/-- A limit that is added is the statement's own. -/
theorem limitBounds_ensureLimit (hu : AsciiAlnum u) {sql : String}
    (hword : reFindall (scanLimit u) none 0 sql.toList = []) (h : SingleOpen u (trimmedSql sql))
    (n : Nat) : Sql.limitBounds (isSqlWord u) (ensureLimit u n sql) = [some n] := by
  have hblank : isSqlWord u ' ' = false := by
    rw [isSqlWord_of_ascii hu (by decide)]
    decide
  have hletters : ∀ c ∈ "LIMIT".toList, isSqlWord u c = true := by
    have hall : ∀ c ∈ "LIMIT".toList,
        c.toNat < 128 ∧ (c.isAlphanum || c == '_' || c == '$') = true := by decide
    exact fun c hc => (isSqlWord_of_ascii hu (hall c hc).1).trans (hall c hc).2
  have hdigits : ∀ c : Char, c.isDigit = true → isSqlWord u c = true := by
    intro c hc
    have hascii : c.toNat < 128 := by
      rw [Char.isDigit, Bool.and_eq_true, decide_eq_true_eq, decide_eq_true_eq] at hc
      exact lt_of_le_of_lt (UInt32.le_iff_toNat_le.mp hc.2) (by decide)
    rw [isSqlWord_of_ascii hu hascii, Char.isAlphanum, hc, Bool.or_true, Bool.true_or,
      Bool.true_or]
  -- The trimmed text is sent with the limit behind it.
  have hsent : ensureLimit u n sql = trimmedSql sql ++ " LIMIT " ++ toString n := by
    rw [ensureLimit, if_pos hword]
    rfl
  rw [hsent, Sql.limitBounds, Sql.tokens_append_limit hblank hletters hdigits h.isOpen,
    Sql.statements_append_of_single h.depth h.single, List.map_singleton,
    Sql.limitBound_append_limit (Sql.number_toString n)]

end Limits

section Sent

variable {u : Unicode} {w : SqlWorld} {rt : DbRuntime} {input : SqlAgentInput} {args : Dict}
  {st st' : ExploreState} {s : Statement}

/-- What is sent is the checked text of the action with its limit ensured. -/
theorem exists_text_of_sent (h : invokeExecuteSql u w rt input args st = some st')
    (hs : st'.executed = st.executed ++ [s]) :
    ∃ text, pyGet args "sql" (.str "") = .str text ∧
      w.validateSql text (st.listedTables.lookup s.dbId) = true ∧
        s.sql = ensureLimit u input.budget.maxResultRows text := by
  have hnot : ¬ st.executed = st.executed ++ [s] := by simp
  unfold invokeExecuteSql at h
  dsimp only at h
  -- Every other way ends without a statement.
  split_ifs at h
  · split at h
    · cases h
    · cases h
      exact absurd hs hnot
    · next dbId text hguard hsql =>
        split_ifs at h with hvalid
        · rw [executeSql] at h
          split_ifs at h with htool
          · have hexecuted : st'.executed = st.executed ++
                [⟨dbId, ensureLimit u input.budget.maxResultRows text⟩] := by
              cases h
              dsimp only
              split <;> rfl
            rw [hexecuted, List.append_cancel_left_eq, List.cons.injEq] at hs
            rcases hs with ⟨rfl, -⟩
            exact ⟨text, hsql, hvalid, rfl⟩
          · cases h
            exact absurd hs hnot
        · cases h
          exact absurd hs hnot
    · cases h
      exact absurd hs hnot
  · cases h
    exact absurd hs hnot

/-- A checked statement is sent as it is where it has its own limits, and where
    the word is not in it and it is a single one that ends in code, it is sent
    with the bound of the agent as its limit. -/
theorem invokeExecuteSql_limits (hu : AsciiAlnum u)
    (h : invokeExecuteSql u w rt input args st = some st')
    (hs : st'.executed = st.executed ++ [s]) :
    ∃ text, pyGet args "sql" (.str "") = .str text ∧
      w.validateSql text (st.listedTables.lookup s.dbId) = true ∧
      (OwnLimits u text → s.sql = text) ∧
      (reFindall (scanLimit u) none 0 text.toList = [] → SingleOpen u (trimmedSql text) →
        Sql.limitBounds (isSqlWord u) s.sql = [some input.budget.maxResultRows]) := by
  rcases exists_text_of_sent h hs with ⟨text, hsql, hvalid, hsent⟩
  rw [hsent]
  exact ⟨text, hsql, hvalid, fun hown => ensureLimit_of_ownLimits hu hown _,
    fun hword hsingle => limitBounds_ensureLimit hu hword hsingle _⟩

end Sent

section Samples

/-- A database of orders. -/
def ordersRuntime : DbRuntime where
  dbTools := [("query_erp", { description := .str "orders", dbId := "erp" })]

/-- A query of the orders. -/
def ordersSelect : SqlTree := .node .select [{ name := "orders" }] [] []

/-- What a parser reads in the statements below. -/
def ordersParser : SqlParser := fun sql =>
  if sql = "SELECT * FROM (SELECT * FROM orders LIMIT 5) AS t" then
    some [some (.node .select [] [] [.node .subquery [] [] [ordersSelect]])]
  else some [some ordersSelect]

/-- Statements are checked, and every one returns a row. -/
def ordersWorld : SqlWorld where
  templateSql _ := none
  validateSql sql tables := decide (validateSql default ordersParser sql tables = .ok ())
  execute _ := some 1
  tablesOf _ := some ["orders"]
  describes _ _ := true
  chatAvailable := false
  generated := none
  healed _ := none
  llmAvailable := true
  agent _ := .failed
  wallTimeOver _ := false

/-- What is left of the statement after it was sent. -/
def sentOrders (sql : String) : Option ExploreState :=
  invokeExecuteSql default ordersWorld ordersRuntime { query := "orders" }
    [("db_id", .str "erp"), ("sql", .str sql)] {}

theorem asciiAlnum_default : AsciiAlnum default := fun _ _ => rfl

theorem invokeExecuteSql_limits_orders : ∃ st' s,
    sentOrders "SELECT * FROM orders;" = some st' ∧ st'.executed = [s] ∧
      ∃ text, pyGet [("db_id", .str "erp"), ("sql", .str "SELECT * FROM orders;")] "sql" (.str "") =
          .str text ∧
        ordersWorld.validateSql text none = true ∧ (OwnLimits default text → s.sql = text) ∧
        (reFindall (scanLimit default) none 0 text.toList = [] →
          SingleOpen default (trimmedSql text) →
          Sql.limitBounds (isSqlWord default) s.sql = [some 500]) := by
  have hsent : (sentOrders "SELECT * FROM orders;").map (·.executed) =
      some [⟨"erp", "SELECT * FROM orders LIMIT 500"⟩] := by decide +kernel
  rcases Option.map_eq_some_iff.mp hsent with ⟨st', h, hs⟩
  exact ⟨st', _, h, hs, invokeExecuteSql_limits asciiAlnum_default h hs⟩

/-- For the text a statement without the limit is sent. -/
def SentUnlimited (sql sent : String) : Prop :=
  (∃ st', sentOrders sql = some st' ∧ st'.executed = [⟨"erp", sent⟩]) ∧ ¬ Limited default 500 sent

/-- A large limit is left as it is; one in a subquery or a text stands for the
    limit of the statement; and one that is added to a comment is part of it. -/
theorem invokeExecuteSql_not_limited :
    SentUnlimited "SELECT * FROM orders LIMIT 100000" "SELECT * FROM orders LIMIT 100000" ∧
      SentUnlimited "SELECT * FROM (SELECT * FROM orders LIMIT 5) AS t"
        "SELECT * FROM (SELECT * FROM orders LIMIT 5) AS t" ∧
      SentUnlimited "SELECT * FROM orders WHERE note = 'LIMIT'"
        "SELECT * FROM orders WHERE note = 'LIMIT'" ∧
      SentUnlimited "SELECT * FROM orders -- all" "SELECT * FROM orders -- all LIMIT 500" := by
  simp only [SentUnlimited, ← Option.map_eq_some_iff]
  decide +kernel

end Samples

end AgenticRag
