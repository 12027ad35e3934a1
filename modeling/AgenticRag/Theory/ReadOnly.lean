import AgenticRag.Core.SqlCheck

/-!
# Read-Only Statements

A statement that passes the check is meant to read and not to write. This is
true of the test by words: a statement that inserts, drops or merges shows the
word for it, and the word is found. It is not true of the test by the parser,
which looks at the root of each statement and not at what is nested in it. A
deletion in the `WITH` clause of a query passes, and since the parser decided
the words are not looked at.

What a text holds is given by `statementsOf`. The parser, where it reads a
text, reads just this, and a statement that writes shows its word.

## Main definitions

* `SqlKind.keyword`: The word a statement that writes begins with.
* `HidesWrite`: A statement that writes is nested in what the parser reads.

## Theorems

* `validateSql_readOnly_iff`: When what passes is read-only.
-/

namespace AgenticRag

open Py

/-- The word a statement begins with, for those that write. -/
def SqlKind.keyword : SqlKind → Option String
  | .insert => some "INSERT"
  | .update => some "UPDATE"
  | .delete => some "DELETE"
  | .drop => some "DROP"
  | .alter => some "ALTER"
  | .truncate => some "TRUNCATE"
  | .create => some "CREATE"
  | .merge => some "MERGE"
  | _ => none

/-- Where the parser reads a text, it reads the statements in it. -/
def ReadsAs (parse : SqlParser) (statementsOf : String → List SqlTree) : Prop :=
  ∀ sql statements, parse sql = some statements → statements.filterMap id = statementsOf sql

/-- A statement that writes shows its word in the text it is in. -/
def ShowsKeywords (statementsOf : String → List SqlTree) : Prop :=
  ∀ sql, ∀ t ∈ statementsOf sql, ∀ k ∈ t.kinds, ∀ word, k.keyword = some word →
    Stands word (strip sql)

/-- Nothing in a text writes, at its top or nested. -/
def ReadOnly (statementsOf : String → List SqlTree) (sql : String) : Prop :=
  ∀ t ∈ statementsOf sql, ∀ k ∈ t.kinds, k.keyword = none

/-- A statement that writes is nested in one the parser reads. -/
def HidesWrite (parse : SqlParser) (sql : String) : Prop :=
  ∃ statements t k, parse sql = some statements ∧ some t ∈ statements ∧
    k ∈ t.kindsBelow ∧ k.keyword ≠ none

theorem keyword_of_isQuery {k : SqlKind} (h : k.isQuery = true) : k.keyword = none := by
  cases k <;> first | rfl | cases h

/-- The words of the statements that write are among those that are looked
    for. -/
theorem keyword_dangerous {k : SqlKind} {word : String} (h : k.keyword = some word) :
    word ∈ dangerousSqlKeywords ∧ word ≠ "" ∧ ∀ c ∈ word.toList, c.isUpper = true := by
  have hlisted : word ∈ dangerousSqlKeywords := by
    cases k <;> cases h <;> simp [dangerousSqlKeywords]
  have hall : ∀ w ∈ dangerousSqlKeywords, w ≠ "" ∧ w.toList.all (·.isUpper) = true := by
    simp only [dangerousSqlKeywords, List.forall_mem_cons]
    decide
  rcases hall word hlisted with ⟨hne, hupper⟩
  exact ⟨hlisted, hne, List.all_eq_true.mp hupper⟩

theorem mem_statementsOf_iff {parse : SqlParser} {statementsOf : String → List SqlTree}
    (hreads : ReadsAs parse statementsOf) {sql : String} {statements : List (Option SqlTree)}
    (hparse : parse sql = some statements) (t : SqlTree) :
    t ∈ statementsOf sql ↔ some t ∈ statements := by
  rw [← hreads sql statements hparse, List.mem_filterMap]
  simp only [id_eq, exists_eq_right]

/-- Where the words decide, nothing in the text writes. -/
theorem readOnly_of_wordsPass {u : Unicode} (hu : UpperByChar u) {parse : SqlParser}
    {statementsOf : String → List SqlTree} (hshows : ShowsKeywords statementsOf) {sql : String}
    (h : WordsPass u parse sql) : ReadOnly statementsOf sql := by
  intro t ht k hk
  cases hword : k.keyword with
  | none => rfl
  | some word =>
      have hdangerous := keyword_dangerous hword
      -- The word stands in the text, so it is among those that are looked for.
      have hin := mem_sqlWords_of_stands hu hdangerous.2.1 hdangerous.2.2
        (hshows sql t ht k hk word hword)
      exact absurd hin (h.2 word hdangerous.1)

/-- Where the roots decide, what writes is nested. -/
theorem readOnly_of_rootsPass {parse : SqlParser} {statementsOf : String → List SqlTree}
    (hreads : ReadsAs parse statementsOf) {sql : String} (h : RootsPass parse sql)
    (hhides : ¬ HidesWrite parse sql) : ReadOnly statementsOf sql := by
  rcases h with ⟨statements, hparse, _, hroots⟩
  intro t ht k hk
  have hmem := (mem_statementsOf_iff hreads hparse t).mp ht
  rw [SqlTree.kinds_eq] at hk
  -- The root was seen by the check, and what is below it was not.
  rcases List.mem_cons.mp hk with hroot | hbelow
  · rw [hroot]
    exact keyword_of_isQuery (hroots t hmem)
  · by_contra hwrites
    exact hhides ⟨statements, t, k, hparse, hmem, hbelow, hwrites⟩

theorem not_readOnly_of_hidesWrite {parse : SqlParser} {statementsOf : String → List SqlTree}
    (hreads : ReadsAs parse statementsOf) {sql : String} (h : HidesWrite parse sql) :
    ¬ ReadOnly statementsOf sql := by
  intro honly
  rcases h with ⟨statements, t, k, hparse, hmem, hbelow, hwrites⟩
  refine hwrites (honly t ((mem_statementsOf_iff hreads hparse t).mpr hmem) k ?_)
  rw [SqlTree.kinds_eq]
  exact List.mem_cons_of_mem _ hbelow

/-- What passes is read-only, unless it is a query to its roots, with tables
    that pass, and hides a statement that writes. -/
theorem validateSql_readOnly_iff {u : Unicode} (hu : UpperByChar u) {parse : SqlParser}
    {statementsOf : String → List SqlTree} (hreads : ReadsAs parse statementsOf)
    (hshows : ShowsKeywords statementsOf) (sql : String) (allowedTables : Option (List String)) :
    (validateSql u parse sql allowedTables = .ok () → ReadOnly statementsOf sql) ↔
      ¬ (beginsAsQuery u sql = true ∧ RootsPass parse sql ∧ TablesPass u sql allowedTables ∧
        HidesWrite parse sql) := by
  rw [validateSql_ok_iff]
  constructor
  · intro h hhidden
    rcases hhidden with ⟨hbegins, hroots, htables, hhides⟩
    exact not_readOnly_of_hidesWrite hreads hhides (h ⟨hbegins, .inl hroots, htables⟩)
  · intro h hpassed
    rcases hpassed with ⟨hbegins, hroots | hwords, htables⟩
    -- The parser reads the text, and the words are not looked at.
    · refine readOnly_of_rootsPass hreads hroots ?_
      intro hhides
      exact h ⟨hbegins, hroots, htables, hhides⟩
    · exact readOnly_of_wordsPass hu hshows hwords

section Deletion

/-- The classification that knows only ASCII goes character by character. -/
theorem upperByChar_default : UpperByChar default := by
  refine ⟨fun c => [c.toUpper], ?_, ?_⟩
  · intro s
    rw [← String.toList_inj, String.toList_ofList]
    show (String.map Char.toUpper s).toList = _
    rw [String.toList_map]
    induction s.toList with
    | nil => rfl
    | cons c cs ih =>
        rw [List.map_cons, List.flatMap_cons, ih]
        rfl
  · intro c _
    rfl

/-- A query with a deletion in its `WITH` clause. -/
def deletingSql : String := "WITH x AS (DELETE FROM users RETURNING id) SELECT id FROM x"

/-- A query around a deletion. -/
def deletingTree : SqlTree :=
  .node .select [⟨none, "x"⟩] [.node .delete [⟨none, "users"⟩] [] []] []

/-- A parser that reads the query with the deletion and gives up on all
    else. -/
def deletingParser : SqlParser := fun sql =>
  if sql = deletingSql then some [some deletingTree] else none

/-- The parser, on that query. -/
def deletingStatements : String → List SqlTree := fun sql =>
  if sql = deletingSql then [deletingTree] else []

theorem readsAs_deleting : ReadsAs deletingParser deletingStatements := by
  intro sql statements hparse
  unfold deletingParser at hparse
  unfold deletingStatements
  split_ifs at hparse ⊢
  · cases hparse
    rfl

theorem showsKeywords_deleting : ShowsKeywords deletingStatements := by
  intro sql t ht k hk word hword
  unfold deletingStatements at ht
  split_ifs at ht with hsql
  · rw [List.mem_singleton.mp ht] at hk
    have hkinds : deletingTree.kinds = [.select, .delete] := by
      simp only [deletingTree, SqlTree.kinds, SqlTree.kindsList, List.append_nil]
    rw [hkinds] at hk
    rcases List.mem_cons.mp hk with hselect | hrest
    · rw [hselect] at hword
      cases hword
    · rw [List.mem_singleton.mp hrest] at hword
      cases hword
      rw [hsql]
      exact ⟨"WITH x AS (".toList, "DELETE".toList,
        " FROM users RETURNING id) SELECT id FROM x".toList, by decide⟩
  · cases ht

theorem validateSql_readOnly_iff_deleting :
    (validateSql default deletingParser "SELECT 1" none = .ok () →
        ReadOnly deletingStatements "SELECT 1") ↔
      ¬ (beginsAsQuery default "SELECT 1" = true ∧ RootsPass deletingParser "SELECT 1" ∧
        TablesPass default "SELECT 1" none ∧ HidesWrite deletingParser "SELECT 1") :=
  validateSql_readOnly_iff upperByChar_default readsAs_deleting showsKeywords_deleting _ none

/-- The query with the deletion passes, and it is not read-only. -/
theorem validateSql_deletion :
    UpperByChar default ∧ ReadsAs deletingParser deletingStatements ∧
      ShowsKeywords deletingStatements ∧
      validateSql default deletingParser deletingSql none = .ok () ∧
      ¬ ReadOnly deletingStatements deletingSql := by
  have hparse : deletingParser deletingSql = some [some deletingTree] := if_pos rfl
  refine ⟨upperByChar_default, readsAs_deleting, showsKeywords_deleting, ?_, ?_⟩
  · rw [validateSql_ok_iff]
    refine ⟨by decide +kernel, .inl ⟨_, hparse, List.cons_ne_nil _ _, ?_⟩, ?_⟩
    · intro t ht
      rw [List.mem_singleton, Option.some.injEq] at ht
      rw [ht]
      rfl
    · intro allowed hallowed
      cases hallowed
  · refine not_readOnly_of_hidesWrite readsAs_deleting
      ⟨_, deletingTree, .delete, hparse, List.mem_singleton.mpr rfl, ?_, ?_⟩
    · simp only [deletingTree, SqlTree.kindsBelow, SqlTree.kindsList, SqlTree.kinds,
        List.append_nil, List.mem_singleton]
    · exact Option.some_ne_none _

end Deletion

end AgenticRag
