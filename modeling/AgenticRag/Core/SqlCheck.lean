import AgenticRag.Lib.PyVal
import Mathlib.Data.List.TakeWhile

/-!
# The Check of a Statement

Every statement is checked before it is sent to a database. It has to begin
like a query, and then one of two tests is made: a parser reads it and the
roots of what was read have to be queries, or, where there is no parser or it
gives up, none of a list of words may be in it. Given a list of tables, those
the statement seems to name have to be on it.

The parser is a parameter, a function from texts to the statements in them.
A statement is a tree: what kind it is, the tables its own `FROM` and `JOIN`
clauses name, the statements of its `WITH` clause and the statements nested in
it elsewhere.

## Main definitions

* `SqlKind`, `TableName`, `SqlTree`: Statements as a parser reads them.
* `validateSql`: The check.

## Theorems

* `validateSql_ok_iff`: What a statement that passes has passed.
* `mem_sqlWords_of_stands`: A word that stands for itself is found.
-/

namespace AgenticRag

open Py

/-- The kinds of statements that are told apart. -/
inductive SqlKind where
  | select
  | union
  | intersect
  | except
  | subquery
  | withClause
  | insert
  | update
  | delete
  | drop
  | alter
  | truncate
  | create
  | merge
  | other (name : String)
  deriving DecidableEq, Repr

/-- A table as a clause names it. -/
structure TableName where
  schema : Option String := none
  name : String
  deriving DecidableEq, Repr

/-- The name as a whole. -/
def TableName.text (t : TableName) : String :=
  match t.schema with
  | none => t.name
  | some schema => schema ++ "." ++ t.name

/-- A statement as a parser reads it. -/
inductive SqlTree where
  | node (kind : SqlKind) (tables : List TableName) (ctes nested : List SqlTree)

namespace SqlTree

/-- The kind of the statement itself. -/
def kind : SqlTree → SqlKind
  | .node kind _ _ _ => kind

mutual

/-- The kinds of a statement and of all statements in it. -/
def kinds : SqlTree → List SqlKind
  | .node kind _ ctes nested => kind :: (kindsList ctes ++ kindsList nested)

/-- The kinds in some trees. -/
def kindsList : List SqlTree → List SqlKind
  | [] => []
  | t :: ts => kinds t ++ kindsList ts

end

/-- The kinds of the statements in a statement. -/
def kindsBelow : SqlTree → List SqlKind
  | .node _ _ ctes nested => kindsList ctes ++ kindsList nested

mutual

/-- The tables named anywhere in a statement. -/
def tableNames : SqlTree → List TableName
  | .node _ tables ctes nested => tables ++ (tableNamesList ctes ++ tableNamesList nested)

/-- The tables in some trees. -/
def tableNamesList : List SqlTree → List TableName
  | [] => []
  | t :: ts => tableNames t ++ tableNamesList ts

end

theorem kinds_eq (t : SqlTree) : t.kinds = t.kind :: t.kindsBelow := by
  cases t with
  | node kind tables ctes nested => simp only [kinds, SqlTree.kind, kindsBelow]

end SqlTree

/-- What a parser makes of a text: the statements in it, empty ones as
    nothing. There is no result where there is no parser or it gives up. -/
abbrev SqlParser := String → Option (List (Option SqlTree))

/-- Why a statement is turned away. -/
inductive SqlRejection where
  | noWord
  | notQuery (word : String)
  | astKind (kind : SqlKind)
  | keyword (word : String)
  | unknownTables (tables : List String)
  deriving DecidableEq, Repr

section Tables

/-- The letters a keyword's letters match when case is ignored. -/
def anyCase (c : Char) : List Char :=
  if c = 'I' then ['i', 'I', Char.ofNat 0x130, Char.ofNat 0x131] else [c.toLower, c]

/-- A letter of `[a-zA-Z_]` when case is ignored: four letters outside ASCII
    are among them. -/
def isNameStart (c : Char) : Bool :=
  c.isAlpha || c == '_' ||
    [0x130, 0x131, 0x17F, 0x212A].contains c.toNat

/-- A character of a name. -/
def isNameChar (c : Char) : Bool :=
  isNameStart c || c.isDigit

/-- The keyword stands here, whatever its case. -/
def atKeyword (keyword : String) (text : List Char) : Bool :=
  decide (keyword.length ≤ text.length) &&
    (text.zip keyword.toList).all (fun p => decide (p.1 ∈ anyCase p.2))

/-- A keyword, white space and a name, which is read. -/
def scanAfter (keyword : String) (_ : Option Char) (text : List Char) : Option (Nat × String) :=
  let rest := text.drop keyword.length
  let gap := rest.takeWhile isSpace
  let word := (rest.dropWhile isSpace).takeWhile isNameChar
  -- No boundary is asked for before the keyword.
  if atKeyword keyword text ∧ gap ≠ [] ∧
      ((rest.dropWhile isSpace).head?.map isNameStart).getD false then
    some (keyword.length + gap.length + word.length, String.ofList word)
  else none

/-- The tables a statement seems to name: the names right after `FROM` and
    `JOIN`. -/
def extractTables (sql : String) : List String :=
  (reFindall (scanAfter "FROM") none 0 sql.toList ++
    reFindall (scanAfter "JOIN") none 0 sql.toList).eraseDups

end Tables

section Check

/-- The words no statement may hold where there is no parser. -/
def dangerousSqlKeywords : List String :=
  ["DROP", "DELETE", "UPDATE", "INSERT", "ALTER",
    "TRUNCATE", "CREATE", "EXEC", "EXECUTE", "MERGE"]

/-- The kinds the root of a statement may have. -/
def SqlKind.isQuery : SqlKind → Bool
  | .select => true
  | .union => true
  | .subquery => true
  | .withClause => true
  | .intersect => true
  | .except => true
  | _ => false

/-- The first root that is no query raises. -/
def checkRoots : List (Option SqlTree) → Except SqlRejection Unit
  | [] => .ok ()
  -- A statement between two semicolons may be empty.
  | none :: rest => checkRoots rest
  | some t :: rest => if t.kind.isQuery then checkRoots rest else .error (.astKind t.kind)

/-- The test by the parser. Where it is of no use the answer is `false`. -/
def validateSqlAst (parse : SqlParser) (sql : String) : Except SqlRejection Bool :=
  match parse sql with
  | none => .ok false
  | some [] => .ok false
  | some statements => (checkRoots statements).map (fun _ => true)

/-- A character of `[A-Z_]`. -/
def isUpperOrUnderscore (c : Char) : Bool :=
  c.isUpper || c == '_'

/-- A word of capital letters, as long as it can be. -/
def scanWord (_ : Option Char) (text : List Char) : Option (Nat × String) :=
  let word := text.takeWhile isUpperOrUnderscore
  if word = [] then none else some (word.length, String.ofList word)

/-- The words of a text that is in upper case. -/
def sqlWords (sqlUpper : String) : List String :=
  reFindall scanWord none 0 sqlUpper.toList

/-- The test by words. -/
def validateSqlBlacklist (u : Unicode) (sql : String) : Except SqlRejection Unit :=
  let words := sqlWords (u.upper (strip sql))
  match dangerousSqlKeywords.find? (fun keyword => decide (keyword ∈ words)) with
  | some keyword => .error (.keyword keyword)
  | none => .ok ()

/-- The first word of a text. -/
def firstWord (s : String) : String :=
  String.ofList ((s.toList.dropWhile isSpace).takeWhile (fun c => !isSpace c))

/-- The beginning of a query. -/
def beginsAsQuery (u : Unicode) (sql : String) : Bool :=
  startsWith (u.upper (strip sql)) "SELECT" || startsWith (u.upper (strip sql)) "WITH"

/-- The tables a statement seems to name that are not on a list. -/
def unknownTables (u : Unicode) (sql : String) (allowed : List String) : List String :=
  ((extractTables sql).map u.lower).filter (fun t => decide (t ∉ allowed.map u.lower))

/-- The test by the parser, or else the one by words. -/
def checkReadOnly (u : Unicode) (parse : SqlParser) (sql : String) : Except SqlRejection Unit := do
  -- Where the parser has decided, the words are not looked at.
  let decided ← validateSqlAst parse sql
  if decided then pure () else validateSqlBlacklist u sql

/-- The test of the tables, where there is a list of them. -/
def checkTables (u : Unicode) (sql : String) : Option (List String) → Except SqlRejection Unit
  | none => pure ()
  | some allowed =>
      -- Names are compared in lower case.
      if unknownTables u sql allowed = [] then pure ()
      else throw (.unknownTables (unknownTables u sql allowed))

/-- Check a statement. -/
def validateSql (u : Unicode) (parse : SqlParser) (sql : String)
    (allowedTables : Option (List String)) : Except SqlRejection Unit :=
  if beginsAsQuery u sql then do
    checkReadOnly u parse sql
    checkTables u sql allowedTables
  else
    let word := firstWord (u.upper (strip sql))
    throw (if word = "" then .noWord else .notQuery word)

end Check

section Passed

variable {u : Unicode} {parse : SqlParser} {sql : String}

theorem checkRoots_ok_iff (statements : List (Option SqlTree)) :
    checkRoots statements = .ok () ↔ ∀ t, some t ∈ statements → t.kind.isQuery = true := by
  induction statements with
  | nil =>
      constructor
      · intro _ t ht
        cases ht
      · intro _
        rfl
  | cons statement rest ih =>
      cases statement with
      | none =>
          unfold checkRoots
          rw [ih]
          simp only [List.mem_cons, reduceCtorEq, false_or]
      | some t =>
          unfold checkRoots
          by_cases hquery : t.kind.isQuery = true
          · rw [if_pos hquery, ih]
            simp only [List.mem_cons, Option.some.injEq, forall_eq_or_imp, hquery, true_and]
          · rw [if_neg hquery]
            constructor
            · intro h
              cases h
            · intro h
              exact absurd (h t List.mem_cons_self) hquery

/-- The parser reads the text, and the roots of what it reads are queries. -/
def RootsPass (parse : SqlParser) (sql : String) : Prop :=
  ∃ statements, parse sql = some statements ∧ statements ≠ [] ∧
    ∀ t, some t ∈ statements → t.kind.isQuery = true

/-- The parser is of no use, and none of the words is in the text. -/
def WordsPass (u : Unicode) (parse : SqlParser) (sql : String) : Prop :=
  (parse sql = none ∨ parse sql = some []) ∧
    ∀ keyword ∈ dangerousSqlKeywords, keyword ∉ sqlWords (u.upper (strip sql))

/-- The tables the text seems to name are on the list, if there is one. -/
def TablesPass (u : Unicode) (sql : String) (allowedTables : Option (List String)) : Prop :=
  ∀ allowed, allowedTables = some allowed →
    ∀ t ∈ extractTables sql, u.lower t ∈ allowed.map u.lower

theorem validateSqlBlacklist_ok_iff :
    validateSqlBlacklist u sql = .ok () ↔
      ∀ keyword ∈ dangerousSqlKeywords, keyword ∉ sqlWords (u.upper (strip sql)) := by
  unfold validateSqlBlacklist
  dsimp only
  split
  next keyword hfound =>
    have hmem := List.mem_of_find?_eq_some hfound
    have hin : keyword ∈ sqlWords (u.upper (strip sql)) := by
      have hsome := List.find?_some hfound
      exact of_decide_eq_true hsome
    constructor
    · intro h
      cases h
    · intro h
      exact absurd hin (h keyword hmem)
  next hnone =>
    rw [List.find?_eq_none] at hnone
    constructor
    · intro _ keyword hkeyword hin
      exact hnone keyword hkeyword (decide_eq_true hin)
    · intro _
      rfl

theorem unknownTables_eq_nil_iff (allowed : List String) :
    unknownTables u sql allowed = [] ↔
      ∀ t ∈ extractTables sql, u.lower t ∈ allowed.map u.lower := by
  unfold unknownTables
  rw [List.filter_eq_nil_iff]
  constructor
  · intro h t ht
    by_contra hnot
    exact h (u.lower t) (List.mem_map_of_mem ht) (decide_eq_true hnot)
  · intro h t ht hnot
    rcases List.mem_map.mp ht with ⟨s, hs, hst⟩
    rw [← hst] at hnot
    exact of_decide_eq_true hnot (h s hs)

/-- Where the parser is of no use the words decide. -/
theorem checkReadOnly_of_undecided (h : validateSqlAst parse sql = .ok false) :
    checkReadOnly u parse sql = validateSqlBlacklist u sql := by
  unfold checkReadOnly
  rw [h]
  rfl

theorem checkReadOnly_of_parsed {statements : List (Option SqlTree)}
    (hparse : parse sql = some statements) (hne : statements ≠ []) :
    checkReadOnly u parse sql = checkRoots statements := by
  unfold checkReadOnly validateSqlAst
  rw [hparse]
  cases statements with
  | nil => exact absurd rfl hne
  | cons statement rest =>
      dsimp only
      cases checkRoots (statement :: rest) with
      | error e => rfl
      | ok a => rfl

theorem checkReadOnly_ok_iff :
    checkReadOnly u parse sql = .ok () ↔ RootsPass parse sql ∨ WordsPass u parse sql := by
  by_cases hdecides : ∃ statements, parse sql = some statements ∧ statements ≠ []
  · rcases hdecides with ⟨statements, hparse, hne⟩
    rw [checkReadOnly_of_parsed hparse hne, checkRoots_ok_iff]
    constructor
    · intro h
      exact .inl ⟨statements, hparse, hne, h⟩
    · intro h
      rcases h with ⟨statements', hparse', _, hroots⟩ | ⟨hnone, _⟩
      · rw [hparse, Option.some.injEq] at hparse'
        rw [hparse']
        exact hroots
      · rw [hparse, Option.some.injEq] at hnone
        rcases hnone with hnone | hnil
        · cases hnone
        · exact absurd hnil hne
  · have huseless : parse sql = none ∨ parse sql = some [] := by
      cases hparse : parse sql with
      | none => exact .inl rfl
      | some statements =>
          by_cases hnil : statements = []
          · exact .inr (by rw [hnil])
          · exact absurd ⟨statements, hparse, hnil⟩ hdecides
    have hundecided : validateSqlAst parse sql = .ok false := by
      unfold validateSqlAst
      rcases huseless with h | h <;> rw [h]
    rw [checkReadOnly_of_undecided hundecided, validateSqlBlacklist_ok_iff]
    constructor
    · intro h
      exact .inr ⟨huseless, h⟩
    · intro h
      rcases h with ⟨statements, hparse, hne, _⟩ | ⟨_, hwords⟩
      · exact absurd ⟨statements, hparse, hne⟩ hdecides
      · exact hwords

theorem checkTables_ok_iff (allowedTables : Option (List String)) :
    checkTables u sql allowedTables = .ok () ↔ TablesPass u sql allowedTables := by
  cases allowedTables with
  | none =>
      constructor
      · intro _ allowed h
        cases h
      · intro _
        rfl
  | some allowed =>
      unfold checkTables TablesPass
      simp only [Option.some.injEq, forall_eq']
      rw [← unknownTables_eq_nil_iff]
      split
      next h =>
        constructor
        · intro _
          exact h
        · intro _
          rfl
      next h =>
        constructor
        · intro hok
          cases hok
        · intro hnil
          exact absurd hnil h

/-- What a statement that passes the check has passed. -/
theorem validateSql_ok_iff (allowedTables : Option (List String)) :
    validateSql u parse sql allowedTables = .ok () ↔
      beginsAsQuery u sql = true ∧ (RootsPass parse sql ∨ WordsPass u parse sql) ∧
        TablesPass u sql allowedTables := by
  rw [← checkReadOnly_ok_iff, ← checkTables_ok_iff]
  unfold validateSql
  split
  next hbegins =>
    constructor
    · intro h
      rcases exists_of_bind_ok h with ⟨_, hread, htables⟩
      exact ⟨hbegins, hread, htables⟩
    · intro h
      rw [h.2.1]
      exact h.2.2
  next hbegins =>
    constructor
    · intro h
      cases h
    · intro h
      exact absurd h.1 hbegins

end Passed

section Words

/-- A character that ends a word wherever it stands. -/
def isSeparator (c : Char) : Bool :=
  decide (c.toNat < 128) && !(c.isAlphanum || c == '_')

/-- A word stands in a text for itself, whatever its case. -/
def Stands (word text : String) : Prop :=
  ∃ before here after : List Char, text.toList = before ++ here ++ after ∧
    here.map Char.toUpper = word.toList ∧
    before.getLast?.all isSeparator = true ∧ after.head?.all isSeparator = true

/-- Texts are put into upper case character by character, and the ASCII
    characters among them as usual. -/
def UpperByChar (u : Unicode) : Prop :=
  ∃ up : Char → List Char, (∀ s, u.upper s = String.ofList (s.toList.flatMap up)) ∧
    ∀ c, c.toNat < 128 → up c = [c.toUpper]

theorem toUpper_of_isSeparator {c : Char} (h : isSeparator c = true) :
    c.toUpper = c ∧ isUpperOrUnderscore c = false := by
  simp only [isSeparator, Bool.and_eq_true, Bool.not_eq_true', Bool.or_eq_false_iff] at h
  rcases h with ⟨_, halnum, hunderscore⟩
  have halpha : (c.isUpper || c.isLower) = false := (Bool.or_eq_false_iff.mp halnum).1
  rcases Bool.or_eq_false_iff.mp halpha with ⟨hupper, hlower⟩
  constructor
  · unfold Char.toUpper
    split
    next hrange =>
      have htrue : c.isLower = true :=
        Bool.and_eq_true_iff.mpr ⟨decide_eq_true hrange.1, decide_eq_true hrange.2⟩
      rw [hlower] at htrue
      cases htrue
    next => rfl
  · simp only [isUpperOrUnderscore, hupper, hunderscore, Bool.or_self]

/-- Where a text ends in a separator, a word that begins with it does not reach
    its end. -/
theorem not_full_takeWhile {p : Char → Bool} {c : Char} {cs : List Char} (hc : p c = true)
    (hlast : (c :: cs).getLast?.all (fun d => !p d) = true) :
    ¬ (cs.takeWhile p).length = cs.length := by
  intro hfull
  have hself : cs.takeWhile p = cs := (List.takeWhile_prefix p).eq_of_length hfull
  cases cs with
  | nil =>
      simp only [List.getLast?_singleton, Option.all_some, hc, Bool.not_true,
        Bool.false_eq_true] at hlast
  | cons d ds =>
      have hmem : (d :: ds).getLast (List.cons_ne_nil d ds) ∈ (d :: ds).takeWhile p := by
        rw [hself]
        exact List.getLast_mem _
      have hp := List.mem_takeWhile_imp hmem
      rw [List.getLast?_cons_cons, List.getLast?_eq_some_getLast (List.cons_ne_nil d ds),
        Option.all_some, hp] at hlast
      cases hlast

/-- A word between characters that are not of words is found. -/
theorem mem_reFindall_scanWord {word : List Char} (hword : word ≠ [])
    (hall : ∀ c ∈ word, isUpperOrUnderscore c = true) {after : List Char}
    (hafter : after.head?.all (fun c => !isUpperOrUnderscore c) = true) (text : List Char)
    (hlast : text.getLast?.all (fun c => !isUpperOrUnderscore c) = true) (before : Option Char)
    (skip : Nat) (hskip : skip ≤ (text.takeWhile isUpperOrUnderscore).length) :
    String.ofList word ∈ reFindall scanWord before skip (text ++ (word ++ after)) := by
  induction text generalizing before skip with
  | nil =>
      -- The word begins here, and it goes no further than its own characters.
      have htake : (word ++ after).takeWhile isUpperOrUnderscore = word := by
        rw [List.takeWhile_append_of_pos hall]
        cases after with
        | nil => simp only [List.takeWhile_nil, List.append_nil]
        | cons a as =>
            simp only [List.head?_cons, Option.all_some, Bool.not_eq_true'] at hafter
            rw [List.takeWhile_cons_of_neg (by rw [hafter]; exact Bool.false_ne_true),
              List.append_nil]
      have hzero : skip = 0 := Nat.le_zero.mp hskip
      cases word with
      | nil => exact absurd rfl hword
      | cons w ws =>
          rw [hzero, List.nil_append, List.cons_append]
          unfold reFindall
          have hscan : scanWord before (w :: (ws ++ after)) =
              some (ws.length + 1, String.ofList (w :: ws)) := by
            unfold scanWord
            rw [← List.cons_append, htake]
            simp only [reduceCtorEq, if_false, List.length_cons]
          rw [hscan]
          exact List.mem_cons_self
  | cons c cs ih =>
      have hlast' : cs.getLast?.all (fun c => !isUpperOrUnderscore c) = true := by
        cases cs with
        | nil => rfl
        | cons d ds => rwa [List.getLast?_cons_cons] at hlast
      rw [List.cons_append]
      cases skip with
      | succ k =>
          unfold reFindall
          refine ih hlast' _ k ?_
          by_cases hc : isUpperOrUnderscore c = true
          · rw [List.takeWhile_cons_of_pos hc, List.length_cons] at hskip
            omega
          · rw [List.takeWhile_cons_of_neg hc, List.length_nil] at hskip
            omega
      | zero =>
          by_cases hc : isUpperOrUnderscore c = true
          · -- A word that begins before ends before: the text ends in a separator.
            have hstop : ((cs ++ (word ++ after)).takeWhile isUpperOrUnderscore).length =
                (cs.takeWhile isUpperOrUnderscore).length := by
              rw [List.takeWhile_append, if_neg (not_full_takeWhile hc hlast)]
            unfold reFindall
            have hscan : scanWord before (c :: (cs ++ (word ++ after))) =
                some (((cs ++ (word ++ after)).takeWhile isUpperOrUnderscore).length + 1,
                  String.ofList (c :: (cs ++ (word ++ after)).takeWhile isUpperOrUnderscore)) := by
              unfold scanWord
              rw [List.takeWhile_cons_of_pos hc]
              simp only [reduceCtorEq, if_false, List.length_cons]
            rw [hscan]
            exact List.mem_cons_of_mem _ (ih hlast' _ _ (Nat.le_of_eq hstop))
          · unfold reFindall
            have hscan : scanWord before (c :: (cs ++ (word ++ after))) = none := by
              unfold scanWord
              rw [List.takeWhile_cons_of_neg hc]
              rfl
            rw [hscan]
            exact ih hlast' _ 0 (Nat.zero_le _)

theorem toNat_lt_of_isUpper_toUpper {c : Char} (h : c.toUpper.isUpper = true) :
    c.toNat < 128 := by
  unfold Char.toUpper at h
  split at h
  next hrange =>
    have hle : c.val.toNat ≤ 'z'.val.toNat := UInt32.le_iff_toNat_le.mp hrange.2
    have hz : 'z'.val.toNat = 122 := rfl
    show c.val.toNat < 128
    omega
  next =>
    have hrange : c.val ≥ 'A'.val ∧ c.val ≤ 'Z'.val := of_decide_eq_true h
    have hle : c.val.toNat ≤ 'Z'.val.toNat := UInt32.le_iff_toNat_le.mp hrange.2
    have hz : 'Z'.val.toNat = 90 := rfl
    show c.val.toNat < 128
    omega

theorem flatMap_eq_map {up : Char → List Char} (hascii : ∀ c, c.toNat < 128 → up c = [c.toUpper])
    {cs : List Char} (hcs : ∀ c ∈ cs, c.toNat < 128) : cs.flatMap up = cs.map Char.toUpper := by
  induction cs with
  | nil => rfl
  | cons c cs ih =>
      rw [List.flatMap_cons, hascii c (hcs c List.mem_cons_self),
        ih (fun d hd => hcs d (List.mem_cons_of_mem c hd))]
      rfl

theorem toNat_lt_of_isSeparator {c : Char} (h : isSeparator c = true) : c.toNat < 128 := by
  simp only [isSeparator, Bool.and_eq_true, decide_eq_true_eq] at h
  exact h.1

/-- What ends in a separator does so in upper case too. -/
theorem getLast_flatMap {up : Char → List Char} (hascii : ∀ c, c.toNat < 128 → up c = [c.toUpper])
    {cs : List Char} (h : cs.getLast?.all isSeparator = true) :
    (cs.flatMap up).getLast?.all (fun c => !isUpperOrUnderscore c) = true := by
  rcases List.eq_nil_or_concat cs with hnil | ⟨rest, c, hcs⟩
  · rw [hnil]
    rfl
  · rw [List.concat_eq_append] at hcs
    rw [hcs, List.getLast?_concat, Option.all_some] at h
    have hup := toUpper_of_isSeparator h
    rw [hcs, List.flatMap_append, List.flatMap_singleton, hascii c (toNat_lt_of_isSeparator h),
      hup.1, List.getLast?_concat, Option.all_some, hup.2]
    rfl

theorem head_flatMap {up : Char → List Char} (hascii : ∀ c, c.toNat < 128 → up c = [c.toUpper])
    {cs : List Char} (h : cs.head?.all isSeparator = true) :
    (cs.flatMap up).head?.all (fun c => !isUpperOrUnderscore c) = true := by
  cases cs with
  | nil => rfl
  | cons c cs =>
      rw [List.head?_cons, Option.all_some] at h
      have hup := toUpper_of_isSeparator h
      rw [List.flatMap_cons, hascii c (toNat_lt_of_isSeparator h), hup.1, List.singleton_append,
        List.head?_cons, Option.all_some, hup.2]
      rfl

/-- A word that stands in a text for itself is among its words. -/
theorem mem_sqlWords_of_stands {u : Unicode} (hu : UpperByChar u) {word text : String}
    (hword : word ≠ "") (hupper : ∀ c ∈ word.toList, c.isUpper = true)
    (h : Stands word text) : word ∈ sqlWords (u.upper text) := by
  rcases hu with ⟨up, hup, hascii⟩
  rcases h with ⟨before, here, after, htext, hhere, hbefore, hafter⟩
  have hsmall : ∀ c ∈ here, c.toNat < 128 := by
    intro c hc
    refine toNat_lt_of_isUpper_toUpper (hupper _ ?_)
    rw [← hhere]
    exact List.mem_map_of_mem hc
  have htoList : (u.upper text).toList =
      before.flatMap up ++ (word.toList ++ after.flatMap up) := by
    rw [hup, String.toList_ofList, htext, List.flatMap_append, List.flatMap_append,
      flatMap_eq_map hascii hsmall, hhere, List.append_assoc]
  unfold sqlWords
  rw [htoList, ← String.ofList_toList (s := word)]
  rw [String.toList_ofList]
  refine mem_reFindall_scanWord ?_ ?_ (head_flatMap hascii hafter) _
    (getLast_flatMap hascii hbefore) none 0 (Nat.zero_le _)
  · intro hnil
    exact hword (String.toList_eq_nil_iff.mp hnil)
  · intro c hc
    simp only [isUpperOrUnderscore, hupper c hc, Bool.true_or]

end Words

end AgenticRag
