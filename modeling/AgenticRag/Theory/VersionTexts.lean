import AgenticRag.Core.VersionConstraint
import AgenticRag.Lib.JsonRoundTrip
import AgenticRag.Lib.Paths

/-!
# The Texts of Versions

Versions and constraints are texts, and how they are read is where a constraint
may go wrong. This module says what the texts of versions and of comparisons stand
for, and that they are read so.

A version is three numbers with dots between them. A comparison is an operator in
front of up to three numbers, or of fewer with a star behind them
(`readComparison`). The simple reading of a comparison gives the same numbers,
and the same operator unless it is `~=` (`all_readSpec`). The text
that a caret or a tilde is replaced by is that of two comparisons
(`comparisonsOf_rangeText`).

## Main definitions

* `Semver.text`: The text of a version.
* `Comparison.holds`: The versions that meet a comparison.

## Theorems

* `parseSemver_of_releaseOf`: Up to three numbers are read as such.
* `comparisonsOf_rangeText`: The text of a range is two comparisons.
* `cmp_of_readSpec`, `all_readSpec`: The simple reading of comparisons.
-/

namespace AgenticRag

namespace Versions

open Py Py.Json Ordered

section Order

theorem Semver.lt_iff (v w : Semver) : v < w ↔ v.major < w.major ∨ v.major = w.major ∧
    (v.minor < w.minor ∨ v.minor = w.minor ∧ v.patch < w.patch) := by
  change v.toTuple < w.toTuple ↔ _
  rw [Semver.toTuple, Semver.toTuple, Prod.Lex.toLex_lt_toLex, Prod.Lex.toLex_lt_toLex]

theorem Semver.le_iff (v w : Semver) : v ≤ w ↔ v.major < w.major ∨ v.major = w.major ∧
    (v.minor < w.minor ∨ v.minor = w.minor ∧ v.patch ≤ w.patch) := by
  change v.toTuple ≤ w.toTuple ↔ _
  rw [Semver.toTuple, Semver.toTuple, Prod.Lex.toLex_le_toLex, Prod.Lex.toLex_le_toLex]

end Order

section Numerals

/-- The text of a version. -/
def Semver.text (v : Semver) : String :=
  toString v.major ++ "." ++ toString v.minor ++ "." ++ toString v.patch

/-- The number a part of a version is. -/
def numberOf (part : String) : Option Nat :=
  if part ≠ "" ∧ ∀ c ∈ part.toList, c.isDigit = true then some (intOfDigits part.toList) else none

/-- Up to three numbers with dots between them. -/
def releaseOf (text : String) : Option (List Nat) :=
  if (split text ".").length ≤ 3 then (split text ".").mapM numberOf else none

theorem isDecimal_of_isDigit {c : Char} (h : c.isDigit = true) : isDecimal c = true := by
  rw [isDecimal, decimalValue_of_isDigit h]
  rfl

theorem isSpace_of_isDigit {c : Char} (h : c.isDigit = true) : isSpace c = false := by
  have hbounds : 0x30 ≤ c.toNat ∧ c.toNat ≤ 0x39 := by
    simp only [Char.isDigit, Bool.and_eq_true, decide_eq_true_eq, UInt32.le_iff_toNat_le] at h
    exact h
  simp only [isSpace, decide_eq_false_iff_not]
  omega

theorem leadingNumber_of_numberOf {part : String} {n : Nat} (h : numberOf part = some n) :
    leadingNumber part = n := by
  rw [numberOf] at h
  split_ifs at h with hdigits
  cases h
  rw [leadingNumber, List.takeWhile_eq_self_iff.mpr fun c hc =>
    isDecimal_of_isDigit (hdigits.2 c hc)]

theorem map_leadingNumber {parts : List String} {ns : List Nat}
    (h : parts.mapM numberOf = some ns) : parts.map leadingNumber = ns := by
  have hall := forall₂_of_mapM_some h
  clear h
  induction hall with
  | nil => rfl
  | cons hn _ ih => rw [List.map_cons, leadingNumber_of_numberOf hn, ih]

/-- Up to three numbers are read as such. -/
theorem parseSemver_of_releaseOf {text : String} {ns : List Nat}
    (h : releaseOf (strip text) = some ns) : parseSemver text = semverOf ns := by
  rw [releaseOf] at h
  split_ifs at h with hlength
  rw [parseSemver, List.take_of_length_le hlength, map_leadingNumber h]

theorem numberOf_toString (n : Nat) : numberOf (toString n) = some n := by
  have hdigits : (toString n).toList = Nat.toDigits 10 n := by
    simp [toString, Nat.repr]
  have hne : toString n ≠ "" := by
    intro h
    have hnil := congrArg String.toList h
    rw [hdigits] at hnil
    exact Nat.toDigits_ne_nil hnil
  rw [numberOf, hdigits, if_pos ⟨hne, fun c => isDigit_of_mem_toDigits⟩, intOfDigits_toDigits]

theorem toString_isDigit (n : Nat) : ∀ c ∈ (toString n).toList, c.isDigit = true := by
  have h := numberOf_toString n
  rw [numberOf] at h
  split_ifs at h with hdigits
  exact hdigits.2

theorem split_text (v : Semver) :
    split v.text "." = [toString v.major, toString v.minor, toString v.patch] := by
  have hjoin : v.text = join "." [toString v.major, toString v.minor, toString v.patch] := by
    simp [Semver.text, join, String.append_assoc]
  rw [hjoin]
  refine split_join rfl (List.cons_ne_nil _ _) fun p hp => ?_
  have hdigits : ∀ c ∈ p.toList, c.isDigit = true := by
    rcases List.mem_cons.mp hp with rfl | hp
    · exact toString_isDigit _
    rcases List.mem_cons.mp hp with rfl | hp
    · exact toString_isDigit _
    rw [List.mem_singleton.mp hp]
    exact toString_isDigit _
  intro hdot
  exact absurd (hdigits '.' hdot) (by decide)

theorem releaseOf_text (v : Semver) : releaseOf v.text = some [v.major, v.minor, v.patch] := by
  rw [releaseOf, split_text, if_pos (by simp)]
  simp only [List.mapM_cons, List.mapM_nil, numberOf_toString]
  rfl

/-- The characters of a version. -/
theorem text_chars (v : Semver) : ∀ c ∈ v.text.toList, c.isDigit = true ∨ c = '.' := by
  have hlist : v.text.toList = (toString v.major).toList ++ '.' :: ((toString v.minor).toList ++
      '.' :: (toString v.patch).toList) := by
    simp [Semver.text]
  intro c hc
  rw [hlist] at hc
  simp only [List.mem_append, List.mem_cons] at hc
  rcases hc with hc | rfl | hc | rfl | hc
  · exact .inl (toString_isDigit _ c hc)
  · exact .inr rfl
  · exact .inl (toString_isDigit _ c hc)
  · exact .inr rfl
  · exact .inl (toString_isDigit _ c hc)

theorem strip_text (v : Semver) : strip v.text = v.text := by
  have hspace := strip_of_not_space fun c (hc : c ∈ v.text.toList) => by
    rcases text_chars v c hc with hdigit | rfl
    · exact isSpace_of_isDigit hdigit
    · decide
  rwa [String.ofList_toList] at hspace

/-- A version is read as what it is. -/
theorem parseSemver_text (v : Semver) : parseSemver v.text = v := by
  have hrelease : releaseOf (strip v.text) = some [v.major, v.minor, v.patch] := by
    rw [strip_text, releaseOf_text]
  rw [parseSemver_of_releaseOf hrelease]
  rfl

theorem Semver.text_injective : Function.Injective Semver.text := fun v w h => by
  rw [← parseSemver_text v, h, parseSemver_text]

end Numerals

section Comparisons

/-- The comparisons. -/
inductive CompareOp where
  | ge
  | le
  | eq
  | ne
  | compatible
  | gt
  | lt
  deriving DecidableEq, Repr

/-- The operators, with those first that another is the front of. -/
def symbols : List (String × CompareOp) :=
  [(">=", .ge), ("<=", .le), ("==", .eq), ("!=", .ne), ("~=", .compatible), (">", .gt),
    ("<", .lt)]

/-- A comparison with up to three numbers, or with those a version starts with. -/
structure Comparison where
  op : CompareOp
  release : List Nat
  wild : Bool := false

/-- The numbers of a version start with some numbers. -/
def Semver.startsWith (v : Semver) (nums : List Nat) : Bool :=
  nums.isPrefixOf [v.major, v.minor, v.patch]

/-- A version meets a comparison. -/
def Comparison.holds (c : Comparison) (v : Semver) : Bool :=
  match c.op with
  | .ge => decide (semverOf c.release ≤ v)
  | .le => decide (v ≤ semverOf c.release)
  | .eq => if c.wild then v.startsWith c.release else decide (v = semverOf c.release)
  | .ne => if c.wild then !v.startsWith c.release else decide (v ≠ semverOf c.release)
  | .compatible => decide (semverOf c.release ≤ v) && v.startsWith c.release.dropLast
  | .gt => decide (semverOf c.release < v)
  | .lt => decide (v < semverOf c.release)

/-- What stands behind an operator: numbers, or for some operators numbers and a
    star. -/
def readOperand (op : CompareOp) (text : String) : Option Comparison :=
  match releaseOf text with
  | some release =>
      if op = .compatible ∧ release.length < 2 then none else some { op := op, release := release }
  | none =>
      if (op = .eq ∨ op = .ne) ∧ (split text ".").getLast? = some "*" then
        (releaseOf (join "." (split text ".").dropLast)).map (fun release =>
          { op := op, release := release, wild := true })
      else none

/-- Reads a comparison. -/
def readComparison (s : String) : Option Comparison :=
  (symbols.find? (fun symbol => startsWith s symbol.1)).bind (fun symbol =>
    readOperand symbol.2 (strip (dropFront s symbol.1.length)))

/-- Comparisons with commas between them. -/
def comparisonsOf (text : String) : Option (List Comparison) :=
  (pieces text).mapM readComparison

/-- A comparison with one of the simple operators, and without a star. -/
def Comparison.Simple (c : Comparison) : Prop := c.op ≠ .compatible ∧ c.wild = false

instance (c : Comparison) : Decidable c.Simple :=
  inferInstanceAs (Decidable (c.op ≠ .compatible ∧ c.wild = false))

/-- The simple operators are found where they are. -/
theorem find_operator {s : String} {symbol : String × CompareOp}
    (h : symbols.find? (fun symbol => startsWith s symbol.1) = some symbol)
    (hop : symbol.2 ≠ .compatible) :
    operators.find? (fun op => startsWith s op) = some symbol.1 := by
  have hoperators : operators =
      (symbols.filter (fun symbol => decide (symbol.2 ≠ .compatible))).map Prod.fst := rfl
  rcases List.find?_eq_some_iff_append.mp h with ⟨hfound, before, after, hsplit, hbefore⟩
  rw [hoperators, List.find?_map, List.find?_filter, List.find?_eq_some_iff_append.mpr
    ⟨by simpa [hop] using hfound, before, after, hsplit, fun other hother => ?_⟩]
  · rfl
  · have hnot := hbefore other hother
    simp_all

/-- The simple reading of a simple comparison is the same comparison. -/
theorem cmp_of_readSpec {s : String} {c : Comparison} (h : readComparison s = some c)
    (hsimple : c.Simple) :
    ∃ spec, readSpec s = some spec ∧ ∀ v, cmp v spec.1 spec.2 = c.holds v := by
  rcases Option.bind_eq_some_iff.mp h with ⟨symbol, hsymbol, hoperand⟩
  -- A simple comparison has just numbers behind its operator.
  have hc : c.op = symbol.2 ∧ parseSemver (dropFront s symbol.1.length) = semverOf c.release := by
    rw [readOperand] at hoperand
    split at hoperand
    next release hrelease =>
      split_ifs at hoperand
      cases hoperand
      exact ⟨rfl, parseSemver_of_releaseOf hrelease⟩
    next =>
      split_ifs at hoperand
      rcases Option.map_eq_some_iff.mp hoperand with ⟨release, -, rfl⟩
      cases hsimple.2
  have hwild := hsimple.2
  have hop := hsimple.1
  rw [hc.1] at hop
  have hspec : readSpec s = some (symbol.1, semverOf c.release) := by
    rw [readSpec, find_operator hsymbol hop, Option.map_some, hc.2]
  refine ⟨_, hspec, fun v => ?_⟩
  have hmem := List.mem_of_find?_eq_some hsymbol
  simp only [symbols, List.mem_cons, List.not_mem_nil, or_false] at hmem
  rw [Comparison.holds, hc.1, hwild]
  rcases hmem with rfl | rfl | rfl | rfl | rfl | rfl | rfl
  case inr.inr.inr.inr.inl => exact absurd rfl hop
  all_goals simp [cmp]

/-- The simple reading of simple comparisons is the same comparisons. -/
theorem all_readSpec {parts : List String} {cs : List Comparison}
    (h : parts.mapM readComparison = some cs) (hsimple : ∀ c ∈ cs, c.Simple) (v : Semver) :
    (parts.filterMap readSpec).all (fun spec => cmp v spec.1 spec.2) = cs.all (·.holds v) := by
  have hall := forall₂_of_mapM_some h
  clear h
  induction hall with
  | nil => rfl
  | cons hc _ ih =>
      rw [List.forall_mem_cons] at hsimple
      rcases cmp_of_readSpec hc hsimple.1 with ⟨spec, hspec, hcmp⟩
      rw [List.filterMap_cons_some hspec, List.all_cons, List.all_cons, hcmp, ih hsimple.2]

/-- A text starts with a digit if it is that of a version. -/
theorem text_head (v : Semver) : ∃ c cs, v.text.toList = c :: cs ∧ c.isDigit = true := by
  have hmajor := toString_isDigit v.major
  cases hdigits : (toString v.major).toList with
  | nil =>
      have hnumber := numberOf_toString v.major
      rw [numberOf, if_neg fun h => h.1 (String.toList_eq_nil_iff.mp hdigits)] at hnumber
      cases hnumber
  | cons c cs =>
      rw [hdigits, List.forall_mem_cons] at hmajor
      refine ⟨c, cs ++ ('.' :: (toString v.minor).toList ++ '.' :: (toString v.patch).toList), ?_,
        hmajor.1⟩
      simp only [Semver.text, String.toList_append, hdigits]
      simp

theorem dropFront_append (front rest : String) : dropFront (front ++ rest) front.length = rest := by
  rw [dropFront, String.toList_append, ← String.length_toList, List.drop_left, String.ofList_toList]

theorem readComparison_ge (v : Semver) :
    readComparison (">=" ++ v.text) =
      some { op := .ge, release := [v.major, v.minor, v.patch] } := by
  have hfound : symbols.find? (fun symbol => startsWith (">=" ++ v.text) symbol.1) =
      some (">=", .ge) := by
    simp [symbols, startsWith]
  rw [readComparison, hfound, Option.bind_some, dropFront_append, strip_text, readOperand,
    releaseOf_text]
  rfl

theorem readComparison_lt (v : Semver) :
    readComparison ("<" ++ v.text) =
      some { op := .lt, release := [v.major, v.minor, v.patch] } := by
  rcases text_head v with ⟨c, cs, hlist, hdigit⟩
  have hne : '=' ≠ c := by
    rintro rfl
    exact absurd hdigit (by decide)
  have hfound : symbols.find? (fun symbol => startsWith ("<" ++ v.text) symbol.1) =
      some ("<", .lt) := by
    simp [symbols, startsWith, hlist, hne]
  rw [readComparison, hfound, Option.bind_some, dropFront_append, strip_text, readOperand,
    releaseOf_text]
  rfl

theorem rangeText_eq_join (lower upper : Semver) :
    rangeText lower upper = join "," [">=" ++ lower.text, "<" ++ upper.text] := by
  have htext : rangeText lower upper = ">=" ++ toString lower.major ++ "." ++
      toString lower.minor ++ "." ++ toString lower.patch ++ ",<" ++ toString upper.major ++ "." ++
      toString upper.minor ++ "." ++ toString upper.patch := rfl
  rw [← String.toList_inj, htext]
  simp [Semver.text, join]

/-- The text of a range is two comparisons. -/
theorem comparisonsOf_rangeText (lower upper : Semver) :
    comparisonsOf (rangeText lower upper) =
      some [{ op := .ge, release := [lower.major, lower.minor, lower.patch] },
        { op := .lt, release := [upper.major, upper.minor, upper.patch] }] := by
  have hchars : ∀ front : List Char, ∀ v : Semver, ∀ c ∈ front ++ v.text.toList,
      c ∈ front ∨ c.isDigit = true ∨ c = '.' := fun front v c hc =>
    (List.mem_append.mp hc).imp id (text_chars v c)
  have hspace : ∀ front : List Char, (∀ c ∈ front, isSpace c = false) → ∀ v : Semver,
      strip (String.ofList front ++ v.text) = String.ofList front ++ v.text := by
    intro front hfront v
    have hstrip := strip_of_not_space fun c (hc : c ∈ front ++ v.text.toList) => by
      rcases hchars front v c hc with hc | hdigit | rfl
      · exact hfront c hc
      · exact isSpace_of_isDigit hdigit
      · decide
    rwa [String.ofList_append, String.ofList_toList] at hstrip
  have hpieces : pieces (rangeText lower upper) = [">=" ++ lower.text, "<" ++ upper.text] := by
    have hsplit : split (rangeText lower upper) "," = [">=" ++ lower.text, "<" ++ upper.text] := by
      rw [rangeText_eq_join]
      refine split_join rfl (List.cons_ne_nil _ _) fun p hp hcomma => ?_
      rcases List.mem_cons.mp hp with rfl | hp
      · rw [String.toList_append] at hcomma
        rcases hchars _ lower ',' hcomma with hc | hc | hc <;> revert hc <;> decide
      · rw [List.mem_singleton.mp hp, String.toList_append] at hcomma
        rcases hchars _ upper ',' hcomma with hc | hc | hc <;> revert hc <;> decide
    have hge := hspace ['>', '='] (by decide) lower
    have hlt := hspace ['<'] (by decide) upper
    rw [pieces, hsplit, List.map_cons, List.map_cons, List.map_nil]
    rw [show strip (">=" ++ lower.text) = ">=" ++ lower.text from hge,
      show strip ("<" ++ upper.text) = "<" ++ upper.text from hlt]
    refine List.filter_eq_self.mpr fun p hp => decide_eq_true fun hnil => ?_
    have hlist := congrArg String.toList hnil
    rcases List.mem_cons.mp hp with rfl | hp
    · simp at hlist
    · rw [List.mem_singleton.mp hp] at hlist
      simp at hlist
  rw [comparisonsOf, hpieces]
  simp only [List.mapM_cons, List.mapM_nil, readComparison_ge, readComparison_lt]
  rfl

end Comparisons

end Versions

end AgenticRag
