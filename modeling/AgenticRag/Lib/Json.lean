import AgenticRag.Lib.PyVal

/-!
# Reading JSON

The decoder `json.loads`, as a recursive descent over the characters. A
scanner reads one thing from the front of a text and hands back what it read
and the text behind it. The lists and the objects go through one loop, given
the scanner of an item and the bracket that ends it.

Besides a text that is no JSON there are two ways to fail: containers nested
deeper than the interpreter goes, and an integer with more digits than `int`
takes. They are kept apart, because a caller that catches the first failure
does not catch these.

Three kinds of values need a word. The value of a float literal and its `repr`
are a parameter; a literal out of range has none and reads as an infinity. The
infinities and the value that is no number are objects with their `str`. A
lone surrogate, which Lean's text cannot hold, is read as the replacement
character.

The loop over the items is fuelled by the length of the text. Every item
takes at least one character, so the fuel is never used up.

## Main definitions

* `DecodeError`: The ways to fail.
* `loads`: A whole text.

## Theorems

* `Within`, `Consumes`: A scanner that takes at least one character, and has
  fuel.
* `loads_ne_fuel`: A text is read or refused, and never left for lack of
  fuel.
-/

namespace AgenticRag

namespace Py

namespace Json

open Ordered

/-- Why a text is not read: it is no JSON, it is nested too deeply, or it has
    an integer with too many digits. The last is no failure of the decoder but
    a loop left early, which does not happen. -/
inductive DecodeError where
  | decode
  | recursion
  | digits
  | fuel
  deriving DecidableEq, Repr

/-- Reads from the front of a text. -/
abbrev Scanner (α : Type) := List Char → Except DecodeError (α × List Char)

/-- The white space of JSON. -/
def isWs (c : Char) : Bool :=
  c = ' ' || c = '\t' || c = '\n' || c = '\r'

/-- Drops white space. -/
def skipWs (cs : List Char) : List Char :=
  cs.dropWhile isWs

section Strings

/-- A character of a string, or a code unit written as an escape. -/
inductive Piece where
  | char (c : Char)
  | unit (n : Nat)

/-- The value of a digit. -/
def hexValue (c : Char) : Option Nat :=
  if '0' ≤ c ∧ c ≤ '9' then some (c.toNat - 0x30)
  else if 'a' ≤ c ∧ c ≤ 'f' then some (c.toNat - 0x61 + 10)
  else if 'A' ≤ c ∧ c ≤ 'F' then some (c.toNat - 0x41 + 10)
  else none

/-- The value of four digits. -/
def hex4 (a b c d : Char) : Option Nat := do
  return 0x1000 * (← hexValue a) + 0x100 * (← hexValue b) + 0x10 * (← hexValue c) + (← hexValue d)

/-- The escapes of one character. -/
def escapes : List (Char × Char) :=
  [('"', '"'), ('\\', '\\'), ('/', '/'), ('b', '\x08'), ('f', '\x0c'), ('n', '\n'), ('r', '\r'),
    ('t', '\t')]

/-- The pieces of a string, from behind its opening quote to its closing
    one. Control characters are refused. -/
def scanPieces : Scanner (List Piece)
  | [] => .error .decode
  | '"' :: cs => .ok ([], cs)
  | '\\' :: 'u' :: a :: b :: c :: d :: cs =>
      match hex4 a b c d with
      | some n => (scanPieces cs).map (fun r => (.unit n :: r.1, r.2))
      | none => .error .decode
  | '\\' :: e :: cs =>
      match escapes.lookup e with
      | some c => (scanPieces cs).map (fun r => (.char c :: r.1, r.2))
      | none => .error .decode
  | c :: cs =>
      if c.toNat < 0x20 ∨ c = '\\' then .error .decode
      else (scanPieces cs).map (fun r => (.char c :: r.1, r.2))

/-- The first half of a pair. -/
def isHigh (n : Nat) : Bool := 0xD800 ≤ n && n ≤ 0xDBFF

/-- The second half of a pair. -/
def isLow (n : Nat) : Bool := 0xDC00 ≤ n && n ≤ 0xDFFF

/-- The character of a unit. -/
def unitChar (n : Nat) : Char :=
  if isHigh n || isLow n then '\ufffd' else Char.ofNat n

/-- The text of the pieces, where two surrogates in a row are one
    character. -/
def joinPieces : List Piece → List Char
  | [] => []
  | .char c :: ps => c :: joinPieces ps
  | .unit n :: .unit m :: ps =>
      if isHigh n && isLow m then
        Char.ofNat (0x10000 + 0x400 * (n - 0xD800) + (m - 0xDC00)) :: joinPieces ps
      else unitChar n :: joinPieces (.unit m :: ps)
  | .unit n :: ps => unitChar n :: joinPieces ps

/-- Reads a string. -/
def scanString : Scanner String := fun cs =>
  (scanPieces cs).map (fun r => (String.ofList (joinPieces r.1), r.2))

end Strings

section Numbers

/-- The integer part of a number: no leading zeros. -/
def scanNatural : List Char → Option (List Char × List Char)
  | [] => none
  | c :: cs =>
      if c = '0' then some ([c], cs)
      else if c.isDigit then some (c :: cs.takeWhile Char.isDigit, cs.dropWhile Char.isDigit)
      else none

/-- Reads an integer. -/
def scanInteger : List Char → Option (List Char × List Char)
  | [] => none
  | c :: cs =>
      if c = '-' then (scanNatural cs).map (fun r => (c :: r.1, r.2)) else scanNatural (c :: cs)

/-- A point and the digits behind it, if there are any. -/
def scanFraction : List Char → List Char × List Char
  | [] => ([], [])
  | c :: cs =>
      let ds := cs.takeWhile Char.isDigit
      if c = '.' ∧ ds ≠ [] then (c :: ds, cs.dropWhile Char.isDigit) else ([], c :: cs)

/-- An exponent, with or without a sign, if it has digits. -/
def scanExponent : List Char → List Char × List Char
  | [] => ([], [])
  | c :: cs =>
      let sign := (cs.take 1).filter (fun s => s = '+' || s = '-')
      let rest := cs.drop sign.length
      let ds := rest.takeWhile Char.isDigit
      if (c = 'e' ∨ c = 'E') ∧ ds ≠ [] then (c :: sign ++ ds, rest.dropWhile Char.isDigit)
      else ([], c :: cs)

/-- The integer a literal writes. -/
def integerOf : List Char → Int
  | '-' :: ds => -intOfDigits ds
  | ds => intOfDigits ds

/-- The value of a float literal, given the reader of those in range. -/
def floatOf (readFloat : String → Option (ℚ × String)) (literal : List Char) : Val :=
  match readFloat (String.ofList literal) with
  | some (q, text) => .float q text
  | none =>
      if literal.head? = some '-' then .object "-inf" "-inf" else .object "inf" "inf"

/-- Reads a number. -/
def scanNumber (readFloat : String → Option (ℚ × String)) : Scanner Val := fun cs =>
  match scanInteger cs with
  | none => .error .decode
  | some (integer, cs) =>
      let (fraction, cs) := scanFraction cs
      let (exponent, cs) := scanExponent cs
      if fraction ≠ [] ∨ exponent ≠ [] then
        .ok (floatOf readFloat (integer ++ fraction ++ exponent), cs)
      else if maxStrDigits < (integer.filter Char.isDigit).length then .error .digits
      else .ok (.int (integerOf integer), cs)

end Numbers

section Containers

/-- The literals that are words. -/
def constants : List (String × Val) :=
  [("null", .none), ("true", .bool true), ("false", .bool false), ("NaN", .object "nan" "nan"),
    ("Infinity", .object "inf" "inf"), ("-Infinity", .object "-inf" "-inf")]

/-- The word a text starts with, and what follows it. -/
def scanConstant (cs : List Char) : Option (Val × List Char) :=
  (constants.find? (fun w => w.1.toList.isPrefixOf cs)).map (fun w => (w.2, cs.drop w.1.length))

/-- Reads what is no array or object. -/
def scanScalar (readFloat : String → Option (ℚ × String)) : Scanner Val := fun cs =>
  if cs.head? = some '"' then (scanString (cs.drop 1)).map (fun r => (.str r.1, r.2))
  else
    match scanConstant cs with
    | some r => .ok r
    | none => scanNumber readFloat cs

variable {α : Type}

/-- One or more items with commas between them, up to the closing
    bracket. -/
def scanItems (item : Scanner α) (close : Char) : Nat → Scanner (List α)
  | 0, _ => .error .fuel
  | fuel + 1, cs => do
      let (x, cs) ← item cs
      match skipWs cs with
      | [] => .error .decode
      | c :: cs =>
          if c = close then .ok ([x], cs)
          else if c = ',' then do
            let (xs, cs) ← scanItems item close fuel (skipWs cs)
            .ok (x :: xs, cs)
          else .error .decode

/-- The items of a container, from behind its opening bracket. -/
def scanSeq (item : Scanner α) (close : Char) : Scanner (List α) := fun cs =>
  if (skipWs cs).head? = some close then .ok ([], (skipWs cs).drop 1)
  else scanItems item close (cs.length + 1) (skipWs cs)

/-- A key, a colon and a value. -/
def scanMember (value : Scanner Val) : Scanner (String × Val) := fun cs =>
  if cs.head? = some '"' then do
    let (key, cs) ← scanString (cs.drop 1)
    if (skipWs cs).head? = some ':' then do
      let (v, cs) ← value (skipWs ((skipWs cs).drop 1))
      .ok ((key, v), cs)
    else .error .decode
  else .error .decode

/-- A value, with containers nested as deep as is given. A key written twice
    keeps its first place and takes its last value. -/
def scanOnce (readFloat : String → Option (ℚ × String)) : Nat → Scanner Val
  | _, [] => scanScalar readFloat []
  | depth, c :: cs =>
      if c = '\x7b' then
        match depth with
        | 0 => .error .recursion
        | depth + 1 =>
            (scanSeq (scanMember (scanOnce readFloat depth)) '\x7d' cs).map
              (fun r => (.dict (dictOf r.1), r.2))
      else if c = '[' then
        match depth with
        | 0 => .error .recursion
        | depth + 1 =>
            (scanSeq (scanOnce readFloat depth) ']' cs).map (fun r => (.list r.1, r.2))
      else scanScalar readFloat (c :: cs)

/-- The function `json.loads` on a text. A byte order mark is refused, and so
    is anything behind the value. -/
def loads (readFloat : String → Option (ℚ × String)) (depth : Nat) (s : String) :
    Except DecodeError Val := do
  if s.toList.head? = some '\ufeff' then .error .decode
  else
    let (v, cs) ← scanOnce readFloat depth (skipWs s.toList)
    if skipWs cs = [] then .ok v else .error .decode

end Containers

section Progress

variable {α β : Type} (readFloat : String → Option (ℚ × String)) {cs : List Char}

/-- A scan of a text: what it leaves is shorter, and it does not fail for
    lack of fuel. -/
def Within (cs : List Char) : Except DecodeError (α × List Char) → Prop
  | .ok r => r.2.length < cs.length
  | .error e => e ≠ .fuel

/-- A scanner that takes at least one character, and has fuel. -/
def Consumes (p : Scanner α) : Prop :=
  ∀ cs, Within cs (p cs)

theorem within_mono {cs' : List Char} {r : Except DecodeError (α × List Char)}
    (h : Within cs r) (hle : cs.length ≤ cs'.length) : Within cs' r := by
  cases r with
  | error e => exact h
  | ok r => exact Nat.lt_of_lt_of_le h hle

theorem within_map {r : Except DecodeError (α × List Char)} (f : α → β) (h : Within cs r) :
    Within cs (r.map (fun r => (f r.1, r.2))) := by
  cases r with
  | error e => exact h
  | ok r => exact h

/-- What follows a scan has less text before it. -/
theorem within_bind {r : Except DecodeError (α × List Char)}
    {f : α × List Char → Except DecodeError (β × List Char)} (h : Within cs r)
    (hf : ∀ x rest, rest.length < cs.length → Within cs (f (x, rest))) : Within cs (r >>= f) := by
  cases r with
  | error e => exact h
  | ok r => exact hf r.1 r.2 h

theorem length_dropWhile_le (p : Char → Bool) (cs : List Char) :
    (cs.dropWhile p).length ≤ cs.length :=
  (List.dropWhile_sublist p).length_le

theorem length_skipWs_le (cs : List Char) : (skipWs cs).length ≤ cs.length :=
  length_dropWhile_le isWs cs

/-- Behind the character at its front a text is shorter. -/
theorem length_drop_one_lt {cs : List Char} {c : Char} (h : cs.head? = some c) :
    (cs.drop 1).length < cs.length := by
  cases cs with
  | nil => cases h
  | cons d cs => exact Nat.lt_succ_self _

theorem consumes_scanPieces : Consumes scanPieces := by
  intro cs
  fun_induction scanPieces cs with
  | case1 => exact nofun
  | case2 cs => exact Nat.lt_succ_self _
  | case3 a b c d cs n hn ih => exact within_mono (within_map _ ih) (by simp; omega)
  | case4 => exact nofun
  | case5 e cs hu c hc ih => exact within_mono (within_map _ ih) (by simp; omega)
  | case6 => exact nofun
  | case7 => exact nofun
  | case8 c cs hquote hu he hc ih => exact within_mono (within_map _ ih) (by simp)

theorem consumes_scanString : Consumes scanString :=
  fun cs => within_map (fun ps => String.ofList (joinPieces ps)) (consumes_scanPieces cs)

theorem length_of_scanNatural {r : List Char × List Char} (h : scanNatural cs = some r) :
    r.2.length < cs.length := by
  cases cs with
  | nil => cases h
  | cons c cs =>
      rw [scanNatural] at h
      split at h
      · cases h
        exact Nat.lt_succ_self _
      · split at h
        · cases h
          exact Nat.lt_succ_of_le (length_dropWhile_le _ _)
        · cases h

theorem length_of_scanInteger {r : List Char × List Char} (h : scanInteger cs = some r) :
    r.2.length < cs.length := by
  cases cs with
  | nil => cases h
  | cons c cs =>
      rw [scanInteger] at h
      split at h
      · rcases Option.map_eq_some_iff.mp h with ⟨r', hr', rfl⟩
        have hlt : r'.2.length < cs.length := length_of_scanNatural hr'
        exact Nat.lt_succ_of_lt hlt
      · exact length_of_scanNatural h

theorem length_scanFraction_le (cs : List Char) : (scanFraction cs).2.length ≤ cs.length := by
  cases cs with
  | nil => exact Nat.le_refl _
  | cons c cs =>
      simp only [scanFraction]
      split
      · exact Nat.le_succ_of_le (length_dropWhile_le _ _)
      · exact Nat.le_refl _

theorem length_scanExponent_le (cs : List Char) : (scanExponent cs).2.length ≤ cs.length := by
  cases cs with
  | nil => exact Nat.le_refl _
  | cons c cs =>
      simp only [scanExponent]
      split
      · refine Nat.le_succ_of_le (Nat.le_trans (length_dropWhile_le _ _) ?_)
        exact (List.drop_sublist _ _).length_le
      · exact Nat.le_refl _

theorem consumes_scanNumber : Consumes (scanNumber readFloat) := by
  intro cs
  unfold scanNumber
  split
  · exact nofun
  · next integer rest h =>
      have hint : rest.length < cs.length := length_of_scanInteger h
      have hfraction := length_scanFraction_le rest
      have hexponent := length_scanExponent_le (scanFraction rest).2
      have hrest : (scanExponent (scanFraction rest).2).2.length < cs.length := by omega
      dsimp only
      split
      · exact hrest
      · split
        · exact nofun
        · exact hrest

/-- No word is empty, so one that is found is taken off the text. -/
theorem length_of_scanConstant {r : Val × List Char} (h : scanConstant cs = some r) :
    r.2.length < cs.length := by
  rcases Option.map_eq_some_iff.mp h with ⟨w, hw, rfl⟩
  have hfound : w.1.toList.isPrefixOf cs = true :=
    List.find?_some (p := fun w : String × Val => w.1.toList.isPrefixOf cs) hw
  have hstart : w.1.toList <+: cs := List.isPrefixOf_iff_prefix.mp hfound
  have hpos : 0 < w.1.length := by
    have hmem : w ∈ constants := List.mem_of_find?_eq_some hw
    clear hw hfound hstart h
    revert w
    decide
  have hle : w.1.length ≤ cs.length := by
    rw [← String.length_toList]
    exact hstart.length_le
  rw [List.length_drop]
  omega

theorem consumes_scanScalar : Consumes (scanScalar readFloat) := by
  intro cs
  unfold scanScalar
  split
  · next h =>
      refine within_map _ (within_mono (consumes_scanString (cs.drop 1)) ?_)
      exact Nat.le_of_lt (length_drop_one_lt h)
  · split
    · next r h => exact length_of_scanConstant h
    · exact consumes_scanNumber readFloat cs

/-- Every item shortens the text, so fuel for the length of it is enough. -/
theorem within_scanItems {item : Scanner α} (hitem : Consumes item) (close : Char) {fuel : Nat}
    (hfuel : cs.length < fuel) : Within cs (scanItems item close fuel cs) := by
  induction fuel generalizing cs with
  | zero => omega
  | succ fuel ih =>
      unfold scanItems
      refine within_bind (hitem cs) ?_
      intro x rest hrest
      have hskip := length_skipWs_le rest
      cases h : skipWs rest with
      | nil =>
          simp only [h]
          exact nofun
      | cons c rest' =>
          rw [h, List.length_cons] at hskip
          have hskip' := length_skipWs_le rest'
          simp only [h]
          split
          · show rest'.length < cs.length
            omega
          · split
            · -- The rest of the items are read from behind the comma.
              refine within_bind (within_mono (ih (by omega)) (by omega)) ?_
              intro xs rest'' hrest''
              exact hrest''
            · exact nofun

theorem consumes_scanSeq {item : Scanner α} (hitem : Consumes item) (close : Char) :
    Consumes (scanSeq item close) := by
  intro cs
  have hskip := length_skipWs_le cs
  unfold scanSeq
  split
  · next h => exact Nat.lt_of_lt_of_le (length_drop_one_lt h) hskip
  · exact within_mono (within_scanItems hitem close (by omega)) hskip

theorem consumes_scanMember {value : Scanner Val} (hvalue : Consumes value) :
    Consumes (scanMember value) := by
  intro cs
  unfold scanMember
  split
  · next hquote =>
      have hdrop := length_drop_one_lt hquote
      refine within_bind (within_mono (consumes_scanString (cs.drop 1)) (Nat.le_of_lt hdrop)) ?_
      intro key rest hrest
      dsimp only
      split
      · next hcolon =>
          have hskip := length_skipWs_le rest
          have hcolon' := length_drop_one_lt hcolon
          have hskip' := length_skipWs_le ((skipWs rest).drop 1)
          refine within_bind (within_mono (hvalue _) (by omega)) ?_
          intro v rest' hrest'
          exact hrest'
      · exact nofun
  · exact nofun

/-- Every value takes at least one character. -/
theorem consumes_scanOnce (depth : Nat) : Consumes (scanOnce readFloat depth) := by
  induction depth with
  | zero =>
      intro cs
      cases cs with
      | nil => exact consumes_scanScalar readFloat []
      | cons c cs =>
          unfold scanOnce
          split
          · exact nofun
          · split
            · exact nofun
            · exact consumes_scanScalar readFloat (c :: cs)
  | succ depth ih =>
      intro cs
      cases cs with
      | nil => exact consumes_scanScalar readFloat []
      | cons c cs =>
          have hcons : cs.length ≤ (c :: cs).length := Nat.le_succ _
          have hdict := within_mono (consumes_scanSeq (consumes_scanMember ih) '\x7d' cs) hcons
          have hlist := within_mono (consumes_scanSeq ih ']' cs) hcons
          unfold scanOnce
          split
          · exact within_map (fun kvs => Val.dict (dictOf kvs)) hdict
          · split
            · exact within_map Val.list hlist
            · exact consumes_scanScalar readFloat (c :: cs)

/-- A text is read or refused, and never left for lack of fuel. -/
theorem loads_ne_fuel (depth : Nat) (s : String) : loads readFloat depth s ≠ .error .fuel := by
  have hscan := consumes_scanOnce readFloat depth (skipWs s.toList)
  unfold loads
  split
  · exact nofun
  · cases h : scanOnce readFloat depth (skipWs s.toList) with
    | error e =>
        rw [h] at hscan
        intro heq
        exact hscan (Except.error.inj heq)
    | ok r =>
        intro heq
        change (if skipWs r.2 = [] then Except.ok r.1 else .error DecodeError.decode) = _ at heq
        split at heq
        · cases heq
        · cases heq

end Progress

end Json

end Py

end AgenticRag
