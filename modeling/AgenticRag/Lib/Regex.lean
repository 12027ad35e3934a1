import AgenticRag.Lib.PyText

/-!
# Backtracking Regular Expressions

The regular expressions of a scripting language, as their matcher reads them:
alternatives are tried from left to right, repetition takes as much as it can
and gives back on failure, and the first way through is the match. A matcher
of this kind does not only decide a language. It picks one of several ways to
read the text, and what the groups hold depends on the pick.

`Regex.runs` lists the ways from a position on in the order they are tried,
so the match is the first of them. Repetition is followed for as many rounds
as there is text left, which is enough because a round that reads nothing is
not repeated.

Look-around is there in the two forms that are common: no match ahead, and no
character of a set behind.

## Main definitions

* `Regex`: The expressions.
* `Match`, `finditer`: The matches along one scan.
-/

namespace AgenticRag

namespace Py

/-- A regular expression. -/
inductive Regex where
  | eps
  | sat (p : Char → Bool)
  | seq (r s : Regex)
  | alt (r s : Regex)
  | rep (r : Regex) (min : Nat) (max : Option Nat)
  | group (name : String) (r : Regex)
  | notAhead (r : Regex)
  | notBehind (p : Char → Bool)

/-- A position in the text, with the character before it and the text of the
    groups closed so far. -/
structure Cursor where
  pos : Nat
  before : Option Char
  rest : List Char
  groups : List (String × String) := []

/-- Step over one character. -/
def Cursor.next (c : Cursor) (p : Char → Bool) : List Cursor :=
  match c.rest with
  | [] => []
  | x :: xs => if p x then [{ c with pos := c.pos + 1, before := some x, rest := xs }] else []

/-- The ways through a repetition, the longer ones first. -/
def repeatRuns (step : Cursor → List Cursor) : Nat → Nat → Option Nat → Cursor → List Cursor
  | 0, min, _, c => if min = 0 then [c] else []
  | fuel + 1, min, max, c =>
      let more :=
        if max = some 0 then []
        else (step c).flatMap (fun c' =>
          -- A round that reads nothing is not repeated.
          if c'.pos = c.pos ∧ min = 0 then []
          else repeatRuns step fuel (min - 1) (max.map (· - 1)) c')
      more ++ if min = 0 then [c] else []

/-- The ways to read the text from a position on, the preferred one first. -/
def Regex.runs : Regex → Cursor → List Cursor
  | .eps, c => [c]
  | .sat p, c => c.next p
  | .seq r s, c => (r.runs c).flatMap s.runs
  | .alt r s, c => r.runs c ++ s.runs c
  | .rep r min max, c => repeatRuns r.runs (c.rest.length + min + 1) min max c
  | .group name r, c => (r.runs c).map (fun c' =>
      { c' with
        groups := (name, String.ofList (c.rest.take (c'.pos - c.pos))) :: c'.groups })
  | .notAhead r, c => if (r.runs c).isEmpty then [c] else []
  | .notBehind p, c => if (c.before.map p).getD false then [] else [c]

section Patterns

/-- One character of a set. -/
def oneOf (cs : String) : Regex :=
  .sat (· ∈ cs.toList)

/-- The text itself. -/
def lit (s : String) : Regex :=
  s.toList.foldr (fun c r => .seq (.sat (· == c)) r) .eps

/-- The pattern `\d`. -/
def digit : Regex :=
  .sat isDecimal

/-- The pattern `\s*`. -/
def spaces : Regex :=
  .rep (.sat isSpace) 0 none

/-- The pattern `r?`. -/
def opt (r : Regex) : Regex :=
  .rep r 0 (some 1)

/-- The pattern `r+`. -/
def many1 (r : Regex) : Regex :=
  .rep r 1 none

/-- The pattern `\b` for a given set of word characters: the position lies
    between a word character and something else. -/
def boundary (isWord : Char → Bool) : Regex :=
  .alt (.seq (.notBehind isWord) (.notAhead (.notAhead (.sat isWord))))
    (.seq (.notAhead (.notBehind isWord)) (.notAhead (.sat isWord)))

/-- The expressions one after the other. -/
def seqs (rs : List Regex) : Regex :=
  rs.foldr .seq .eps

/-- The alternatives in their order, of which there is at least one. -/
def alts (r : Regex) (rs : List Regex) : Regex :=
  match rs with
  | [] => r
  | s :: rest => .alt r (alts s rest)

end Patterns

/-- A match: where it starts and ends, its text and the text of its
    groups. -/
structure Match where
  start : Nat
  stop : Nat
  text : String
  groups : List (String × String)

/-- The text of a group, if it took part in the match. -/
def Match.group (m : Match) (name : String) : Option String :=
  m.groups.lookup name

/-- The match at a position. -/
def Regex.matchAt (r : Regex) (c : Cursor) : Option Match :=
  (r.runs c).head?.map (fun c' =>
    ⟨c.pos, c'.pos, String.ofList (c.rest.take (c'.pos - c.pos)), c'.groups⟩)

/-- The matches from a position on, left to right and without overlap. The
    counter holds how many characters of the last match are still to be
    skipped; after an empty match the scan goes on with the next character. -/
def finditerFrom (r : Regex) : Nat → Option Char → Nat → List Char → List Match
  | pos, before, 0, [] => (r.matchAt ⟨pos, before, [], []⟩).toList
  | _, _, _ + 1, [] => []
  | pos, _, skip + 1, x :: xs => finditerFrom r (pos + 1) (some x) skip xs
  | pos, before, 0, x :: xs =>
      match r.matchAt ⟨pos, before, x :: xs, []⟩ with
      | none => finditerFrom r (pos + 1) (some x) 0 xs
      | some m => m :: finditerFrom r (pos + 1) (some x) (m.stop - m.start - 1) xs

/-- The matches of an expression in a text. -/
def finditer (r : Regex) (text : String) : List Match :=
  finditerFrom r 0 none 0 text.toList

end Py

end AgenticRag
