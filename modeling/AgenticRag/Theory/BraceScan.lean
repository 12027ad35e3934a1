import AgenticRag.Core.SqlPrompts
import AgenticRag.Lib.JsonRoundTrip

/-!
# An Object among Other Text

That the scan for the object of an answer finds it. Its text starts at the first
opening brace, and the scan has to stop at the brace that closes it, whatever
stands in its strings.

The decoder and the scan read the same characters with different rules. So what
the decoder reads is taken apart into what it used and what it left (`Spans`),
and the scan is shown to read over what was used and to come out as it went in
(`Passes`). That is so for white space, words, numbers and strings, and for the
containers if it is so for their items. In a string the scan and the decoder
agree on every backslash, and so on the quote that ends it. Only the last brace
of the whole object takes the count to zero.

## Main definitions

* `Passes`, `PassesString`: What the scan reads over.
* `Spans`: What a scanner of the decoder used.

## Theorems

* `spans_scanOnce`: Every value.
* `matching_of_object`: The scan stops at the end of an object.
* `extractJson_of_object`: The object of a text is found.
-/

namespace AgenticRag

namespace SqlPrompts

open Py Json

variable {α : Type}

section Passing

/-- With a brace open, and outside of strings, the scan reads over this text and
    comes out as it was. -/
def Passes (used : List Char) : Prop :=
  ∀ d rest, matching { depth := d + 1 } (used ++ rest) =
    (matching { depth := d + 1 } rest).map (used ++ ·)

/-- In a string, the scan reads over this text and comes out behind the
    string. -/
def PassesString (used : List Char) : Prop :=
  ∀ d rest, matching { depth := d + 1, inString := true } (used ++ rest) =
    (matching { depth := d + 1 } rest).map (used ++ ·)

/-- A character that means nothing to the scan outside of strings. -/
abbrev Inert (c : Char) : Prop := c ≠ '"' ∧ c ≠ '\x7b' ∧ c ≠ '\x7d'

theorem map_cons_map_append (c : Char) (used : List Char) (o : Option (List Char)) :
    (o.map (used ++ ·)).map (c :: ·) = o.map (c :: used ++ ·) := by
  rw [Option.map_map]
  rfl

theorem passes_nil : Passes [] := by
  intro d rest
  exact (Option.map_id' (x := matching { depth := d + 1 } rest)).symm

theorem passes_append {xs ys : List Char} (hx : Passes xs) (hy : Passes ys) :
    Passes (xs ++ ys) := by
  intro d rest
  rw [List.append_assoc, hx, hy, Option.map_map]
  simp only [Function.comp_def, List.append_assoc]

theorem passes_cons {c : Char} (hc : Inert c) {cs : List Char} (h : Passes cs) :
    Passes (c :: cs) := by
  intro d rest
  rw [List.cons_append, matching]
  simp only [Bool.false_eq_true, and_false, if_false, hc.1, hc.2.1, hc.2.2]
  rw [h, map_cons_map_append]

theorem passes_of_inert {cs : List Char} (h : ∀ c ∈ cs, Inert c) : Passes cs := by
  induction cs with
  | nil => exact passes_nil
  | cons c cs ih =>
      exact passes_cons (h c List.mem_cons_self) (ih (fun d hd => h d (List.mem_cons_of_mem c hd)))

theorem passes_string {body : List Char} (h : PassesString body) : Passes ('"' :: body) := by
  intro d rest
  rw [List.cons_append, matching]
  simp only [Bool.false_eq_true, and_false, if_false, Bool.not_false, if_true]
  rw [h, map_cons_map_append]

/-- A brace that opens is closed again before the scan comes out. -/
theorem passes_object {inner : List Char} (h : Passes inner) :
    Passes ('\x7b' :: (inner ++ ['\x7d'])) := by
  intro d rest
  rw [List.cons_append, matching]
  simp only [Bool.false_eq_true, and_false, if_false, if_true, show ¬ '\x7b' = '"' by decide]
  rw [List.append_assoc, h, List.singleton_append, matching]
  simp only [Bool.false_eq_true, and_false, if_false, if_true, show ¬ '\x7d' = '"' by decide,
    show ¬ '\x7d' = '\x7b' by decide, Nat.add_sub_cancel, Nat.succ_ne_zero]
  rw [Option.map_map, Option.map_map]
  simp only [Function.comp_def, List.append_assoc, List.cons_append, List.nil_append]

/-- The scan from an opening brace stops at the brace that closes it. -/
theorem matching_object {inner : List Char} (h : Passes inner) (rest : List Char) :
    matching {} ('\x7b' :: (inner ++ '\x7d' :: rest)) =
      some ('\x7b' :: (inner ++ ['\x7d'])) := by
  rw [matching]
  simp only [Bool.false_eq_true, and_false, if_false, if_true, show ¬ '\x7b' = '"' by decide]
  rw [h, matching]
  simp only [Bool.false_eq_true, and_false, if_false, if_true, show ¬ '\x7d' = '"' by decide,
    show ¬ '\x7d' = '\x7b' by decide, Nat.add_sub_cancel]
  rfl

end Passing

section Strings

theorem passesString_quote : PassesString ['"'] := by
  intro d rest
  rw [List.singleton_append, matching]
  simp only [Bool.false_eq_true, if_false, Bool.not_true, if_true, show ¬ '"' = '\\' by decide,
    false_and]
  rfl

theorem passesString_cons {c : Char} (hquote : c ≠ '"') (hescape : c ≠ '\\') {cs : List Char}
    (h : PassesString cs) : PassesString (c :: cs) := by
  intro d rest
  rw [List.cons_append, matching]
  simp only [Bool.false_eq_true, if_false, hquote, hescape, false_and, if_true]
  rw [h, map_cons_map_append]

/-- Whatever stands behind a backslash in a string, it does not end it. -/
theorem passesString_escape (e : Char) {cs : List Char} (h : PassesString cs) :
    PassesString ('\\' :: e :: cs) := by
  intro d rest
  rw [List.cons_append, matching]
  simp only [Bool.false_eq_true, if_false, and_self, if_true]
  rw [List.cons_append, matching]
  simp only [if_true]
  rw [h, map_cons_map_append, map_cons_map_append]

/-- What a scanner read is of this kind, in front of what it left. -/
def Spans (Q : List Char → Prop) (p : Scanner α) : Prop :=
  ∀ cs x rest, p cs = .ok (x, rest) → ∃ used, cs = used ++ rest ∧ Q used

theorem plain_of_hexValue {c : Char} {n : Nat} (h : hexValue c = some n) :
    c ≠ '"' ∧ c ≠ '\\' := by
  refine ⟨?_, ?_⟩ <;> (rintro rfl; cases h)

theorem spans_scanPieces : Spans PassesString scanPieces := by
  intro cs ps rest h
  fun_induction scanPieces cs generalizing ps with
  | case1 => cases h
  | case2 cs =>
      cases h
      exact ⟨['"'], rfl, passesString_quote⟩
  | case3 a b c d cs n hn ih =>
      rcases exists_of_map_ok h with ⟨⟨ps', rest'⟩, hr, heq⟩
      cases heq
      rcases ih _ hr with ⟨used, rfl, hused⟩
      rcases Option.bind_eq_some_iff.mp hn with ⟨_, ha, hn⟩
      rcases Option.bind_eq_some_iff.mp hn with ⟨_, hb, hn⟩
      rcases Option.bind_eq_some_iff.mp hn with ⟨_, hc, hn⟩
      rcases Option.bind_eq_some_iff.mp hn with ⟨_, hd, -⟩
      refine ⟨'\\' :: 'u' :: a :: b :: c :: d :: used, rfl, passesString_escape 'u' ?_⟩
      have hd := passesString_cons (plain_of_hexValue hd).1 (plain_of_hexValue hd).2 hused
      have hc := passesString_cons (plain_of_hexValue hc).1 (plain_of_hexValue hc).2 hd
      have hb := passesString_cons (plain_of_hexValue hb).1 (plain_of_hexValue hb).2 hc
      exact passesString_cons (plain_of_hexValue ha).1 (plain_of_hexValue ha).2 hb
  | case4 => cases h
  | case5 e cs hu c hc ih =>
      rcases exists_of_map_ok h with ⟨⟨ps', rest'⟩, hr, heq⟩
      cases heq
      rcases ih _ hr with ⟨used, rfl, hused⟩
      exact ⟨'\\' :: e :: used, rfl, passesString_escape e hused⟩
  | case6 => cases h
  | case7 => cases h
  | case8 c cs hquote hu he hc ih =>
      rcases exists_of_map_ok h with ⟨⟨ps', rest'⟩, hr, heq⟩
      cases heq
      rcases ih _ hr with ⟨used, rfl, hused⟩
      exact ⟨c :: used, rfl,
        passesString_cons (fun h => hquote h) (fun h => hc (.inr h)) hused⟩

theorem spans_scanString : Spans PassesString scanString := by
  intro cs s rest h
  rcases exists_of_map_ok h with ⟨⟨ps, rest'⟩, hr, heq⟩
  cases heq
  exact spans_scanPieces cs ps _ hr

end Strings

section Scalars

/-- The characters of numbers and words mean nothing to the scan. -/
theorem inert_of_isDigit {c : Char} (h : c.isDigit = true) : Inert c := by
  refine ⟨?_, ?_, ?_⟩ <;> (rintro rfl; cases h)

theorem inert_of_isWs {c : Char} (h : isWs c = true) : Inert c := by
  refine ⟨?_, ?_, ?_⟩ <;> (rintro rfl; cases h)

/-- A part of a number, and what is left behind it. -/
def Splits (cs : List Char) (r : List Char × List Char) : Prop :=
  cs = r.1 ++ r.2 ∧ ∀ c ∈ r.1, Inert c

theorem splits_digits (cs : List Char) :
    Splits cs (cs.takeWhile Char.isDigit, cs.dropWhile Char.isDigit) :=
  ⟨(List.takeWhile_append_dropWhile).symm,
    fun _ hc => inert_of_isDigit (List.mem_takeWhile_imp hc)⟩

theorem Splits.cons {c : Char} (hc : Inert c) {cs : List Char} {r : List Char × List Char}
    (h : Splits cs r) : Splits (c :: cs) (c :: r.1, r.2) :=
  ⟨by rw [h.1]; rfl, List.forall_mem_cons.mpr ⟨hc, h.2⟩⟩

theorem splits_nil (cs : List Char) : Splits cs ([], cs) :=
  ⟨rfl, fun _ hc => absurd hc List.not_mem_nil⟩

theorem splits_scanNatural {cs : List Char} {r : List Char × List Char}
    (h : scanNatural cs = some r) : Splits cs r := by
  cases cs with
  | nil => cases h
  | cons c cs =>
      rw [scanNatural] at h
      split at h
      next hzero =>
        cases h
        exact (splits_nil cs).cons (by rw [hzero]; decide)
      · split at h
        next hdigit =>
          cases h
          exact (splits_digits cs).cons (inert_of_isDigit hdigit)
        · cases h

theorem splits_scanInteger {cs : List Char} {r : List Char × List Char}
    (h : scanInteger cs = some r) : Splits cs r := by
  cases cs with
  | nil => cases h
  | cons c cs =>
      rw [scanInteger] at h
      split at h
      next hminus =>
        rcases Option.map_eq_some_iff.mp h with ⟨r', hr', rfl⟩
        exact (splits_scanNatural hr').cons (by rw [hminus]; decide)
      · exact splits_scanNatural h

theorem splits_scanFraction (cs : List Char) : Splits cs (scanFraction cs) := by
  cases cs with
  | nil => exact splits_nil []
  | cons c cs =>
      rw [scanFraction]
      split
      next hpoint => exact (splits_digits cs).cons (by rw [hpoint.1]; decide)
      · exact splits_nil (c :: cs)

theorem splits_scanExponent (cs : List Char) : Splits cs (scanExponent cs) := by
  cases cs with
  | nil => exact splits_nil []
  | cons c cs =>
      rw [scanExponent]
      split
      next he =>
        have hc : Inert c := by
          rcases he.1 with rfl | rfl <;> decide
        -- The sign is the character in front, if it is one.
        have hsign : Splits cs ((cs.take 1).filter (fun s => s = '+' || s = '-'),
            cs.drop ((cs.take 1).filter (fun s => s = '+' || s = '-')).length) := by
          cases cs with
          | nil => exact splits_nil []
          | cons d cs =>
              by_cases hd : d = '+' ∨ d = '-'
              · have hinert : Inert d := by
                  rcases hd with rfl | rfl <;> decide
                have hkeep : ([d] : List Char).filter (fun s => s = '+' || s = '-') = [d] := by
                  rcases hd with rfl | rfl <;> rfl
                rw [List.take_succ_cons, List.take_zero, hkeep]
                exact (splits_nil cs).cons hinert
              · have hnone : ([d] : List Char).filter (fun s => s = '+' || s = '-') = [] := by
                  simpa [List.filter_cons] using hd
                rw [List.take_succ_cons, List.take_zero, hnone]
                exact splits_nil (d :: cs)
        have hdigits := splits_digits
          (cs.drop ((cs.take 1).filter (fun s => s = '+' || s = '-')).length)
        refine ⟨?_, ?_⟩
        · rw [List.cons_append, List.cons_append, List.append_assoc, ← hdigits.1, ← hsign.1]
        · rw [List.cons_append, List.forall_mem_cons, List.forall_mem_append]
          exact ⟨hc, hsign.2, hdigits.2⟩
      · exact splits_nil (c :: cs)

variable (readFloat : String → Option (ℚ × String))

theorem spans_scanNumber : Spans Passes (scanNumber readFloat) := by
  intro cs v rest h
  rw [scanNumber] at h
  split at h
  · cases h
  next integer cs' hinteger =>
    have hint := splits_scanInteger hinteger
    have hfraction := splits_scanFraction cs'
    have hexponent := splits_scanExponent (scanFraction cs').2
    have hsplit : cs = (integer ++ (scanFraction cs').1 ++
        (scanExponent (scanFraction cs').2).1) ++ (scanExponent (scanFraction cs').2).2 := by
      rw [List.append_assoc, ← hexponent.1, List.append_assoc, ← hfraction.1]
      exact hint.1
    have hinert : Passes (integer ++ (scanFraction cs').1 ++
        (scanExponent (scanFraction cs').2).1) := by
      refine passes_of_inert ?_
      rw [List.forall_mem_append, List.forall_mem_append]
      exact ⟨⟨hint.2, hfraction.2⟩, hexponent.2⟩
    dsimp only at h
    split at h
    · cases h
      exact ⟨_, hsplit, hinert⟩
    · split at h
      · cases h
      · cases h
        exact ⟨_, hsplit, hinert⟩

theorem spans_scanConstant {cs : List Char} {r : Val × List Char}
    (h : scanConstant cs = some r) : ∃ used, cs = used ++ r.2 ∧ Passes used := by
  rcases Option.map_eq_some_iff.mp h with ⟨w, hw, rfl⟩
  have hfound : w.1.toList.isPrefixOf cs = true :=
    List.find?_some (p := fun w : String × Val => w.1.toList.isPrefixOf cs) hw
  rcases List.isPrefixOf_iff_prefix.mp hfound with ⟨rest, rfl⟩
  refine ⟨w.1.toList, ?_, passes_of_inert ?_⟩
  · rw [← String.length_toList, List.drop_left]
  · have hwords : ∀ w ∈ constants, ∀ c ∈ w.1.toList, Inert c := by decide
    exact hwords w (List.mem_of_find?_eq_some hw)

theorem spans_scanScalar : Spans Passes (scanScalar readFloat) := by
  intro cs v rest h
  rw [scanScalar] at h
  split at h
  next hquote =>
    rcases exists_of_map_ok h with ⟨⟨s, rest'⟩, hr, heq⟩
    cases heq
    cases cs with
    | nil => cases hquote
    | cons c cs =>
        cases hquote
        rcases spans_scanString _ s _ hr with ⟨used, hused, hpasses⟩
        exact ⟨'"' :: used, congrArg ('"' :: ·) hused, passes_string hpasses⟩
  · split at h
    next r hconstant =>
      cases h
      exact spans_scanConstant hconstant
    · exact spans_scanNumber readFloat cs v rest h

end Scalars

section Containers

theorem splits_skipWs (cs : List Char) : ∃ ws, cs = ws ++ skipWs cs ∧ Passes ws :=
  ⟨cs.takeWhile isWs, (List.takeWhile_append_dropWhile).symm,
    passes_of_inert (fun _ hc => inert_of_isWs (List.mem_takeWhile_imp hc))⟩

variable {item : Scanner α} {close : Char}

/-- What the items of a container take is read over, up to the bracket. -/
theorem passes_scanItems (hitem : Spans Passes item) {fuel : Nat} {cs : List Char} {xs : List α}
    {rest : List Char} (h : scanItems item close fuel cs = .ok (xs, rest)) :
    ∃ inner, cs = inner ++ close :: rest ∧ Passes inner := by
  induction fuel generalizing cs xs with
  | zero => cases h
  | succ fuel ih =>
      rw [scanItems] at h
      rcases exists_of_bind_ok h with ⟨⟨x, cs'⟩, hx, hnext⟩
      rcases hitem cs x cs' hx with ⟨used, rfl, hused⟩
      rcases splits_skipWs cs' with ⟨ws, hws, hpasses⟩
      dsimp only at hnext
      split at hnext
      · cases hnext
      next c cs'' hskip =>
        rw [hskip] at hws
        split at hnext
        next hclose =>
          cases hnext
          refine ⟨used ++ ws, ?_, passes_append hused hpasses⟩
          rw [hws, hclose, List.append_assoc]
        · split at hnext
          next hcomma =>
            rcases exists_of_bind_ok hnext with ⟨⟨xs', rest'⟩, hxs, heq⟩
            cases heq
            rcases ih hxs with ⟨inner, hinner, hlater⟩
            rcases splits_skipWs cs'' with ⟨ws', hws', hpasses'⟩
            refine ⟨used ++ (ws ++ ',' :: (ws' ++ inner)), ?_, ?_⟩
            · rw [hws, hcomma, hws', hinner]
              simp only [List.append_assoc, List.cons_append]
            · exact passes_append hused (passes_append hpasses
                (passes_cons (by decide) (passes_append hpasses' hlater)))
          · cases hnext

theorem passes_scanSeq (hitem : Spans Passes item) {cs : List Char} {xs : List α}
    {rest : List Char} (h : scanSeq item close cs = .ok (xs, rest)) :
    ∃ inner, cs = inner ++ close :: rest ∧ Passes inner := by
  rcases splits_skipWs cs with ⟨ws, hws, hpasses⟩
  rw [scanSeq] at h
  split at h
  next hclose =>
    cases h
    refine ⟨ws, ?_, hpasses⟩
    cases hskip : skipWs cs with
    | nil =>
        rw [hskip] at hclose
        cases hclose
    | cons c cs' =>
        rw [hskip] at hclose hws
        cases hclose
        exact hws
  · rcases passes_scanItems hitem h with ⟨inner, hinner, hlater⟩
    refine ⟨ws ++ inner, ?_, passes_append hpasses hlater⟩
    rw [List.append_assoc, ← hinner]
    exact hws

theorem spans_scanMember {value : Scanner Val} (hvalue : Spans Passes value) :
    Spans Passes (scanMember value) := by
  intro cs x rest h
  rw [scanMember] at h
  split at h
  next hquote =>
    cases cs with
    | nil => cases hquote
    | cons c cs =>
        cases hquote
        rcases exists_of_bind_ok h with ⟨⟨key, cs'⟩, hkey, hnext⟩
        rcases spans_scanString _ key cs' hkey with ⟨used, hused, hstring⟩
        rcases splits_skipWs cs' with ⟨ws, hws, hpasses⟩
        dsimp only at hnext
        split at hnext
        next hcolon =>
          rcases exists_of_bind_ok hnext with ⟨⟨v, rest'⟩, hv, heq⟩
          cases heq
          rcases hvalue _ v _ hv with ⟨used', hused', hpasses'⟩
          cases hskip : skipWs cs' with
          | nil =>
              rw [hskip] at hcolon
              cases hcolon
          | cons d cs'' =>
              rw [hskip] at hcolon hws hused'
              cases hcolon
              rcases splits_skipWs cs'' with ⟨ws', hws', hpasses''⟩
              rw [List.drop_one, List.tail_cons] at hused'
              rw [hused'] at hws'
              refine ⟨'"' :: (used ++ (ws ++ ':' :: (ws' ++ used'))), ?_, ?_⟩
              · rw [List.drop_one, List.tail_cons] at hused
                rw [hused, hws, hws']
                simp only [List.append_assoc, List.cons_append]
              · have hkeyPasses := passes_string hstring
                rw [← List.cons_append]
                exact passes_append hkeyPasses (passes_append hpasses
                  (passes_cons (by decide) (passes_append hpasses'' hpasses')))
        · cases hnext
  · cases h

variable (readFloat : String → Option (ℚ × String))

/-- The scan reads over every value the decoder reads. -/
theorem spans_scanOnce (depth : Nat) : Spans Passes (scanOnce readFloat depth) := by
  induction depth with
  | zero =>
      intro cs v rest h
      cases cs with
      | nil => exact spans_scanScalar readFloat [] v rest h
      | cons c cs =>
          rw [scanOnce] at h
          split at h
          · cases h
          · split at h
            · cases h
            · exact spans_scanScalar readFloat (c :: cs) v rest h
  | succ depth ih =>
      intro cs v rest h
      cases cs with
      | nil => exact spans_scanScalar readFloat [] v rest h
      | cons c cs =>
          rw [scanOnce] at h
          split at h
          next hbrace =>
            rcases exists_of_map_ok h with ⟨⟨kvs, rest'⟩, hr, heq⟩
            cases heq
            rcases passes_scanSeq (spans_scanMember ih) hr with ⟨inner, rfl, hinner⟩
            refine ⟨_, ?_, passes_object hinner⟩
            rw [hbrace]
            simp only [List.cons_append, List.append_assoc, List.nil_append]
          · split at h
            next hbracket =>
              rcases exists_of_map_ok h with ⟨⟨xs, rest'⟩, hr, heq⟩
              cases heq
              rcases passes_scanSeq ih hr with ⟨inner, rfl, hinner⟩
              refine ⟨'[' :: (inner ++ [']']), ?_, ?_⟩
              · rw [hbracket]
                simp only [List.cons_append, List.append_assoc, List.nil_append]
              · exact passes_cons (by decide)
                  (passes_append hinner (passes_cons (by decide) passes_nil))
            · exact spans_scanScalar readFloat (c :: cs) v rest h

end Containers

section Objects

variable {readFloat : String → Option (ℚ × String)} {depth : Nat}

/-- An object of JSON, from its opening brace to the one that closes it. The decoder
    reads it, so it is nested no deeper than the interpreter's limit, and an integer in
    it has at most as many digits as `int` converts. -/
structure IsObject (readFloat : String → Option (ℚ × String)) (depth : Nat) (o : String)
    (d : Dict) : Prop where
  opens : o.toList.head? = some '\x7b'
  closes : o.toList.getLast? = some '\x7d'
  value : loads readFloat depth o = .ok (.dict d)

/-- White space does not end in a brace. -/
theorem eq_nil_of_skipWs {cs : List Char} (h : skipWs cs = []) {used : List Char}
    (hlast : (used ++ cs).getLast? = some '\x7d') : cs = [] := by
  cases hend : cs.getLast? with
  | none => exact List.getLast?_eq_none_iff.mp hend
  | some c =>
      rw [List.getLast?_append, hend, Option.some_or] at hlast
      cases hlast
      -- The last character would be a brace and white space.
      have hws := List.dropWhile_eq_nil_iff.mp h _ (List.mem_of_getLast? hend)
      cases hws

/-- The scan stops at the end of the object. -/
theorem matching_of_object {o : String} {d : Dict} (h : IsObject readFloat depth o d)
    (rest : List Char) : matching {} (o.toList ++ rest) = some o.toList := by
  have hopens := h.opens
  have hcloses := h.closes
  cases hcs : o.toList with
  | nil =>
      rw [hcs] at hopens
      cases hopens
  | cons c cs =>
      rw [hcs] at hopens hcloses
      cases hopens
      have hvalue := h.value
      rw [loads, hcs, List.head?_cons, if_neg (by decide)] at hvalue
      rcases exists_of_bind_ok hvalue with ⟨⟨v, left⟩, hscan, hnext⟩
      have hskip : skipWs ('\x7b' :: cs) = '\x7b' :: cs := rfl
      rw [hskip] at hscan
      dsimp only at hnext
      split at hnext
      next hleft =>
        cases depth with
        | zero => cases hscan
        | succ depth =>
            rw [scanOnce, if_pos rfl] at hscan
            rcases exists_of_map_ok hscan with ⟨⟨kvs, left'⟩, hseq, heq⟩
            cases heq
            rcases passes_scanSeq (spans_scanMember (spans_scanOnce readFloat depth)) hseq with
              ⟨inner, rfl, hinner⟩
            have hsplit : ∀ ys, '\x7b' :: (inner ++ '\x7d' :: ys) =
                ('\x7b' :: (inner ++ ['\x7d'])) ++ ys := by
              intro ys
              simp only [List.cons_append, List.append_assoc, List.nil_append]
            rw [hsplit] at hcloses
            cases eq_nil_of_skipWs hleft hcloses
            rw [List.cons_append, List.append_assoc]
            exact matching_object hinner rest
      · cases hnext

/-- Where no brace opens the scan goes on. -/
theorem scanBlocks_append {start : List Char} (h : '\x7b' ∉ start) (cs : List Char) :
    scanBlocks readFloat depth (start ++ cs) = scanBlocks readFloat depth cs := by
  induction start with
  | nil => rfl
  | cons c start ih =>
      rw [List.mem_cons, not_or] at h
      rw [List.cons_append, scanBlocks, if_neg (Ne.symm h.1)]
      exact ih h.2

/-- Without three back quotes there is no fenced block. -/
theorem fencedJson_eq_none {cs : List Char} (h : ¬ "```".toList <:+: cs) :
    React.fencedJson cs = none := by
  induction cs with
  | nil => rfl
  | cons c cs ih =>
      have hstart : ¬ "```".toList.isPrefixOf (c :: cs) = true :=
        fun hstart => h (List.isPrefixOf_iff_prefix.mp hstart).isInfix
      rw [React.fencedJson, React.fencedAt, if_neg hstart, Option.none_or]
      exact ih (fun hin => h (hin.trans (List.suffix_cons c cs).isInfix))

/-- The object of a text is found. -/
theorem extractJson_found {start o stop : String} {d : Dict}
    (h : IsObject readFloat depth o d) (hstart : '\x7b' ∉ start.toList)
    (hfence : contains (start ++ o ++ stop) "```" = false) :
    extractJson readFloat depth (start ++ o ++ stop) = .ok (some (.dict d)) := by
  have htext : (start ++ o ++ stop).toList = start.toList ++ (o.toList ++ stop.toList) := by
    rw [String.toList_append, String.toList_append, List.append_assoc]
  have hblocks : scanBlocks readFloat depth (o.toList ++ stop.toList) =
      .ok (some (.dict d)) := by
    have hmatching := matching_of_object h stop.toList
    have hopens := h.opens
    cases hcs : o.toList with
    | nil =>
        rw [hcs] at hopens
        cases hopens
    | cons c cs =>
        rw [hcs] at hopens hmatching
        cases hopens
        rw [List.cons_append] at hmatching ⊢
        rw [scanBlocks, if_pos rfl, hmatching]
        dsimp only
        rw [candidateValue, ← hcs, String.ofList_toList, h.value]
        rfl
  have hne : start ++ o ++ stop ≠ "" := by
    intro hempty
    have hlist := congrArg String.toList hempty
    rw [htext] at hlist
    have hnil : o.toList = [] :=
      (List.append_eq_nil_iff.mp (List.append_eq_nil_iff.mp hlist).2).1
    have hopens := h.opens
    rw [hnil] at hopens
    cases hopens
  have hnone : React.fencedJson (start ++ o ++ stop).toList = none := by
    refine fencedJson_eq_none (fun hin => ?_)
    rw [(contains_iff _ _).mpr hin] at hfence
    cases hfence
  rw [extractJson, if_neg hne, hnone]
  dsimp only
  rw [htext, scanBlocks_append hstart, hblocks]

/-- The action is read off the object. -/
theorem parseAgentAction_found (u : Unicode) {start o stop : String} {d : Dict}
    (h : IsObject readFloat depth o d) (hstart : '\x7b' ∉ start.toList)
    (hfence : contains (start ++ o ++ stop) "```" = false) :
    parseAgentAction u readFloat depth (start ++ o ++ stop) = .ok (actionOfObject u d) := by
  rw [parseAgentAction, extractJson_found h hstart hfence]
  rfl

end Objects

section Ending

variable (readFloat : String → Option (ℚ × String)) (depth : Nat)

theorem candidateValue_ne_fuel (candidate : List Char) :
    candidateValue readFloat depth candidate ≠ .error .fuel := by
  have hloads := loads_ne_fuel readFloat depth (String.ofList candidate)
  rw [candidateValue]
  cases h : loads readFloat depth (String.ofList candidate) with
  | ok v => exact nofun
  | error e =>
      rw [h] at hloads
      cases e with
      | fuel => exact absurd rfl hloads
      | _ => exact nofun

/-- The scan ends on every text. -/
theorem scanBlocks_ne_fuel (cs : List Char) : scanBlocks readFloat depth cs ≠ .error .fuel := by
  induction cs with
  | nil => exact nofun
  | cons c cs ih =>
      rw [scanBlocks]
      split
      · split
        · exact ih
        next candidate hcandidate =>
          have hvalue := candidateValue_ne_fuel readFloat depth candidate
          cases h : candidateValue readFloat depth candidate with
          | error e =>
              rw [h] at hvalue
              exact fun heq => hvalue (congrArg _ (Except.error.inj heq))
          | ok o =>
              cases o with
              | none => exact ih
              | some v => exact nofun
      · exact ih

theorem extractJson_ne_fuel (text : String) :
    extractJson readFloat depth text ≠ .error .fuel := by
  have hblocks := scanBlocks_ne_fuel readFloat depth text.toList
  rw [extractJson]
  split
  · exact nofun
  · split
    · exact hblocks
    next block hblock =>
      have hvalue := candidateValue_ne_fuel readFloat depth block
      cases h : candidateValue readFloat depth block with
      | error e =>
          rw [h] at hvalue
          exact fun heq => hvalue (congrArg _ (Except.error.inj heq))
      | ok o =>
          cases o with
          | none => exact hblocks
          | some v => exact nofun

/-- The object of a text is found whatever stands in it and behind it, and the
    scan ends on every text. -/
theorem extractJson_of_object (readFloat : String → Option (ℚ × String)) (depth : Nat) :
    (∀ start o stop : String, ∀ d : Dict, IsObject readFloat depth o d →
      '\x7b' ∉ start.toList → contains (start ++ o ++ stop) "```" = false →
        extractJson readFloat depth (start ++ o ++ stop) = .ok (some (.dict d))) ∧
    ∀ text : String, extractJson readFloat depth text ≠ .error .fuel :=
  ⟨fun _ _ _ _ h hstart hfence => extractJson_found h hstart hfence,
    extractJson_ne_fuel readFloat depth⟩

/-- An answer whose thought has a brace and a quote in it. -/
def bracedAnswer : Dict := [("thought", .str "close \x7d \" it"), ("action", .str "finish")]

theorem extractJson_of_object_braced :
    extractJson (fun _ => none) 1 ("Next step: " ++ (Val.dict bracedAnswer).dumps ++ " \x7d") =
      .ok (some (.dict bracedAnswer)) := by
  have hplain : Plain (fun _ => none) 1 (.dict bracedAnswer) := by
    refine ⟨by decide, ?_⟩
    intro p hp
    simp only [bracedAnswer, List.mem_cons, List.not_mem_nil, or_false] at hp
    rcases hp with rfl | rfl <;> trivial
  refine (extractJson_of_object (fun _ => none) 1).1 _ _ _ _ ⟨?_, ?_, loads_dumps hplain⟩ ?_ ?_
  · decide +kernel
  · decide +kernel
  · decide
  · decide +kernel

end Ending

end SqlPrompts

end AgenticRag
