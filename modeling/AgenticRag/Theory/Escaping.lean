import AgenticRag.Theory.Rendering

/-!
# Nothing Given Becomes Markup

The texts of a report cannot change the structure of the page they are
rendered into. The page is read the way a reader of HTML goes through it, from
text into tags and into quoted values. Every piece that was taken from the
report stands in text, or in the value of the page's language, and leaves the
reader there at each of its characters. What the renderer adds on its own is
one of a fixed list of texts or a number, and outside the language each of
these begins and ends in text.

## Main definitions

* `Embedded`: A text that leaves the page it stands in as it is.

## Theorems

* `every_good_pageRest`: Every piece behind the language begins and ends in text.
* `renderHtml_embedded`: The page of a report.
-/

namespace AgenticRag

namespace Report

open Py Html

section Own

theorem after_literal {ctx ctx' : Context} {l : List Char} (h : ctx.after l = ctx') :
    ctx.after (String.ofList l).toList = ctx' := by
  rw [String.toList_ofList]
  exact h

theorem after_literals {l m : List Char} (h : Context.text.after (l ++ m) = .text) :
    Context.text.after (String.ofList l ++ String.ofList m).toList = .text := by
  rw [String.toList_append, String.toList_ofList, String.toList_ofList]
  exact h

/-- Each of the renderer's texts begins and ends in text. -/
theorem after_ownTexts : ∀ t ∈ ownTexts, Context.text.after t.toList = .text := by
  refine List.forall_mem_cons.mpr ⟨after_literals (by decide +kernel), ?_⟩
  repeat refine List.forall_mem_cons.mpr ⟨after_literal (by decide), ?_⟩
  exact List.forall_mem_nil _

theorem after_htmlStyle : ∀ t ∈ htmlStyle, Context.text.after t.toList = .text := by
  -- Some of the rules are written over two lines.
  refine List.forall_mem_cons.mpr ⟨after_literals (by decide +kernel), ?_⟩
  iterate 4 refine List.forall_mem_cons.mpr ⟨after_literal (by decide), ?_⟩
  iterate 2 refine List.forall_mem_cons.mpr ⟨after_literals (by decide +kernel), ?_⟩
  iterate 6 refine List.forall_mem_cons.mpr ⟨after_literal (by decide), ?_⟩
  refine List.forall_mem_cons.mpr ⟨after_literals (by decide), ?_⟩
  iterate 2 refine List.forall_mem_cons.mpr ⟨after_literal (by decide), ?_⟩
  iterate 2 refine List.forall_mem_cons.mpr ⟨after_literals (by decide), ?_⟩
  exact List.forall_mem_nil _

/-- A number has no markup. -/
theorem noMarkup_of_isNumeral {cs : List Char} (h : ∀ c ∈ cs, isNumeral c = true) :
    NoMarkup cs := by
  intro c hc
  have hnumeral := h c hc
  refine ⟨?_, ?_, ?_, ?_⟩ <;> rintro rfl <;> exact absurd hnumeral (by decide)

end Own

section Pieces

/-- A piece that begins and ends in text: one of the renderer's own, or a text
    of the report without markup. -/
def Good : Piece Field → Prop
  | .own t => OwnText t ∧ Context.text.after t.toList = .text
  | .user _ s => NoMarkup s.toList

theorem good_ownTexts : ∀ t ∈ ownTexts, Good (.own t) := fun t ht =>
  ⟨Or.inl (List.mem_append_left _ (List.mem_append_right _ ht)), after_ownTexts t ht⟩

theorem good_number {t : String} (h : ∀ c ∈ t.toList, isNumeral c = true) : Good (.own t) :=
  ⟨Or.inr h, Context.after_noMarkup (Or.inl rfl) (noMarkup_of_isNumeral h)⟩

theorem good_escaped (field : Field) (s : String) : Good (escaped field s) := noMarkup_escape s

theorem every_good_safe (field : Field) (text : String) : Every Good (safePieces field text) := by
  have hown := good_ownTexts
  simp only [ownTexts, List.forall_mem_cons] at hown
  rw [safePieces]
  split
  · exact every_nil
  · refine every_flatMap.mpr (fun p hp => ?_)
    rw [paragraphPieces, every_append, every_append]
    refine ⟨⟨?_, (every_joined ?_).mpr ?_⟩, ?_⟩
    · simp only [every_cons, every_nil, hown, and_true]
    · simp only [every_cons, every_nil, hown, and_true]
    -- A line is a part of a paragraph, and that a part of the escaped text.
    · intro part hpart
      rcases List.mem_map.mp hpart with ⟨line, hline, rfl⟩
      rcases mem_split (by decide) (List.mem_filter.mp hp).1 with ⟨a, b, htext, -⟩
      rcases mem_split (by decide) hline with ⟨a', b', hp', -⟩
      rw [every_cons]
      refine ⟨fun c hc => noMarkup_escape text c ?_, every_nil⟩
      rw [htext, hp']
      simp only [List.mem_append]
      exact Or.inr (Or.inl (Or.inr (Or.inl hc)))
    · simp only [every_cons, every_nil, hown, and_true]

theorem good_onPage : HoldsOnPage Good where
  own := good_ownTexts
  style := fun t ht => ⟨Or.inl (List.mem_append_right _ ht), after_htmlStyle t ht⟩
  number := fun _ h => good_number h
  label := fun field s _ => good_escaped field s

/-- Every piece behind the language begins and ends in text. -/
theorem every_good_pageRest (u : Unicode) (a : ReportArtifact) (includeRefs : Bool) :
    Every Good (pageRest u a includeRefs) :=
  every_pageRest good_onPage ⟨fun s _ field => good_escaped field s, every_good_safe _ _,
    fun _ _ => every_good_safe _ _, fun _ _ _ _ _ _ => good_escaped _ _⟩ includeRefs

end Pieces

section Page

/-- A text leaves the page that it stands in as it is: nothing in it opens or
    closes anything, it stands in text or in a quoted value, and a reader is
    still there behind each of its characters. -/
structure Embedded (pre s : String) : Prop where
  noMarkup : NoMarkup s.toList
  place : Context.text.after pre.toList = .text ∨ Context.text.after pre.toList = .doubleQuoted
  steady : ∀ w, w <+: s.toList →
    Context.text.after (pre.toList ++ w) = Context.text.after pre.toList

theorem embedded_of_noMarkup {pre s : String} (h : NoMarkup s.toList)
    (hplace : Context.text.after pre.toList = .text ∨
      Context.text.after pre.toList = .doubleQuoted) : Embedded pre s := by
  refine ⟨h, hplace, fun w hw => ?_⟩
  rw [Context.after_append]
  exact Context.after_noMarkup hplace (fun c hc => h c (hw.subset hc))

/-- Good pieces begin and end in text. -/
theorem after_every {ps : List (Piece Field)} (h : Every Good ps) :
    Context.text.after (flat ps).toList = .text := by
  induction ps with
  | nil => rfl
  | cons p ps ih =>
      rcases every_cons.mp h with ⟨hp, hps⟩
      have hpiece : Context.text.after p.text.toList = .text := by
        cases p with
        | own t => exact hp.2
        | user field s => exact Context.after_noMarkup (Or.inl rfl) hp
      rw [flat, String.toList_append, Context.after_append, hpiece]
      exact ih hps

/-- The page up to and including the language, and what is behind it. -/
theorem htmlPieces_eq (u : Unicode) (a : ReportArtifact) (includeRefs : Bool) :
    htmlPieces u a includeRefs =
      [.own "<!DOCTYPE html>\n<html lang=\"", escapedTitle .language a.language "zh_CN",
        .own "\">\n<head>\n"] ++ pageRest u a includeRefs := rfl

theorem noMarkup_language (language : Option String) :
    NoMarkup (escapedTitle .language language "zh_CN").text.toList := by
  cases language with
  | none =>
      show NoMarkup "zh_CN".toList
      unfold NoMarkup
      decide
  | some s => exact noMarkup_escape s

theorem after_languageStart :
    Context.text.after "<!DOCTYPE html>\n<html lang=\"".toList = .doubleQuoted :=
  after_literal (by decide)

/-- A reader is in text again behind the language. -/
theorem after_language (language : Option String) {ps : List (Piece Field)} (h : Every Good ps) :
    Context.text.after (flat ([.own "<!DOCTYPE html>\n<html lang=\"",
      escapedTitle .language language "zh_CN", .own "\">\n<head>\n"] ++ ps)).toList = .text := by
  have hstop : Context.doubleQuoted.after "\">\n<head>\n".toList = .text :=
    after_literal (by decide)
  have hlanguage := Context.after_noMarkup (Or.inr rfl) (noMarkup_language language)
  rw [flat_append, String.toList_append, Context.after_append, flat_own, flat, flat_own, flat_nil,
    String.append_empty, String.toList_append, String.toList_append, Context.after_append,
    Context.after_append, after_languageStart, hlanguage, hstop]
  exact after_every h

theorem embedded_htmlPieces {u : Unicode} {a : ReportArtifact} {includeRefs : Bool}
    {pre post : List (Piece Field)} {field : Field} {s : String}
    (h : htmlPieces u a includeRefs = pre ++ .user field s :: post) : Embedded (flat pre) s := by
  have hgood := every_good_pageRest u a includeRefs
  rw [htmlPieces_eq] at h
  match pre, h with
  | [], h => cases (List.cons.inj h).1
  | [p], h =>
      -- The language, in its quotes.
      rcases List.cons.inj h with ⟨rfl, hrest⟩
      have hlanguage := noMarkup_language a.language
      rw [(List.cons.inj hrest).1] at hlanguage
      refine embedded_of_noMarkup hlanguage (Or.inr ?_)
      rw [flat_own, flat_nil, String.append_empty]
      exact after_languageStart
  | [p, q], h => cases (List.cons.inj (List.cons.inj (List.cons.inj h).2).2).1
  | p :: q :: r :: pre, h =>
      rcases List.cons.inj h with ⟨rfl, htail⟩
      rcases List.cons.inj htail with ⟨rfl, htail'⟩
      rcases List.cons.inj htail' with ⟨rfl, hrest⟩
      change pageRest u a includeRefs = pre ++ .user field s :: post at hrest
      rw [hrest, every_append, every_cons] at hgood
      exact embedded_of_noMarkup hgood.2.1 (Or.inl (after_language a.language hgood.1))

theorem ownText_htmlPieces {u : Unicode} {a : ReportArtifact} {includeRefs : Bool} {t : String}
    (h : .own t ∈ htmlPieces u a includeRefs) : OwnText t := by
  have hfixed : ∀ t ∈ languageTexts, OwnText t := fun t ht =>
    Or.inl (List.mem_append_left _ (List.mem_append_left _ ht))
  simp only [languageTexts, List.forall_mem_cons] at hfixed
  rw [htmlPieces_eq, List.mem_append] at h
  rcases h with h | h
  · cases hlanguage : a.language with
    | none =>
        rw [hlanguage] at h
        simp only [escapedTitle, List.mem_cons, Piece.own.injEq, List.not_mem_nil, or_false] at h
        rcases h with rfl | rfl | rfl
        · exact hfixed.1
        · exact hfixed.2.1
        · exact hfixed.2.2.1
    | some s =>
        rw [hlanguage] at h
        simp only [escapedTitle, escaped, List.mem_cons, Piece.own.injEq, reduceCtorEq,
          List.not_mem_nil, or_false, false_or] at h
        rcases h with rfl | rfl
        · exact hfixed.1
        · exact hfixed.2.2.1
  · exact (every_good_pageRest u a includeRefs _ h).1

/-- The page of a report. What the renderer adds on its own is one of its fixed
    texts or a number, every text of the report leaves the page as it is, and
    each angle bracket of the page lies in a text of the renderer's own. -/
theorem renderHtml_embedded (u : Unicode) (a : ReportArtifact) (includeRefs : Bool) :
    ∃ page, renderHtml u a includeRefs = .ok page ∧ page = flat (htmlPieces u a includeRefs) ∧
      (∀ t, .own t ∈ htmlPieces u a includeRefs → OwnText t) ∧
      (∀ pre field s post, htmlPieces u a includeRefs = pre ++ .user field s :: post →
        Embedded (flat pre) s) ∧
      ∀ x c y, page.toList = x ++ c :: y → c = '<' ∨ c = '>' →
        ∃ pre t post v w, htmlPieces u a includeRefs = pre ++ .own t :: post ∧
          t.toList = v ++ c :: w ∧ x = (flat pre).toList ++ v := by
  refine ⟨_, flat_htmlPieces u a includeRefs, rfl, fun t => ownText_htmlPieces,
    fun pre field s post => embedded_htmlPieces, fun x c y hpage hc => ?_⟩
  refine exists_own_of_mem (fun field s hs hmem => ?_) hpage
  rcases List.append_of_mem hs with ⟨pre, post, hsplit⟩
  have hmarkup := (embedded_htmlPieces hsplit).noMarkup c hmem
  rcases hc with rfl | rfl
  · exact hmarkup.1 rfl
  · exact hmarkup.2.1 rfl

end Page

end Report

end AgenticRag
