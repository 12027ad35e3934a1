import AgenticRag.Lib.Occurrence
import AgenticRag.Lib.PyVal

/-!
# HTML Text

Writing text into a page. `escape` replaces the characters that mean
something to a reader of HTML by entities, and `format` fills the fields of a
template with texts that are not read again.

An entity begins and ends with characters that a search takes for punctuation.
So a search that finds something in an escaped text finds it in the text
itself, unless it takes an entity or a part of one for a word
(`occurs_escape`).

## Main definitions

* `escapeChar`, `escape`: The function `html.escape`.
* `Inert`: A search that escaping cannot mislead.

## Theorems

* `Context.after_noMarkup`: A text without markup leaves a reader where they
  are.
* `occurs_escape`: What is found in an escaped text is in the text.
-/

namespace AgenticRag

namespace Html

open Py

/-- How a character is written as text or inside quotes. -/
def escapeChar (c : Char) : List Char :=
  if c = '&' then "&amp;".toList
  else if c = '<' then "&lt;".toList
  else if c = '>' then "&gt;".toList
  else if c = '"' then "&quot;".toList
  else if c = '\'' then "&#x27;".toList
  else [c]

/-- The function `html.escape`. -/
def escape (s : String) : String :=
  String.ofList (s.toList.flatMap escapeChar)

/-- A part of a template as `str.format` reads it: a text in which doubled
    braces are single, or a field. -/
inductive TemplatePart where
  | text (s : String)
  | field (name : String)

/-- The method `str.format`. A value is put in as it is. -/
def format (template : List TemplatePart) (fields : List (String × String)) :
    Except Exc String :=
  match template with
  | [] => .ok ""
  | .text s :: rest => (format rest fields).map (s ++ ·)
  | .field name :: rest =>
      match fields.lookup name with
      | none => .error .keyError
      | some value => (format rest fields).map (value ++ ·)

section Entities

/-- The characters that are written as entities. -/
def isSpecial (c : Char) : Bool :=
  ['&', '<', '>', '"', '\''].contains c

/-- What stands between the ampersand and the semicolon of an entity. -/
def entityNames : List (List Char) :=
  [['a', 'm', 'p'], ['l', 't'], ['g', 't'], ['q', 'u', 'o', 't'], ['#', 'x', '2', '7']]

/-- A character is kept or becomes an entity. -/
theorem escapeChar_cases (c : Char) :
    isSpecial c = false ∧ escapeChar c = [c] ∨
      isSpecial c = true ∧ ∃ name ∈ entityNames, escapeChar c = '&' :: (name ++ [';']) := by
  by_cases hspecial : isSpecial c = true
  · refine Or.inr ⟨hspecial, ?_⟩
    have hmem := List.contains_iff_mem.mp hspecial
    simp only [List.mem_cons, List.not_mem_nil, or_false] at hmem
    rcases hmem with rfl | rfl | rfl | rfl | rfl <;> decide
  · refine Or.inl ⟨Bool.eq_false_iff.mpr hspecial, ?_⟩
    have hmem : ¬ c ∈ ['&', '<', '>', '"', '\''] := mt List.contains_iff_mem.mpr hspecial
    simp only [List.mem_cons, List.not_mem_nil, or_false, not_or] at hmem
    rcases hmem with ⟨hamp, hlt, hgt, hquot, hapos⟩
    rw [escapeChar, if_neg hamp, if_neg hlt, if_neg hgt, if_neg hquot, if_neg hapos]

/-- The characters of an escaped text at its ends. -/
theorem getLast?_escape (s : List Char) {P : Option Char → Prop}
    (hspecial : ∀ c, isSpecial c = true → (P (some ';') ↔ P (some c))) :
    P (s.flatMap escapeChar).getLast? ↔ P s.getLast? := by
  induction s using List.reverseRecOn with
  | nil => rfl
  | append_singleton s c _ =>
      rw [List.flatMap_append, List.flatMap_singleton, List.getLast?_append, List.getLast?_append]
      rcases escapeChar_cases c with ⟨-, hc⟩ | ⟨hc, name, -, hname⟩
      · rw [hc]
        rfl
      · rw [hname, List.getLast?_cons, List.getLast?_append]
        exact hspecial c hc

theorem head?_escape (s : List Char) {P : Option Char → Prop}
    (hspecial : ∀ c, isSpecial c = true → (P (some '&') ↔ P (some c))) :
    P (s.flatMap escapeChar).head? ↔ P s.head? := by
  cases s with
  | nil => rfl
  | cons c s =>
      rw [List.flatMap_cons, List.head?_append]
      rcases escapeChar_cases c with ⟨-, hc⟩ | ⟨hc, name, -, hname⟩
      · rw [hc]
        rfl
      · rw [hname]
        exact hspecial c hc

/-- A text without such characters is kept as it is. -/
theorem escape_plain {w : List Char} (h : ∀ c ∈ w, isSpecial c = false) :
    w.flatMap escapeChar = w := by
  induction w with
  | nil => rfl
  | cons c w ih =>
      rw [List.flatMap_cons, ih (fun d hd => h d (List.mem_cons_of_mem c hd))]
      rcases escapeChar_cases c with ⟨-, hkeep⟩ | ⟨hspecial, -⟩
      · rw [hkeep]
        rfl
      · rw [h c List.mem_cons_self] at hspecial
        cases hspecial

end Entities

section Contexts

/-- Where a reader of HTML is. -/
inductive Context where
  | text
  | tag
  | doubleQuoted
  | singleQuoted
  deriving DecidableEq, Repr

/-- What a character does to the place a reader is at. -/
def Context.next : Context → Char → Context
  | .text, c => if c = '<' then .tag else .text
  | .tag, c =>
      if c = '>' then .text
      else if c = '"' then .doubleQuoted
      else if c = '\'' then .singleQuoted
      else .tag
  | .doubleQuoted, c => if c = '"' then .tag else .doubleQuoted
  | .singleQuoted, c => if c = '\'' then .tag else .singleQuoted

/-- Where a reader is behind a text. -/
def Context.after (ctx : Context) (cs : List Char) : Context :=
  cs.foldl Context.next ctx

/-- A text in which nothing opens or closes a tag or a value. -/
def NoMarkup (cs : List Char) : Prop :=
  ∀ c ∈ cs, c ≠ '<' ∧ c ≠ '>' ∧ c ≠ '"' ∧ c ≠ '\''

theorem Context.after_append (ctx : Context) (u v : List Char) :
    ctx.after (u ++ v) = (ctx.after u).after v :=
  List.foldl_append

/-- Such a text leaves a reader in the text, or in the value, it stands in. -/
theorem Context.after_noMarkup {ctx : Context} (hctx : ctx = .text ∨ ctx = .doubleQuoted)
    {cs : List Char} (h : NoMarkup cs) : ctx.after cs = ctx := by
  induction cs with
  | nil => rfl
  | cons c cs ih =>
      have hc := h c List.mem_cons_self
      have hnext : ctx.next c = ctx := by
        rcases hctx with rfl | rfl
        · exact if_neg hc.1
        · exact if_neg hc.2.2.1
      show (ctx.next c).after cs = ctx
      rw [hnext]
      exact ih (fun d hd => h d (List.mem_cons_of_mem c hd))

/-- An escaped text has no markup. -/
theorem noMarkup_escape (s : String) : NoMarkup (escape s).toList := by
  intro c hc
  rw [escape, String.toList_ofList] at hc
  rcases List.mem_flatMap.mp hc with ⟨d, -, hd⟩
  rcases escapeChar_cases d with ⟨hplain, hkeep⟩ | ⟨-, name, hname, hentity⟩
  · rw [hkeep, List.mem_singleton] at hd
    rw [hd]
    refine ⟨?_, ?_, ?_, ?_⟩ <;> rintro rfl <;> exact absurd hplain (by decide)
  · have hnames : ∀ name ∈ entityNames, ∀ c ∈ '&' :: (name ++ [';']),
        c ≠ '<' ∧ c ≠ '>' ∧ c ≠ '"' ∧ c ≠ '\'' := by decide
    rw [hentity] at hd
    exact hnames name hname c hd

end Contexts

section Search

/-- A search that escaping cannot mislead: its words hold nothing that is
    escaped and no end of an entity and are not a part of one, and it sees no
    difference between the end of an entity and the character the entity stands
    for. -/
structure Inert (p : Shape) : Prop where
  ne_nil : ∀ w, p.word w → w ≠ []
  plain : ∀ w, p.word w → ∀ c ∈ w, isSpecial c = false
  semicolon : ∀ w, p.word w → ';' ∉ w
  whole : ∀ w, p.word w → ∀ name ∈ entityNames, ¬ w <:+: name
  left : ∀ c x, isSpecial c = true → (p.left (some ';') x ↔ p.left (some c) x)
  right : ∀ c x, isSpecial c = true → (p.right x (some '&') ↔ p.right x (some c))

variable {s pre w post : List Char}

/-- A word that begins inside an entity would be a part of it. -/
theorem infix_of_inside {name c' pre' : List Char} (hsemicolon : ';' ∉ w)
    (hname : name ++ [';'] = pre' ++ c') (hc' : c' ≠ []) {rest : List Char}
    (h : w ++ post = c' ++ rest) : w <:+: name := by
  -- The part of the entity behind the start of the word ends in the semicolon.
  rcases List.eq_nil_or_concat c' with rfl | ⟨inner, x, rfl⟩
  · exact absurd rfl hc'
  · rw [List.concat_eq_append, ← List.append_assoc] at hname
    rcases List.append_inj' hname rfl with ⟨rfl, hx⟩
    rw [List.concat_eq_append, ← (List.cons.inj hx).1, List.append_assoc] at h
    rcases List.append_eq_append_iff.mp h with ⟨t, rfl, -⟩ | ⟨t, rfl, ht⟩
    · exact ⟨pre', t, by rw [List.append_assoc]⟩
    · cases t with
      | nil => exact ⟨pre', [], by rw [List.append_nil, List.append_nil]⟩
      | cons y t =>
          refine absurd ?_ hsemicolon
          rw [(List.cons.inj ht).1]
          exact List.mem_append_right _ List.mem_cons_self

/-- A word of an escaped text begins where a character of the text does. -/
theorem start_of_escape (hne : w ≠ []) (hsemicolon : ';' ∉ w)
    (hwhole : ∀ name ∈ entityNames, ¬ w <:+: name)
    (h : s.flatMap escapeChar = pre ++ (w ++ post)) :
    ∃ s₁ s₂, s = s₁ ++ s₂ ∧ pre = s₁.flatMap escapeChar ∧ s₂.flatMap escapeChar = w ++ post := by
  induction s generalizing pre with
  | nil =>
      rcases List.append_eq_nil_iff.mp h.symm with ⟨-, hw⟩
      exact absurd (List.append_eq_nil_iff.mp hw).1 hne
  | cons c s ih =>
      rw [List.flatMap_cons] at h
      rcases List.append_eq_append_iff.mp h with ⟨pre', rfl, hrest⟩ | ⟨c', hc, hrest⟩
      · rcases ih hrest with ⟨s₁, s₂, rfl, rfl, hs₂⟩
        exact ⟨c :: s₁, s₂, rfl, List.flatMap_cons.symm, hs₂⟩
      · by_cases hc' : c' = []
        · subst hc'
          rw [List.append_nil] at hc
          refine ⟨[c], s, rfl, ?_, hrest.symm⟩
          rw [List.flatMap_singleton, hc]
        · cases pre with
          | nil =>
              refine ⟨[], c :: s, rfl, rfl, ?_⟩
              rw [List.flatMap_cons, hc, List.nil_append]
              exact hrest.symm
          | cons x pre =>
              -- The place is strictly inside what one character became.
              rcases escapeChar_cases c with ⟨-, hkeep⟩ | ⟨-, name, hname, hentity⟩
              · rw [hkeep] at hc
                rcases List.append_eq_nil_iff.mp (List.cons.inj hc).2.symm with ⟨-, hnil⟩
                exact absurd hnil hc'
              · rw [hentity] at hc
                exact absurd (infix_of_inside hsemicolon (List.cons.inj hc).2 hc' hrest)
                  (hwhole name hname)

/-- A word without an ampersand is kept as it is. -/
theorem word_of_escape (hamp : '&' ∉ w) (h : s.flatMap escapeChar = w ++ post) :
    ∃ t, s = w ++ t ∧ post = t.flatMap escapeChar := by
  induction w generalizing s with
  | nil => exact ⟨s, rfl, h.symm⟩
  | cons x w ih =>
      cases s with
      | nil => cases h
      | cons c s =>
          rw [List.flatMap_cons] at h
          rcases escapeChar_cases c with ⟨-, hkeep⟩ | ⟨-, name, -, hentity⟩
          · rw [hkeep] at h
            rcases List.cons.inj h with ⟨rfl, hrest⟩
            rcases ih (List.not_mem_of_not_mem_cons hamp) hrest with ⟨t, rfl, hpost⟩
            exact ⟨t, rfl, hpost⟩
          · rw [hentity] at h
            refine absurd ?_ hamp
            rw [(List.cons.inj h).1]
            exact List.mem_cons_self

/-- What is found in an escaped text is what is in the text. -/
theorem occurs_escape {p : Shape} (hinert : Inert p) :
    Occurs p (s.flatMap escapeChar) ↔ Occurs p s := by
  have hleft : ∀ (s₁ : List Char) x,
      p.left (s₁.flatMap escapeChar).getLast? x ↔ p.left s₁.getLast? x := fun s₁ x =>
    getLast?_escape (P := fun c => p.left c x) s₁ (fun c => hinert.left c x)
  have hright : ∀ (t : List Char) x,
      p.right x (t.flatMap escapeChar).head? ↔ p.right x t.head? := fun t x =>
    head?_escape (P := fun c => p.right x c) t (fun c => hinert.right c x)
  constructor
  · rintro ⟨pre, w, post, htext, hword, hbefore, hbehind⟩
    rcases start_of_escape (hinert.ne_nil w hword) (hinert.semicolon w hword)
      (hinert.whole w hword) htext with ⟨s₁, s₂, rfl, rfl, hs₂⟩
    have hamp : '&' ∉ w := fun hmem => absurd (hinert.plain w hword '&' hmem) (by decide)
    rcases word_of_escape hamp hs₂ with ⟨t, rfl, rfl⟩
    exact ⟨s₁, w, t, rfl, hword, (hleft s₁ _).mp hbefore, (hright t _).mp hbehind⟩
  · rintro ⟨pre, w, post, rfl, hword, hbefore, hbehind⟩
    refine ⟨pre.flatMap escapeChar, w, post.flatMap escapeChar, ?_, hword, (hleft pre _).mpr hbefore,
      (hright post _).mpr hbehind⟩
    rw [List.flatMap_append, List.flatMap_append, escape_plain (hinert.plain w hword)]

end Search

end Html

end AgenticRag
