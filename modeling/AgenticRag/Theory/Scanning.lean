import AgenticRag.Core.SensitiveScanner
import AgenticRag.Lib.Html

/-!
# What the Scan Covers

A text is clean if no pattern of high or critical severity matches in it. Each
of these patterns looks for a word and asks at most for a boundary around it
or for something behind it, so a match is a place of a certain shape
(`exists_shape`). Two facts follow that relate the texts the scan goes through
to the texts a renderer prints. A part of a clean text is clean where it is cut
off at a space or at the end of a line, and what `escape` makes of a text is
clean if and only if the text is.

The scan finds nothing of high or critical severity if and only if the texts
it goes through are clean.

## Main definitions

* `Clean`: No pattern of high or critical severity matches.
* `scannedTexts`: The texts the scan goes through.

## Theorems

* `exists_shape`: A blocking pattern looks for a shape.
* `clean_of_part`, `clean_escape`: Texts that are clean because another is.
* `hasHigh_scanArtifact`: When the scan finds something.
-/

namespace AgenticRag

namespace Report

open Py Html

/-- No pattern of high or critical severity matches in a text. -/
def Clean (u : Unicode) (text : String) : Prop :=
  ∀ p ∈ sensitivePatterns u, p.severity.isBlocking = true → finditer p.pattern text = []

section Words

theorem plain_lit (s : String) : (lit s).Plain := by
  unfold lit
  induction s.toList with
  | nil => trivial
  | cons c cs ih => exact ⟨trivial, ih⟩

theorem productive_lit (s : String) : (lit s).Productive := by
  unfold lit
  induction s.toList with
  | nil => trivial
  | cons c cs ih => exact ⟨trivial, ih⟩

theorem plain_litAnyCase (s : String) : (litAnyCase s).Plain := by
  unfold litAnyCase
  induction s.toList with
  | nil => trivial
  | cons c cs ih => exact ⟨trivial, ih⟩

theorem productive_litAnyCase (s : String) : (litAnyCase s).Productive := by
  unfold litAnyCase
  induction s.toList with
  | nil => trivial
  | cons c cs ih => exact ⟨trivial, ih⟩

/-- An expression whose words cannot be taken for a part of an entity. -/
structure Distinct (r : Regex) : Prop where
  plain : r.Plain
  productive : r.Productive
  plainText : ∀ c ∈ ['&', '<', '>', '"', '\''], r.allows c = false
  semicolon : r.allows ';' = false
  pos : 0 < r.minLength
  name : ∀ name ∈ entityNames, name.length < r.minLength ∨
    (name.length = r.minLength ∧ ∃ c ∈ name, r.allows c = false)

theorem not_infix_of_distinct {r : Regex} (h : Distinct r) {w : List Char} (hw : r.Word w)
    {name : List Char} (hname : name ∈ entityNames) : ¬ w <:+: name := by
  intro hinfix
  have hmin := minLength_le_of_reads hw
  have hlength := hinfix.length_le
  rcases h.name name hname with hlt | ⟨heq, c, hc, hnot⟩
  · omega
  -- Only a word that is the whole name is long enough.
  · have hall : w = name := hinfix.eq_of_length (by omega)
    rw [← hall] at hc
    rw [allows_of_reads h.plain hw c hc] at hnot
    cases hnot

/-- The words of a shape are those of such an expression, and the shape sees
    no difference between punctuation marks. -/
theorem inert_of_distinct {p : Shape} {r : Regex} (h : Distinct r) (hword : p.word = r.Word)
    (hleft : ∀ c x, isSpecial c = true → (p.left (some ';') x ↔ p.left (some c) x))
    (hright : ∀ c x, isSpecial c = true → (p.right x (some '&') ↔ p.right x (some c))) :
    Inert p where
  ne_nil := fun w hw => ne_nil_of_reads h.pos (hword ▸ hw)
  plain := fun w hw c hmem => by
    have hallows := allows_of_reads h.plain (hword ▸ hw : r.Word w) c hmem
    refine Bool.eq_false_iff.mpr (fun hspecial => ?_)
    rw [h.plainText c (List.contains_iff_mem.mp hspecial)] at hallows
    cases hallows
  semicolon := fun w hw hmem => by
    have hallows := allows_of_reads h.plain (hword ▸ hw : r.Word w) ';' hmem
    rw [h.semicolon] at hallows
    cases hallows
  whole := fun w hw name hname => not_infix_of_distinct h (hword ▸ hw) hname
  left := hleft
  right := hright

theorem distinct_idCard : Distinct idCardBody where
  plain := ⟨trivial, trivial⟩
  productive := ⟨productive_sat_rep isDecimal 17 (some 17), trivial⟩
  plainText := by decide
  semicolon := by decide
  pos := by decide
  name := by decide

theorem distinct_bankCard : Distinct bankCardBody where
  plain := trivial
  productive := productive_sat_rep isDecimal 16 (some 19)
  plainText := by decide
  semicolon := by decide
  pos := by decide
  name := by decide

theorem distinct_apiKey : Distinct apiKeyPattern where
  plain := ⟨⟨plain_lit _, trivial⟩, ⟨plain_lit _, trivial⟩, ⟨plain_lit _, trivial⟩,
    ⟨plain_lit _, trivial⟩, plain_lit _, trivial, trivial⟩
  productive := ⟨⟨productive_lit _, productive_sat_rep _ _ _⟩,
    ⟨productive_lit _, productive_sat_rep _ _ _⟩, ⟨productive_lit _, productive_sat_rep _ _ _⟩,
    ⟨productive_lit _, productive_sat_rep _ _ _⟩, productive_lit _, productive_sat_rep _ _ _,
    productive_sat_rep _ _ _⟩
  plainText := by decide
  semicolon := by decide
  pos := by decide
  name := by decide

theorem distinct_password : Distinct passwordHead where
  plain := ⟨⟨plain_litAnyCase _, plain_litAnyCase _, plain_litAnyCase _⟩, trivial, trivial, trivial⟩
  productive := ⟨⟨productive_litAnyCase _, productive_litAnyCase _, productive_litAnyCase _⟩,
    productive_sat_rep _ _ _, trivial, productive_sat_rep _ _ _⟩
  plainText := by decide
  semicolon := by decide
  pos := by decide
  name := by decide

theorem distinct_dbConn : Distinct dbConnHead where
  plain := ⟨⟨plain_lit _, plain_lit _, plain_lit _, plain_lit _, plain_lit _⟩, plain_lit _⟩
  productive := ⟨⟨productive_lit _, productive_lit _, productive_lit _, productive_lit _,
    productive_lit _⟩, productive_lit _⟩
  plainText := by decide
  semicolon := by decide
  pos := by decide
  name := by decide

end Words

section Shapes

/-- A character that separates the cells of a row or the lines of a text. -/
def IsSeparator (c : Char) : Prop :=
  c = ' ' ∨ c = '\n'

/-- Punctuation is no part of a word. -/
theorem isWordChar_special (u : Unicode) {c : Char} (h : isSpecial c = true) :
    isWordChar u c = false := by
  have hmem := List.contains_iff_mem.mp h
  simp only [List.mem_cons, List.not_mem_nil, or_false] at hmem
  rcases hmem with rfl | rfl | rfl | rfl | rfl <;> rfl

theorem isWordChar_separator (u : Unicode) {c : Char} (h : IsSeparator c) :
    isWordChar u c = false := by
  rcases h with rfl | rfl <;> rfl

theorem isSpace_special {c : Char} (h : isSpecial c = true) : isSpace c = false := by
  have hmem := List.contains_iff_mem.mp h
  simp only [List.mem_cons, List.not_mem_nil, or_false] at hmem
  rcases hmem with rfl | rfl | rfl | rfl | rfl <;> rfl

/-- A boundary next to a character that is no part of a word. -/
theorem atBoundary_left {isWord : Char → Bool} {c : Char} (h : isWord c = false)
    (x : Option Char) : atBoundary isWord (some c) x = atBoundary isWord none x := by
  rw [atBoundary, atBoundary, Option.map_some, Option.getD_some, h]
  rfl

theorem atBoundary_right {isWord : Char → Bool} {c : Char} (h : isWord c = false)
    (x : Option Char) : atBoundary isWord x (some c) = atBoundary isWord x none := by
  rw [atBoundary, atBoundary, Option.map_some, Option.getD_some, h]
  rfl

theorem inert_bounded (u : Unicode) {r : Regex} (h : Distinct r) :
    Inert (boundedShape (isWordChar u) r) := by
  refine inert_of_distinct h rfl (fun c x hc => ?_) (fun c x hc => ?_)
  · show atBoundary _ _ _ = true ↔ atBoundary _ _ _ = true
    rw [atBoundary_left (isWordChar_special u hc), atBoundary_left (c := ';') rfl]
  · show atBoundary _ _ _ = true ↔ atBoundary _ _ _ = true
    rw [atBoundary_right (isWordChar_special u hc), atBoundary_right (c := '&') rfl]

theorem framed_bounded (u : Unicode) (r : Regex) {c : Char} (hc : IsSeparator c) :
    (boundedShape (isWordChar u) r).Framed c where
  left := fun x hx => (atBoundary_left (isWordChar_separator u hc) x).trans hx
  right := fun x hx => (atBoundary_right (isWordChar_separator u hc) x).trans hx

theorem inert_plain {r : Regex} (h : Distinct r) : Inert (plainShape r) :=
  inert_of_distinct h rfl (fun _ _ _ => Iff.rfl) (fun _ _ _ => Iff.rfl)

theorem framed_plain (r : Regex) (c : Char) : (plainShape r).Framed c :=
  ⟨fun _ _ => trivial, fun _ _ => trivial⟩

theorem inert_followed {r : Regex} (h : Distinct r) :
    Inert (followedShape (fun c => !isSpace c) r) := by
  refine inert_of_distinct h rfl (fun _ _ _ => Iff.rfl) (fun c x hc => ?_)
  show (!isSpace '&') = true ↔ (!isSpace c) = true
  rw [isSpace_special hc]
  rfl

theorem framed_followed (p : Char → Bool) (r : Regex) (c : Char) :
    (followedShape p r).Framed c where
  left := fun _ _ => trivial
  right := fun x hx => by cases hx

/-- What a pattern looks for has a shape that escaping does not mislead, and a
    separator looks to it like the end of a text. -/
structure LooksFor (r : Regex) (shape : Shape) : Prop where
  found : ∀ text, finditer r text ≠ [] ↔ Occurs shape text.toList
  inert : Inert shape
  framed : ∀ c, IsSeparator c → shape.Framed c

theorem looksFor_bounded (u : Unicode) {r : Regex} (h : Distinct r) :
    LooksFor (bounded u r) (boundedShape (isWordChar u) r) :=
  ⟨finditer_bounded (isWordChar u) h.plain h.productive h.pos, inert_bounded u h,
    fun _ => framed_bounded u r⟩

theorem looksFor_plain {r : Regex} (h : Distinct r) : LooksFor r (plainShape r) :=
  ⟨finditer_plain h.plain h.productive, inert_plain h, fun c _ => framed_plain r c⟩

theorem looksFor_followed {r : Regex} (h : Distinct r) :
    LooksFor (.seq r nonSpaces) (followedShape (fun c => !isSpace c) r) :=
  ⟨finditer_followed _ h.plain h.productive, inert_followed h, fun c _ => framed_followed _ r c⟩

/-- A pattern of high or critical severity looks for a shape. -/
theorem exists_shape {u : Unicode} {p : SensitivePattern} (hp : p ∈ sensitivePatterns u)
    (hblocking : p.severity.isBlocking = true) : ∃ shape, LooksFor p.pattern shape := by
  simp only [sensitivePatterns, List.mem_cons, List.not_mem_nil, or_false] at hp
  rcases hp with rfl | rfl | rfl | rfl | rfl | rfl | rfl | rfl
  · exact ⟨_, looksFor_bounded u distinct_idCard⟩
  · cases hblocking
  · cases hblocking
  · exact ⟨_, looksFor_plain distinct_apiKey⟩
  · exact ⟨_, looksFor_followed distinct_password⟩
  · exact ⟨_, looksFor_followed distinct_dbConn⟩
  · cases hblocking
  · exact ⟨_, looksFor_bounded u distinct_bankCard⟩

end Shapes

section Clean

variable {u : Unicode}

/-- A text is clean if whatever is found in it is found in a clean text. -/
theorem clean_of_occurs {text text' : String} (h : Clean u text)
    (hoccurs : ∀ r shape, LooksFor r shape → Occurs shape text'.toList →
      Occurs shape text.toList) : Clean u text' := by
  intro p hp hblocking
  rcases exists_shape hp hblocking with ⟨shape, hshape⟩
  by_contra hfound
  have hplace := hoccurs p.pattern shape hshape ((hshape.found text').mp hfound)
  exact (hshape.found text).mpr hplace (h p hp hblocking)

theorem clean_empty : Clean u "" := by
  intro p hp hblocking
  rcases exists_shape hp hblocking with ⟨shape, hshape⟩
  by_contra hfound
  rcases (hshape.found "").mp hfound with ⟨pre, w, post, hsplit, hword, -⟩
  have hnil := (List.append_eq_nil_iff.mp hsplit.symm).2
  exact hshape.inert.ne_nil w hword (List.append_eq_nil_iff.mp hnil).1

/-- A part of a clean text that is cut off at separators is clean. -/
theorem clean_of_part {text part : String} {a b : List Char} (h : Clean u text)
    (hsplit : text.toList = a ++ (part.toList ++ b)) (ha : EndsWith IsSeparator a.getLast?)
    (hb : EndsWith IsSeparator b.head?) : Clean u part :=
  clean_of_occurs h (fun _ _ hshape hplace => hsplit ▸ hplace.frame hshape.framed ha hb)

/-- What `escape` makes of a text is clean if and only if the text is. -/
theorem clean_escape {text : String} : Clean u (escape text) ↔ Clean u text := by
  have hchars : (escape text).toList = text.toList.flatMap escapeChar := String.toList_ofList
  constructor
  · refine fun h => clean_of_occurs h (fun _ _ hshape hplace => ?_)
    rw [hchars]
    exact (occurs_escape hshape.inert).mpr hplace
  · refine fun h => clean_of_occurs h (fun _ _ hshape hplace => ?_)
    rw [hchars] at hplace
    exact (occurs_escape hshape.inert).mp hplace

end Clean

section Coverage

variable {u : Unicode}

/-- The texts the scan goes through. -/
def scannedTexts (u : Unicode) (a : ReportArtifact) : List String :=
  [a.summary] ++ a.sections.map ReportSection.content ++
  a.tables.flatMap (fun table => table.rows.map (rowText u)) ++ a.charts.map ChartSpec.notes

/-- No finding is of high or critical severity. -/
def NoneBlocking (findings : List Finding) : Prop :=
  ∀ f ∈ findings, f.severity.isBlocking = false

theorem hasHigh_eq_false {findings : List Finding} :
    hasHigh findings = false ↔ NoneBlocking findings := by
  simp only [hasHigh, List.any_eq_false, Bool.not_eq_true, NoneBlocking]

theorem noneBlocking_append {fs gs : List Finding} :
    NoneBlocking (fs ++ gs) ↔ NoneBlocking fs ∧ NoneBlocking gs :=
  List.forall_mem_append

theorem noneBlocking_flatMap {α : Type} {f : α → List Finding} {xs : List α} :
    NoneBlocking (xs.flatMap f) ↔ ∀ x ∈ xs, NoneBlocking (f x) := by
  constructor
  · exact fun h x hx g hg => h g (List.mem_flatMap.mpr ⟨x, hx, hg⟩)
  · intro h g hg
    rcases List.mem_flatMap.mp hg with ⟨x, hx, hg⟩
    exact h x hx g hg

theorem noneBlocking_scanText (text : String) : NoneBlocking (scanText u text) ↔ Clean u text := by
  rw [scanText]
  split
  next hempty =>
    rw [hempty]
    exact ⟨fun _ => clean_empty, fun _ => List.forall_mem_nil _⟩
  · rw [noneBlocking_flatMap]
    refine forall₂_congr (fun p hp => ?_)
    constructor
    · intro h hblocking
      by_contra hfound
      rcases List.exists_mem_of_ne_nil _ hfound with ⟨m, hm⟩
      have hnot : p.severity.isBlocking = false := h (findingOf p m) (List.mem_map_of_mem hm)
      rw [hblocking] at hnot
      cases hnot
    · intro h f hf
      rcases List.mem_map.mp hf with ⟨m, hm, rfl⟩
      refine Bool.eq_false_iff.mpr (fun hblocking => ?_)
      rw [h hblocking] at hm
      exact List.not_mem_nil hm

theorem noneBlocking_scanAt (location text : String) :
    NoneBlocking (scanAt u location text) ↔ Clean u text := by
  rw [← noneBlocking_scanText, scanAt]
  exact List.forall_mem_map

/-- The scan finds nothing of high or critical severity if and only if the
    texts it goes through are clean. -/
theorem hasHigh_scanArtifact (a : ReportArtifact) :
    hasHigh (scanArtifact u a) = false ↔ ∀ text ∈ scannedTexts u a, Clean u text := by
  simp only [hasHigh_eq_false, scanArtifact, scannedTexts, noneBlocking_append,
    noneBlocking_flatMap, noneBlocking_scanAt, List.forall_mem_append, List.forall_mem_singleton,
    List.forall_mem_map, List.forall_mem_flatMap]

end Coverage

end Report

end AgenticRag
