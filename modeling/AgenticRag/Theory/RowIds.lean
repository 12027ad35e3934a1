import AgenticRag.Theory.Coverage
import AgenticRag.Theory.Snapshot

/-!
# The Ids of Database Rows

Each row of a database result becomes a piece of evidence, and the id of the
piece is to stand for the row: no two rows share one, and normalising the same
result again gives the same ids.

What is hashed for a row is where the result comes from, the key of the row, the
time of the data and the opening of the row's text (`rowImprint`). The key is a
column that looks like one, or else the first column, so two rows may have the
same one, and what tells them apart may stand behind the opening. Where the
result does not say what time its data are of, the clock is read, and another
reading gives other ids.

Nothing else goes wrong (`idsFaithful_iff`). The hash is asked for no more than
to tell apart the texts that are hashed.

## Main definitions

* `rowKeyOf`, `rowImprint`: The key of a row, and what of the hashed text is its
  own.
* `IdsFaithful`: What the ids of a result should be.

## Theorems

* `normalizeDbEvidence_eq_ok`: The pieces of a result and the texts of their ids.
* `exists_mem_fused`: What fusion keeps of evidence that it does not cut.
* `idsFaithful_iff`: When the ids are what they should be.
-/

namespace AgenticRag

open Py Ordered

/-- The surroundings with another reading of the clock. -/
def Runtime.atTime (rt : Runtime) (t : String) : Runtime :=
  { rt with nowIso := t }

section Texts

variable (rt : Runtime) (r : DbResult)

/-- The first column of the first row. -/
def DbResult.firstCol : String :=
  ((r.rows.head?.bind List.head?).map Prod.fst).getD ""

/-- The key a row goes by: all of it where the result is a small aggregate. -/
def rowKeyOf (row : Dict) : String :=
  if isAggregate rt r.sql ∧ r.rows.length ≤ 5 then "aggregate_" ++ join "_" (row.map (columnEq rt))
  else extractRowKey rt row r.firstCol

/-- Where a result comes from. -/
def resultUri : String :=
  "db://" ++ (dbContext rt r).tablePath ++ "/" ++ r.queryId ++ "/" ++
    (dbContext rt r).sqlFingerprint

/-- What tells a row from the others in the text hashed for it: the key and the
    opening, with the time of the data between them. -/
def rowImprint (asOf : String) (row : Dict) : String :=
  rowKeyOf rt r row ++ ("?as_of=" ++ (asOf ++ ("|" ++ take (Val.dict row).dumps 200)))

/-- The text hashed for a row. -/
def rowText (row : Dict) : String :=
  resultUri rt r ++ ("/" ++ rowImprint rt r (dbContext rt r).asOf row)

/-- The text hashed for a result without rows. -/
def zeroRowsText : String :=
  resultUri rt r ++ ("?as_of=" ++ ((dbContext rt r).asOf ++ "&zero_rows=true|ZERO_ROWS"))

/-- The texts hashed for the pieces of a result. -/
def resultTexts : List String :=
  if r.rows = [] then [zeroRowsText rt r] else r.rows.map (rowText rt r)

/-- The id a text is hashed to. -/
def idOfText (text : String) : String :=
  "ev_" ++ take (rt.sha256 text) 16

variable {rt r} {tenantId query : String}

theorem attachProvenanceToEvidence_structuredData (ev : Evidence) (provenance : Dict) :
    (attachProvenanceToEvidence ev provenance).structuredData = ev.structuredData := by
  unfold attachProvenanceToEvidence
  split_ifs <;> rfl

theorem rowEvidence_evidenceId (row : Dict) (title : String) (marks : Dict) :
    (rowEvidence rt tenantId query r row (rowKeyOf rt r row) title marks).evidenceId =
      idOfText rt (rowText rt r row) := by
  unfold rowEvidence idOfText rowText rowImprint resultUri
  dsimp only
  rw [attachProvenanceToEvidence_evidenceId, makeEvidenceId]
  simp only [String.append_assoc]

theorem zeroRowsEvidence_evidenceId :
    (zeroRowsEvidence rt tenantId query r).evidenceId = idOfText rt (zeroRowsText rt r) := by
  have htake : take "ZERO_ROWS" 200 = "ZERO_ROWS" := by decide
  have hlast : "&zero_rows=true|ZERO_ROWS" = "&zero_rows=true" ++ ("|" ++ "ZERO_ROWS") := by decide
  unfold zeroRowsEvidence idOfText zeroRowsText resultUri
  dsimp only
  rw [attachProvenanceToEvidence_evidenceId, makeEvidenceId, htake, hlast]
  simp only [String.append_assoc]

variable (rt tenantId query) in
/-- A result whose rows can be read gives one piece for each row, in order, or
    one that says that there are none. -/
theorem normalizeDbEvidence_eq_ok (hread : RowsReadable rt r) :
    ∃ evs, normalizeDbEvidence rt tenantId query (some r) = .ok evs ∧
      evs.map Evidence.evidenceId = (resultTexts rt r).map (idOfText rt) ∧
      (r.rows ≠ [] → evs.map Evidence.structuredData = r.rows) := by
  -- Whatever titles and marks the pieces are given.
  have hrows : ∀ (title : Dict → String) (marks : Dict), r.rows ≠ [] →
      (r.rows.map (fun row => rowEvidence rt tenantId query r row (rowKeyOf rt r row) (title row)
        marks)).map Evidence.evidenceId = (resultTexts rt r).map (idOfText rt) ∧
      (r.rows ≠ [] → (r.rows.map (fun row => rowEvidence rt tenantId query r row
        (rowKeyOf rt r row) (title row) marks)).map Evidence.structuredData = r.rows) := by
    intro title marks hne
    rw [resultTexts, if_neg hne, List.map_map, List.map_map, List.map_map]
    refine ⟨List.map_congr_left (fun row _ => rowEvidence_evidenceId row _ _), fun _ => ?_⟩
    refine (List.map_congr_left (fun row _ => ?_)).trans (List.map_id _)
    exact attachProvenanceToEvidence_structuredData _ _
  unfold normalizeDbEvidence
  dsimp only
  cases hfirst : r.rows with
  | nil =>
      refine ⟨_, rfl, ?_, fun h => absurd rfl h⟩
      rw [resultTexts, if_pos hfirst, List.map_singleton, List.map_singleton,
        zeroRowsEvidence_evidenceId]
  | cons first rest =>
      have hne : r.rows ≠ [] := by rw [hfirst]; exact List.cons_ne_nil _ _
      dsimp only
      rw [← hfirst]
      by_cases hagg : isAggregate rt r.sql = true ∧ r.rows.length ≤ 5
      · rw [if_pos hagg]
        refine ⟨_, rfl, ?_⟩
        have hkey : ∀ row, rowKeyOf rt r row = "aggregate_" ++ join "_" (row.map (columnEq rt)) :=
          fun row => if_pos hagg
        simp only [← hkey]
        exact hrows _ _ hne
      · rw [if_neg hagg]
        -- The first row has a column, by which the rows are split.
        rw [RowsReadable, or_iff_left hagg, hfirst, List.head?_cons, ne_eq,
          Option.some.injEq] at hread
        cases hcols : first with
        | nil => exact absurd hcols hread
        | cons col cols =>
            refine ⟨_, rfl, ?_⟩
            have hkey : ∀ row, rowKeyOf rt r row = extractRowKey rt row col.1 := by
              intro row
              rw [rowKeyOf, if_neg hagg, DbResult.firstCol, hfirst, hcols]
              rfl
            simp only [← hkey]
            exact hrows _ _ hne

variable (rt) in
theorem normalizeDbEvidence_eq_error (hread : ¬ RowsReadable rt r) :
    normalizeDbEvidence rt tenantId query (some r) = .error .indexError := by
  rw [RowsReadable, not_or, not_not] at hread
  unfold normalizeDbEvidence
  cases hrows : r.rows with
  | nil =>
      rw [hrows] at hread
      cases hread.1
  | cons first rest =>
      rw [hrows, List.head?_cons, Option.some.injEq] at hread
      rcases hread with ⟨rfl, hagg⟩
      simp only [hrows, if_neg hagg]

end Texts

section Kept

/-- A piece with an id leaves a piece of its id. -/
theorem exists_mem_dedupById {seen : List String} {evidences : List Evidence} {ev : Evidence}
    (hev : ev ∈ evidences) (hid : ev.evidenceId ≠ "") (hseen : ev.evidenceId ∉ seen) :
    ∃ kept ∈ dedupById seen evidences, kept.evidenceId = ev.evidenceId := by
  induction evidences generalizing seen with
  | nil => cases hev
  | cons e rest ih =>
      rw [dedupById]
      rcases List.mem_cons.mp hev with rfl | hrest
      · rw [if_neg (not_or.mpr ⟨hid, hseen⟩)]
        exact ⟨ev, List.mem_cons_self, rfl⟩
      · split_ifs with hskip
        · exact ih hrest hseen
        · -- The piece kept here may have the id already.
          by_cases hsame : e.evidenceId = ev.evidenceId
          · exact ⟨e, List.mem_cons_self, hsame⟩
          · have hfresh : ev.evidenceId ∉ e.evidenceId :: seen :=
              List.not_mem_cons_of_ne_of_not_mem (Ne.symm hsame) hseen
            rcases ih hrest hfresh with ⟨kept, hkept, hkid⟩
            exact ⟨kept, List.mem_cons_of_mem e hkept, hkid⟩

/-- Where nothing is cut, fusion keeps a piece of every id. -/
theorem exists_mem_fused {evidences : List Evidence} {maxCount : Nat} {tokenBudget : Int}
    (hcount : evidences.length ≤ maxCount) {ev : Evidence} (hev : ev ∈ evidences)
    (hid : ev.evidenceId ≠ "") :
    ∃ kept ∈ (fuseEvidences evidences maxCount tokenBudget).fused,
      kept.evidenceId = ev.evidenceId := by
  have hlength : (sortDesc evidenceWeight (dedupById [] evidences)).length ≤ maxCount := by
    rw [(sortDesc_perm evidenceWeight _).length_eq]
    exact (dedupById_sublist [] evidences).length_le.trans hcount
  rcases exists_mem_dedupById hev hid List.not_mem_nil with ⟨kept, hkept, hkid⟩
  refine ⟨kept, ?_, hkid⟩
  rw [fuseEvidences, List.take_of_length_le hlength]
  exact (mem_sortDesc evidenceWeight).mpr hkept

theorem idOfText_ne_empty (rt : Runtime) (text : String) : idOfText rt text ≠ "" := by
  intro h
  have hlength := congrArg String.length h
  rw [idOfText, String.length_append] at hlength
  have hpre : "ev_".length = 3 := by decide
  have hnone : "".length = 0 := by decide
  omega

end Kept

section Faithful

variable (rt : Runtime) (tenantId query : String) (dbResult : Option DbResult) (t₁ t₂ : String)

/-- The ids a result gets at a time, or the exception. -/
def idsAt (t : String) : Except Exc (List String) :=
  (normalizeDbEvidence (rt.atTime t) tenantId query dbResult).map (List.map Evidence.evidenceId)

/-- The texts hashed for a result at a time. -/
def textsAt (t : String) : List String :=
  (dbResult.map (resultTexts (rt.atTime t))).getD []

/-- The ids of the pieces of a result are those of its rows. -/
structure IdsFaithful : Prop where
  /-- Normalising the result again gives the same ids. -/
  stable : idsAt rt tenantId query dbResult t₁ = idsAt rt tenantId query dbResult t₂
  /-- Different rows get different ids. -/
  apart : ∀ (r : DbResult) (evs : List Evidence), dbResult = some r →
    normalizeDbEvidence (rt.atTime t₁) tenantId query dbResult = .ok evs →
    ∀ (i j : Nat) (row row' : Dict), r.rows[i]? = some row → r.rows[j]? = some row' → row ≠ row' →
      (evs.map Evidence.evidenceId)[i]? ≠ (evs.map Evidence.evidenceId)[j]?
  /-- Fusion keeps each of them, unless it cuts the list. -/
  kept : ∀ (r : DbResult) (evs : List Evidence), dbResult = some r →
    normalizeDbEvidence (rt.atTime t₁) tenantId query dbResult = .ok evs →
    ∀ (maxCount : Nat) (tokenBudget : Int), evs.length ≤ maxCount → ∀ row ∈ r.rows,
      ∃ ev ∈ (fuseEvidences evs maxCount tokenBudget).fused, ev.structuredData = row

/-- What a result must be like for that, if it can be read at all. -/
def Distinguishes (r : DbResult) : Prop :=
  (r.asOf.isSome = true ∨ t₁ = t₂) ∧
    ∀ row ∈ r.rows, ∀ row' ∈ r.rows, row ≠ row' →
      rowImprint rt r (r.asOf.getD t₁) row ≠ rowImprint rt r (r.asOf.getD t₁) row'

variable {rt tenantId query dbResult t₁ t₂} {r : DbResult}

theorem rowText_inj {row row' : Dict} :
    rowText rt r row = rowText rt r row' ↔
      rowImprint rt r (dbContext rt r).asOf row = rowImprint rt r (dbContext rt r).asOf row' := by
  rw [rowText, rowText, String.append_right_inj, String.append_right_inj]

/-- A text hashed tells what time the data are of. -/
theorem asOf_of_resultTexts (h : resultTexts (rt.atTime t₁) r = resultTexts (rt.atTime t₂) r) :
    r.asOf.getD t₁ = r.asOf.getD t₂ := by
  have huri : resultUri (rt.atTime t₁) r = resultUri (rt.atTime t₂) r := rfl
  have hkey : ∀ row, rowKeyOf (rt.atTime t₁) r row = rowKeyOf (rt.atTime t₂) r row := fun _ => rfl
  have hasOf : ∀ t, (dbContext (rt.atTime t) r).asOf = r.asOf.getD t := fun _ => rfl
  unfold resultTexts at h
  cases hrows : r.rows with
  | nil =>
      rw [if_pos hrows, if_pos hrows, List.cons_eq_cons] at h
      have htext := h.1
      rw [zeroRowsText, zeroRowsText, huri, String.append_right_inj, String.append_right_inj,
        String.append_left_inj, hasOf, hasOf] at htext
      exact htext
  | cons first rest =>
      have hne : r.rows ≠ [] := by rw [hrows]; exact List.cons_ne_nil _ _
      rw [if_neg hne, if_neg hne, hrows, List.map_cons, List.map_cons, List.cons_eq_cons] at h
      have htext := h.1
      rw [rowText, rowText, rowImprint, rowImprint, huri, hkey, String.append_right_inj,
        String.append_right_inj, String.append_right_inj, String.append_right_inj,
        String.append_left_inj, hasOf, hasOf] at htext
      exact htext

theorem resultTexts_of_asOf (h : r.asOf.getD t₁ = r.asOf.getD t₂) :
    resultTexts (rt.atTime t₁) r = resultTexts (rt.atTime t₂) r := by
  have hcontext : (dbContext (rt.atTime t₁) r).asOf = (dbContext (rt.atTime t₂) r).asOf := h
  have hzero : zeroRowsText (rt.atTime t₁) r = zeroRowsText (rt.atTime t₂) r := by
    rw [zeroRowsText, hcontext]
    rfl
  have hrow : rowText (rt.atTime t₁) r = rowText (rt.atTime t₂) r := by
    funext row
    rw [rowText, hcontext]
    rfl
  rw [resultTexts, resultTexts, hzero, hrow]

/-- Lists of texts the hash tells apart are hashed to the same ids only if they
    are the same. -/
theorem map_idOfText_inj {texts us vs : List String} (hapart : TellsApart rt texts)
    (hus : us ⊆ texts) (hvs : vs ⊆ texts) (h : us.map (idOfText rt) = vs.map (idOfText rt)) :
    us = vs := by
  induction us generalizing vs with
  | nil => exact (List.map_eq_nil_iff.mp h.symm).symm
  | cons u us ih =>
      cases vs with
      | nil => cases h
      | cons v vs =>
          rw [List.map_cons, List.map_cons, List.cons_eq_cons] at h
          rw [List.cons_subset] at hus hvs
          rw [idOfText, idOfText, String.append_right_inj] at h
          rw [hapart u hus.1 v hvs.1 h.1, ih hus.2 hvs.2 h.2]

variable (rt) in
/-- Different rows have different marks exactly if their pieces have different
    ids. -/
theorem apart_iff {evs : List Evidence} (hids : evs.map Evidence.evidenceId =
      (resultTexts rt r).map (idOfText rt))
    (hapart : TellsApart rt (resultTexts rt r)) :
    (∀ (i j : Nat) (row row' : Dict), r.rows[i]? = some row → r.rows[j]? = some row' →
        row ≠ row' → (evs.map Evidence.evidenceId)[i]? ≠ (evs.map Evidence.evidenceId)[j]?) ↔
      ∀ row ∈ r.rows, ∀ row' ∈ r.rows, row ≠ row' →
        rowImprint rt r (dbContext rt r).asOf row ≠ rowImprint rt r (dbContext rt r).asOf row' := by
  have hat : ∀ {i : Nat} {row : Dict}, r.rows[i]? = some row →
      (evs.map Evidence.evidenceId)[i]? = some (idOfText rt (rowText rt r row)) ∧
        rowText rt r row ∈ resultTexts rt r := by
    intro i row hi
    have hmem := List.mem_of_getElem? hi
    have hne : r.rows ≠ [] := List.ne_nil_of_mem hmem
    have htexts : resultTexts rt r = r.rows.map (rowText rt r) := if_neg hne
    rw [hids, htexts, List.map_map, List.getElem?_map, hi]
    exact ⟨rfl, List.mem_map_of_mem hmem⟩
  constructor
  · intro h row hrow row' hrow' hne hmark
    rcases List.mem_iff_getElem?.mp hrow with ⟨i, hi⟩
    rcases List.mem_iff_getElem?.mp hrow' with ⟨j, hj⟩
    refine h i j row row' hi hj hne ?_
    rw [(hat hi).1, (hat hj).1, rowText_inj.mpr hmark]
  · intro h i j row row' hi hj hne hid
    rw [(hat hi).1, (hat hj).1, Option.some.injEq, idOfText, idOfText,
      String.append_right_inj] at hid
    have htext := hapart _ (hat hi).2 _ (hat hj).2 hid
    exact h row (List.mem_of_getElem? hi) row' (List.mem_of_getElem? hj) hne
      (rowText_inj.mp htext)

variable (rt) in
/-- Where different rows get different ids, fusion keeps a piece of each row. -/
theorem kept_of_apart {evs : List Evidence} (hrows : r.rows ≠ [] →
      evs.map Evidence.structuredData = r.rows)
    (hids : evs.map Evidence.evidenceId = (resultTexts rt r).map (idOfText rt))
    (h : ∀ (i j : Nat) (row row' : Dict), r.rows[i]? = some row → r.rows[j]? = some row' →
      row ≠ row' → (evs.map Evidence.evidenceId)[i]? ≠ (evs.map Evidence.evidenceId)[j]?)
    {maxCount : Nat} (tokenBudget : Int) (hcount : evs.length ≤ maxCount) {row : Dict}
    (hrow : row ∈ r.rows) :
    ∃ ev ∈ (fuseEvidences evs maxCount tokenBudget).fused, ev.structuredData = row := by
  have hdata := hrows (List.ne_nil_of_mem hrow)
  rw [← hdata] at h hrow
  rcases List.mem_map.mp hrow with ⟨ev, hev, rfl⟩
  have hid : ev.evidenceId ≠ "" := by
    have hmem : ev.evidenceId ∈ (resultTexts rt r).map (idOfText rt) :=
      hids ▸ List.mem_map_of_mem hev
    rcases List.mem_map.mp hmem with ⟨text, -, htext⟩
    rw [← htext]
    exact idOfText_ne_empty rt text
  rcases exists_mem_fused hcount hev hid with ⟨kept, hkept, hkid⟩
  refine ⟨kept, hkept, ?_⟩
  -- A piece of the same id is the piece of the same row.
  by_contra hne
  rcases List.mem_iff_getElem?.mp hev with ⟨i, hi⟩
  rcases List.mem_iff_getElem?.mp (mem_fused hkept).1 with ⟨j, hj⟩
  refine h j i kept.structuredData ev.structuredData ?_ ?_ hne ?_
  · rw [List.getElem?_map, hj]
    rfl
  · rw [List.getElem?_map, hi]
    rfl
  · rw [List.getElem?_map, List.getElem?_map, hi, hj, Option.map_some, Option.map_some, hkid]

/-- What a result that can be read gets as ids. -/
theorem idsAt_of_readable (hread : RowsReadable rt r) (t : String) :
    idsAt rt tenantId query (some r) t = .ok ((textsAt rt (some r) t).map (idOfText rt)) := by
  rcases normalizeDbEvidence_eq_ok (rt.atTime t) tenantId query hread with ⟨evs, hevs, hids, -⟩
  rw [idsAt, hevs]
  exact congrArg Except.ok hids

theorem asOf_getD_eq_iff :
    r.asOf.getD t₁ = r.asOf.getD t₂ ↔ r.asOf.isSome = true ∨ t₁ = t₂ := by
  cases r.asOf with
  | none => exact (or_iff_right Bool.false_ne_true).symm
  | some t => exact iff_of_true rfl (.inl rfl)

/-- The ids are the same at two times just when the time of the data is. -/
theorem stable_iff (hread : RowsReadable rt r)
    (hapart : TellsApart rt (textsAt rt (some r) t₁ ++ textsAt rt (some r) t₂)) :
    idsAt rt tenantId query (some r) t₁ = idsAt rt tenantId query (some r) t₂ ↔
      r.asOf.isSome = true ∨ t₁ = t₂ := by
  rw [idsAt_of_readable hread, idsAt_of_readable hread, ← asOf_getD_eq_iff]
  constructor
  -- The same ids come of the same texts, and these of the same time.
  · intro h
    exact asOf_of_resultTexts (map_idOfText_inj hapart (List.subset_append_left _ _)
      (List.subset_append_right _ _) (Except.ok.inj h))
  · intro h
    have htexts : textsAt rt (some r) t₁ = textsAt rt (some r) t₂ := resultTexts_of_asOf h
    rw [htexts]

/-- What the ids of a result that can be read stand for. -/
theorem idsFaithful_of_readable (hread : RowsReadable rt r)
    (hapart : TellsApart rt (textsAt rt (some r) t₁ ++ textsAt rt (some r) t₂)) :
    IdsFaithful rt tenantId query (some r) t₁ t₂ ↔ Distinguishes rt t₁ t₂ r := by
  rcases normalizeDbEvidence_eq_ok (rt.atTime t₁) tenantId query hread with
    ⟨evs₁, hevs₁, hids₁, hdata⟩
  have hmarks := apart_iff (rt.atTime t₁) hids₁
    (fun a ha b hb => hapart a (List.mem_append_left _ ha) b (List.mem_append_left _ hb))
  constructor
  · intro h
    exact ⟨(stable_iff hread hapart).mp h.stable, hmarks.mp (h.apart r evs₁ rfl hevs₁)⟩
  · rintro ⟨htime, hdistinct⟩
    have hsep := hmarks.mpr hdistinct
    refine ⟨(stable_iff hread hapart).mpr htime, ?_, ?_⟩
    · intro r' evs hr' hevs
      cases hr'
      rw [hevs₁] at hevs
      cases hevs
      exact hsep
    · intro r' evs hr' hevs maxCount tokenBudget hcount row hrow
      cases hr'
      rw [hevs₁] at hevs
      cases hevs
      exact kept_of_apart (rt.atTime t₁) hdata hids₁ hsep tokenBudget hcount hrow

/-- Rows that cannot be read raise at any time, and have no ids. -/
theorem idsFaithful_of_unreadable (hread : ¬ RowsReadable rt r) :
    IdsFaithful rt tenantId query (some r) t₁ t₂ := by
  have hraise : ∀ t, normalizeDbEvidence (rt.atTime t) tenantId query (some r) =
      .error .indexError :=
    fun t => normalizeDbEvidence_eq_error (rt.atTime t) hread
  refine ⟨?_, ?_, ?_⟩
  · rw [idsAt, idsAt, hraise, hraise]
  · intro r' evs _ hevs
    rw [hraise] at hevs
    cases hevs
  · intro r' evs _ hevs
    rw [hraise] at hevs
    cases hevs

/-- The ids of a result stand for its rows at any two times exactly if the
    result says what time its data are of, or the clock reads the same, and no
    two different rows have the same key and the same opening. A result that
    cannot be read has no ids. -/
theorem idsFaithful_iff (rt : Runtime) (tenantId query : String) (dbResult : Option DbResult)
    (t₁ t₂ : String)
    (hapart : TellsApart rt (textsAt rt dbResult t₁ ++ textsAt rt dbResult t₂)) :
    IdsFaithful rt tenantId query dbResult t₁ t₂ ↔
      ∀ r, dbResult = some r → RowsReadable rt r → Distinguishes rt t₁ t₂ r := by
  cases dbResult with
  | none =>
      refine iff_of_true ⟨rfl, ?_, ?_⟩ (fun r hr => by cases hr)
      · intro r evs hr
        cases hr
      · intro r evs hr
        cases hr
  | some r =>
      by_cases hread : RowsReadable rt r
      · rw [idsFaithful_of_readable hread hapart]
        constructor
        · intro h r' hr' _
          cases hr'
          exact h
        · exact fun h => h r rfl hread
      · refine iff_of_true (idsFaithful_of_unreadable hread) (fun r' hr' hread' => ?_)
        cases hr'
        exact absurd hread' hread

end Faithful

section Samples

/-- A hash that gives a text from where the results at hand begin to differ. -/
def openingRuntime : Runtime :=
  { (default : Runtime) with sha256 := fun text => String.ofList (text.toList.drop 22) }

/-- A result without rows that does not say what time its data are of. -/
def undated : DbResult := {}

/-- Two rows with keys of their own. -/
def orders : DbResult :=
  { rows := [[("id", .int 1)], [("id", .int 2)]], asOf := some "2026" }

theorem idsFaithful_iff_orders :
    IdsFaithful openingRuntime "" "" (some orders) "t1" "t2" ↔
      ∀ r, some orders = some r → RowsReadable openingRuntime r →
        Distinguishes openingRuntime "t1" "t2" r :=
  idsFaithful_iff openingRuntime "" "" (some orders) "t1" "t2" (by decide +kernel)

/-- A row whose text goes on after its opening. -/
def noteRow (ending : String) : Dict :=
  [("name", .str "a"), ("note", .str (String.ofList (List.replicate 200 '一') ++ ending))]

/-- Two rows that differ after their opening. -/
def notes : DbResult :=
  { rows := [noteRow "甲", noteRow "乙"], asOf := some "2026" }

theorem flatMap_jsonChar_replicate (n : Nat) :
    (List.replicate n '一').flatMap jsonChar = List.replicate n '一' := by
  induction n with
  | zero => rfl
  | succ n ih =>
      rw [List.replicate_succ, List.flatMap_cons, ih]
      rfl

theorem take_noteRow (ending : String) :
    take (Val.dict (noteRow ending)).dumps 200 =
      String.ofList ("\x7b\"name\": \"a\", \"note\": \"".toList ++ List.replicate 177 '一') := by
  have htext : (Val.dict (noteRow ending)).dumps.toList =
      "\x7b\"name\": \"a\", \"note\": \"".toList ++ (List.replicate 200 '一' ++
        (ending.toList.flatMap jsonChar ++ "\"\x7d".toList)) := by
    simp only [noteRow, Val.dumps, Val.dumpsDict, join, jsonStr, String.toList_append,
      String.toList_ofList, List.flatMap_append, flatMap_jsonChar_replicate, List.append_assoc]
    rfl
  have hlength : "\x7b\"name\": \"a\", \"note\": \"".toList.length = 23 := by decide
  rw [take, htext, List.take_append, hlength, List.take_of_length_le (by rw [hlength]; decide),
    List.take_append_of_le_length (by rw [List.length_replicate]; decide), List.take_replicate]
  rfl

/-- What is hashed of such a row does not show how it ends. -/
theorem rowImprint_noteRow (asOf ending : String) :
    rowImprint openingRuntime notes asOf (noteRow ending) =
      "name=a" ++ ("?as_of=" ++ (asOf ++ ("|" ++ String.ofList
        ("\x7b\"name\": \"a\", \"note\": \"".toList ++ List.replicate 177 '一')))) := by
  have hagg : isAggregate openingRuntime notes.sql = false := by decide +kernel
  rw [rowImprint, take_noteRow, rowKeyOf, hagg, if_neg (fun h => Bool.false_ne_true h.1)]
  rfl

theorem notes_tellsApart (t t' : String) :
    TellsApart openingRuntime
      (textsAt openingRuntime (some notes) t ++ textsAt openingRuntime (some notes) t') := by
  have htexts : ∀ t, textsAt openingRuntime (some notes) t =
      [rowText openingRuntime notes (noteRow "甲"), rowText openingRuntime notes (noteRow "甲")] := by
    intro t
    have hsame : rowText openingRuntime notes (noteRow "乙") =
        rowText openingRuntime notes (noteRow "甲") := by
      rw [rowText_inj, rowImprint_noteRow, rowImprint_noteRow]
    calc textsAt openingRuntime (some notes) t
        = [rowText openingRuntime notes (noteRow "甲"),
            rowText openingRuntime notes (noteRow "乙")] := rfl
      _ = _ := by rw [hsame]
  rw [htexts, htexts]
  intro a ha b hb _
  simp only [List.cons_append, List.nil_append, List.mem_cons, List.not_mem_nil, or_false,
    or_self] at ha hb
  rw [ha, hb]

theorem noteRow_ne : noteRow "甲" ≠ noteRow "乙" := by
  intro h
  have hnote := (List.cons_eq_cons.mp (List.cons_eq_cons.mp h).2).1
  have htext := Val.str.inj (Prod.mk.inj hnote).2
  rw [String.append_right_inj] at htext
  revert htext
  decide

/-- Normalised at two times, a result that does not say what time its data are
    of has two ids. Two rows with the same key whose texts differ after the
    opening have one, although nothing that is hashed is hashed alike. -/
theorem ids_not_faithful :
    (TellsApart openingRuntime
        (textsAt openingRuntime (some undated) "t1" ++ textsAt openingRuntime (some undated) "t2") ∧
      idsAt openingRuntime "" "" (some undated) "t1" ≠
        idsAt openingRuntime "" "" (some undated) "t2" ∧
      ¬ IdsFaithful openingRuntime "" "" (some undated) "t1" "t2") ∧
    TellsApart openingRuntime
        (textsAt openingRuntime (some notes) "t1" ++ textsAt openingRuntime (some notes) "t1") ∧
      noteRow "甲" ≠ noteRow "乙" ∧
      ¬ IdsFaithful openingRuntime "" "" (some notes) "t1" "t1" := by
  have htimes : idsAt openingRuntime "" "" (some undated) "t1" ≠
      idsAt openingRuntime "" "" (some undated) "t2" := by
    intro h
    have hids : ["ev_as_of=t1&zero_ro"] = ["ev_as_of=t2&zero_ro"] := Except.ok.inj h
    revert hids
    decide
  refine ⟨⟨by decide +kernel, htimes, fun h => htimes h.stable⟩, notes_tellsApart _ _, noteRow_ne,
    fun h => ?_⟩
  have hread : RowsReadable openingRuntime notes :=
    .inl (fun heq => List.cons_ne_nil _ _ (Option.some.inj heq))
  rcases normalizeDbEvidence_eq_ok (openingRuntime.atTime "t1") "" "" hread with
    ⟨evs, hevs, hids, -⟩
  have htells : TellsApart openingRuntime (resultTexts (openingRuntime.atTime "t1") notes) :=
    fun a ha b hb => notes_tellsApart "t1" "t1" a (List.mem_append_left _ ha) b
      (List.mem_append_left _ hb)
  refine (apart_iff _ hids htells).mp (h.apart notes evs rfl hevs) (noteRow "甲") List.mem_cons_self
    (noteRow "乙") (List.mem_cons_of_mem _ List.mem_cons_self) noteRow_ne ?_
  exact (rowImprint_noteRow _ _).trans (rowImprint_noteRow _ _).symm

end Samples

end AgenticRag
