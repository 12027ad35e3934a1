import AgenticRag.Core.ReportExecutor

/-!
# The Evidence of a Report Step

The evidence a report is written from: the evidence of the state, and one piece for
each document and each database result of the steps before that were successful. A
piece is referred to by its identifier, so no two should share one.

The pieces made of documents are numbered as they are collected, database results
among them, and so are told apart however many steps there are. Those made of
database results are not numbered: all of them are the database result of the one
report step. Two steps that query a database are enough for a reference that stands
for two sources (`identifies_iff`).

## Main definitions

* `Source`, `sourcesOf`: What a step has found.
* `Identifies`: What the evidence should be.

## Theorems

* `numbered_collectEvidence`: What all of them add up to.
* `nodup_ids_iff`: When the pieces are told apart.
* `identifies_iff`: When the evidence is what it should be.
-/

namespace AgenticRag

namespace Report

open Py Plan

/-- What evidence is made of: a document, or the rows of a database. -/
inductive Source where
  | doc (doc : Dict)
  | rows (db : Dict)

/-- The source is rows. -/
def Source.isRows : Source → Bool
  | .doc _ => false
  | .rows _ => true

/-- What a step has found, if it was successful. -/
def sourcesOf (result : ToolResult) : List Source :=
  if (pyGet result "success" (.bool false)).truthy then
    ((ragDocs result).toOption.getD []).map .doc ++
      (if (pyGet (getDict result "db_result") "rows" .none).truthy then
        [.rows (getDict result "db_result")]
      else [])
  else []

/-- What earlier steps found. -/
def sources (previous : Results) : List Source := previous.flatMap (fun r => sourcesOf r.2)

/-- The evidence is made of the source. -/
def Describes : Source → Dict → Prop
  | .doc doc, item =>
      item.lookup "source_type" = some (.str "rag") ∧
        item.lookup "title" = some (pyGet doc "title" (.str "")) ∧
        item.lookup "content" = some (pyGet doc "content" (.str ""))
  | .rows db, item =>
      item.lookup "source_type" = some (.str "db") ∧
        item.lookup "content" = some (pyGet db "formatted_result" (.str ""))

/-- The identifier of the evidence made of a source, in its place. -/
def idAt (stepId : String) (n : Nat) : Source → String
  | .doc _ => "ev_" ++ stepId ++ "_" ++ toString n
  | .rows _ => "ev_" ++ stepId ++ "_db"

/-- The evidence is made of the sources, one piece of each, and numbered on. -/
def Numbered (stepId : String) (n : Nat) (found : List Source) (items : List Dict) : Prop :=
  List.Forall₂ (fun p item => Describes p.1 item ∧
    item.lookup "evidence_id" = some (.str (idAt stepId p.2 p.1))) (found.zipIdx n) items

/-- The identifier of a piece of evidence. -/
def evidenceId : Val → Option Val
  | .dict item => item.lookup "evidence_id"
  | _ => none

/-- Behind the evidence of the state there is one piece for each source, and no two
    pieces share their identifier. -/
structure Identifies (items : List Val) (found : List Source) (evidence : List Val) : Prop where
  made : ∃ collected : List Dict, evidence = items ++ collected.map .dict ∧
    List.Forall₂ Describes found collected
  distinct : (evidence.map evidenceId).Nodup

variable {u : Unicode} {stepId : String} {state : Dict}

section Collected

theorem numbered_length {n : Nat} {found : List Source} {items : List Dict}
    (h : Numbered stepId n found items) : items.length = found.length := by
  rw [← List.Forall₂.length_eq h, List.length_zipIdx]

theorem describes_of_numbered {n : Nat} {found : List Source} {items : List Dict}
    (h : Numbered stepId n found items) : List.Forall₂ Describes found items := by
  have hfirst : List.Forall₂ (fun p item => Describes p.1 item) (found.zipIdx n) items :=
    h.imp (fun _ _ hitem => hitem.1)
  rw [← List.forall₂_map_left_iff, List.zipIdx_map_fst] at hfirst
  exact hfirst

theorem numbered_append {n : Nat} {found found' : List Source} {items items' : List Dict}
    (h : Numbered stepId n found items) (h' : Numbered stepId (n + found.length) found' items') :
    Numbered stepId n (found ++ found') (items ++ items') := by
  unfold Numbered at *
  rw [List.zipIdx_append]
  exact List.rel_append h h'

theorem numbered_docs (docs : List Dict) (collected : List Dict) :
    ∃ new, docs.foldl (fun collected doc =>
        collected ++ [ragEvidence u stepId state collected.length doc]) collected =
          collected ++ new ∧
      Numbered stepId collected.length (docs.map .doc) new := by
  -- The number of a document is how many pieces there are before it.
  induction docs generalizing collected with
  | nil => exact ⟨[], (List.append_nil _).symm, .nil⟩
  | cons doc docs ih =>
      rcases ih (collected ++ [ragEvidence u stepId state collected.length doc]) with
        ⟨new, heq, hnew⟩
      rw [List.length_append, List.length_singleton] at hnew
      refine ⟨ragEvidence u stepId state collected.length doc :: new, ?_,
        .cons ⟨⟨rfl, rfl, rfl⟩, rfl⟩ hnew⟩
      rw [List.foldl_cons, heq, List.append_assoc]
      rfl

theorem numbered_dbEvidence {result db item : Dict} (n : Nat)
    (h : dbEvidence u stepId state result db = .ok item) :
    Numbered stepId n [.rows db] [item] := by
  rcases exists_of_bind_ok h with ⟨table, -, hitem⟩
  cases hitem
  exact .cons ⟨⟨rfl, rfl⟩, rfl⟩ .nil

theorem getDict_of_asMapping {result db : Dict} {key : String}
    (h : asMapping (pyGet result key (.dict [])) = .ok db) : getDict result key = db := by
  rw [pyGet] at h
  unfold getDict
  cases hlookup : result.lookup key with
  | none =>
      rw [hlookup] at h
      cases h
      rfl
  | some v =>
      rw [hlookup] at h
      cases v <;> cases h
      rfl

/-- One more result adds the evidence of what it has found. -/
theorem numbered_collectResult {collected after : List Dict} {result : ToolResult}
    (h : collectResult u stepId state collected result = .ok after) :
    ∃ new, after = collected ++ new ∧
      Numbered stepId collected.length (sourcesOf result) new := by
  unfold collectResult at h
  unfold sourcesOf
  by_cases hsuccess : (pyGet result "success" (.bool false)).truthy = true
  · rw [if_pos hsuccess] at h ⊢
    rcases exists_of_bind_ok h with ⟨docs, hdocs, h⟩
    -- First the documents, then the database result.
    rcases @numbered_docs u stepId state docs collected with ⟨new, hnew, hnumbered⟩
    rcases exists_of_bind_ok h with ⟨db, hdb, h⟩
    rw [hdocs, getDict_of_asMapping hdb]
    rw [hnew] at h
    by_cases hrows : (pyGet db "rows" .none).truthy = true
    · rw [if_pos hrows] at h ⊢
      rcases exists_of_bind_ok h with ⟨item, hitem, h⟩
      cases h
      exact ⟨new ++ [item], List.append_assoc _ _ _,
        numbered_append hnumbered (numbered_dbEvidence _ hitem)⟩
    · rw [if_neg hrows] at h ⊢
      cases h
      exact ⟨new, rfl, by rw [List.append_nil]; exact hnumbered⟩
  · rw [if_neg hsuccess] at h ⊢
    cases h
    exact ⟨[], (List.append_nil _).symm, .nil⟩

theorem numbered_foldlM {collected after : List Dict} {previous : Results}
    (h : previous.foldlM (fun collected r => collectResult u stepId state collected r.2) collected =
      .ok after) :
    ∃ new, after = collected ++ new ∧
      Numbered stepId collected.length (sources previous) new := by
  induction previous generalizing collected with
  | nil =>
      cases h
      exact ⟨[], (List.append_nil _).symm, .nil⟩
  | cons r previous ih =>
      rw [List.foldlM_cons] at h
      -- Each result is numbered on from where the last one ended.
      rcases exists_of_bind_ok h with ⟨between, hbetween, h⟩
      rcases numbered_collectResult hbetween with ⟨new, rfl, hnew⟩
      rcases ih h with ⟨rest, rfl, hrest⟩
      rw [List.length_append, numbered_length hnew] at hrest
      exact ⟨new ++ rest, List.append_assoc _ _ _, numbered_append hnew hrest⟩

/-- The evidence of all results is numbered from the first to the last. -/
theorem numbered_collectEvidence {previous : Results} {collected : List Dict}
    (h : collectEvidence u stepId state previous = .ok collected) :
    Numbered stepId 0 (sources previous) collected := by
  rcases numbered_foldlM h with ⟨new, rfl, hnew⟩
  exact hnew

end Collected

section Distinct

theorem toString_nat_inj {m n : Nat} (h : toString m = toString n) : m = n := by
  have hdigits : Nat.toDigits 10 m = Nat.toDigits 10 n := String.ofList_injective h
  rw [← Nat.ofDigitChars_ten_toDigits (n := m), hdigits, Nat.ofDigitChars_ten_toDigits]

/-- A number is not the mark of a database result. -/
theorem toString_nat_ne_db (n : Nat) : toString n ≠ "db" := by
  intro h
  have hdigits : Nat.toDigits 10 n = ['d', 'b'] := String.ofList_injective h
  have hd : ('d').isDigit = true :=
    Nat.isDigit_of_mem_toDigits (b := 10) (n := n) (by decide) (by decide) (by simp [hdigits])
  cases hd

theorem idAt_doc_ne {n : Nat} {doc : Dict} {p : Source × Nat} (hlt : n < p.2) :
    idAt stepId n (.doc doc) ≠ idAt stepId p.2 p.1 := by
  rcases p with ⟨src, m⟩
  intro h
  cases src with
  | doc _ => exact absurd (toString_nat_inj ((String.append_right_inj _).mp h)) (Nat.ne_of_lt hlt)
  | rows _ =>
      rw [idAt, idAt, show ("_db" : String) = "_" ++ "db" from rfl, ← String.append_assoc] at h
      exact toString_nat_ne_db n ((String.append_right_inj _).mp h)

theorem idAt_rows_eq_iff {n : Nat} {db : Dict} {p : Source × Nat} :
    idAt stepId p.2 p.1 = idAt stepId n (.rows db) ↔ p.1.isRows = true := by
  rcases p with ⟨src, m⟩
  -- The identifier of rows has no number in it.
  cases src with
  | doc doc =>
      refine iff_of_false (fun h => ?_) Bool.false_ne_true
      rw [idAt, idAt, show ("_db" : String) = "_" ++ "db" from rfl, ← String.append_assoc] at h
      exact toString_nat_ne_db m ((String.append_right_inj _).mp h)
  | rows _ => exact iff_of_true rfl rfl

/-- The identifiers of the evidence of some sources. -/
def idsFrom (stepId : String) (n : Nat) (found : List Source) : List String :=
  (found.zipIdx n).map (fun p => idAt stepId p.2 p.1)

theorem idsFrom_cons (n : Nat) (src : Source) (found : List Source) :
    idsFrom stepId n (src :: found) = idAt stepId n src :: idsFrom stepId (n + 1) found := by
  rw [idsFrom, List.zipIdx_cons, List.map_cons]
  rfl

/-- The pieces are told apart exactly if at most one is made of database rows. -/
theorem nodup_ids_iff (n : Nat) (found : List Source) :
    (idsFrom stepId n found).Nodup ↔ found.countP Source.isRows ≤ 1 := by
  induction found generalizing n with
  | nil => simp [idsFrom]
  | cons src found ih =>
      rw [idsFrom_cons, List.nodup_cons, ih]
      -- A number comes once; the mark of rows comes as often as there are rows.
      cases src with
      | doc doc =>
          rw [List.countP_cons_of_neg Bool.false_ne_true]
          refine and_iff_right (fun hmem => ?_)
          rcases List.mem_map.mp hmem with ⟨p, hp, heq⟩
          exact idAt_doc_ne (List.le_snd_of_mem_zipIdx hp) heq.symm
      | rows db =>
          have hmem : idAt stepId n (.rows db) ∈ idsFrom stepId (n + 1) found ↔
              0 < found.countP Source.isRows := by
            rw [List.countP_pos_iff, idsFrom, List.mem_map]
            constructor
            · rintro ⟨p, hp, heq⟩
              exact ⟨p.1, List.fst_mem_of_mem_zipIdx hp, idAt_rows_eq_iff.mp heq⟩
            · rintro ⟨other, hother, hrows⟩
              rcases List.mem_iff_getElem?.mp hother with ⟨i, hi⟩
              exact ⟨(other, n + 1 + i), List.mk_add_mem_zipIdx_iff_getElem?.mpr hi,
                idAt_rows_eq_iff.mpr hrows⟩
          rw [List.countP_cons_of_pos rfl, hmem]
          omega

theorem map_evidenceId {n : Nat} {found : List Source} {collected : List Dict}
    (h : Numbered stepId n found collected) :
    (collected.map Val.dict).map evidenceId =
      (idsFrom stepId n found).map (fun id => some (.str id)) := by
  rw [List.map_map, idsFrom, List.map_map]
  unfold Numbered at h
  generalize found.zipIdx n = places at h ⊢
  induction h with
  | nil => rfl
  | cons hitem _ ih =>
      rw [List.map_cons, List.map_cons, ih]
      exact congrArg (· :: _) hitem.2

end Distinct

section Handed

/-- The evidence the report tool is handed is what it should be exactly if no more
    than one of the results before has database rows, and the evidence of the state
    has none of the identifiers that are given out. -/
theorem identifies_iff {s : PlanStep} {previous : Results} {input : Dict} {items : List Val}
    (h : reportInput u s state previous = .ok input) (hstate : stateEvidence state = .list items)
    (hdistinct : (items.map evidenceId).Nodup) :
    Identifies items (sources previous) (getList input "evidence") ↔
      (sources previous).countP Source.isRows ≤ 1 ∧
        ∀ item ∈ items, ∀ id ∈ idsFrom s.stepId 0 (sources previous),
          evidenceId item ≠ some (.str id) := by
  rcases exists_of_bind_ok h with ⟨evidence, hevidence, hinput⟩
  rcases exists_of_bind_ok hevidence with ⟨collected, hcollected, hevidence⟩
  rw [hstate] at hevidence
  cases hevidence
  cases hinput
  have hnumbered := numbered_collectEvidence hcollected
  have hids := map_evidenceId hnumbered
  have hgiven : ∀ {id : Option Val}, id ∈ (collected.map Val.dict).map evidenceId ↔
      ∃ name ∈ idsFrom s.stepId 0 (sources previous), some (.str name) = id := by
    intro id
    rw [hids, List.mem_map]
  have hcollectedNodup : ((collected.map Val.dict).map evidenceId).Nodup ↔
      (sources previous).countP Source.isRows ≤ 1 := by
    rw [hids, List.nodup_map_iff (fun _ _ heq => Val.str.inj (Option.some.inj heq)), nodup_ids_iff]
  have hnodup : ((items ++ collected.map Val.dict).map evidenceId).Nodup ↔
      (sources previous).countP Source.isRows ≤ 1 ∧
        ∀ item ∈ items, ∀ id ∈ idsFrom s.stepId 0 (sources previous),
          evidenceId item ≠ some (.str id) := by
    rw [List.map_append, List.nodup_append, hcollectedNodup]
    refine ⟨fun h => ⟨h.2.1, fun item hitem id hid heq => ?_⟩, fun h => ⟨hdistinct, h.1, ?_⟩⟩
    · exact h.2.2 _ (List.mem_map_of_mem hitem) _ (hgiven.mpr ⟨id, hid, rfl⟩) heq
    · intro x hx y hy heq
      rcases List.mem_map.mp hx with ⟨item, hitem, rfl⟩
      rcases hgiven.mp hy with ⟨id, hid, rfl⟩
      exact h.2 item hitem id hid heq
  -- That each source has its piece holds in any case.
  refine ⟨fun h => hnodup.mp h.distinct, fun h => ⟨⟨collected, rfl, ?_⟩, hnodup.mpr h⟩⟩
  exact describes_of_numbered hnumbered

/-- A step that writes a report from one piece of evidence and what was found
    before. -/
def reportStep : PlanStep where
  stepId := "s3"
  tool := .report

/-- A state with a piece of evidence. -/
def reportState : Dict :=
  [("evidence", .list [.dict [("evidence_id", .str "ev_a")]]), ("user_question", .str "销售报告")]

/-- A step that found a document. -/
def ragResult : ToolResult :=
  [("success", .bool true),
    ("rag_docs", .list [.dict [("title", .str "年报"), ("content", .str "增长")]])]

/-- A step that found a row. -/
def dbResult (amount : Int) : ToolResult :=
  [("success", .bool true),
    ("db_result", .dict [("rows", .list [.dict [("amount", .int amount)]]), ("row_count", .int 1)])]

theorem identifies_iff_report :
    ∃ input, reportInput default reportStep reportState [("s1", ragResult), ("s2", dbResult 3)] =
        .ok input ∧
      (Identifies [.dict [("evidence_id", .str "ev_a")]]
          (sources [("s1", ragResult), ("s2", dbResult 3)]) (getList input "evidence") ↔
        (sources [("s1", ragResult), ("s2", dbResult 3)]).countP Source.isRows ≤ 1 ∧
          ∀ item ∈ [Val.dict [("evidence_id", .str "ev_a")]],
            ∀ id ∈ idsFrom reportStep.stepId 0 (sources [("s1", ragResult), ("s2", dbResult 3)]),
              evidenceId item ≠ some (.str id)) :=
  ⟨_, rfl, @identifies_iff default reportState _ _ _ _ rfl rfl (List.nodup_singleton _)⟩

/-- After two steps that query a database one identifier stands for both results. -/
theorem not_identifies_two_databases :
    ∃ input, reportInput default reportStep reportState [("s1", dbResult 3), ("s2", dbResult 4)] =
        .ok input ∧
      ¬ Identifies [.dict [("evidence_id", .str "ev_a")]]
        (sources [("s1", dbResult 3), ("s2", dbResult 4)]) (getList input "evidence") := by
  refine ⟨_, rfl, fun h => ?_⟩
  have hdistinct : [some (Val.str "ev_a"), some (.str "ev_s3_db"), some (.str "ev_s3_db")].Nodup :=
    h.distinct
  simp at hdistinct

end Handed

end Report

end AgenticRag
