import AgenticRag.Core.Fusion

/-!
# What a Snapshot Id Identifies

Prompt, verifier and references name the evidence they used by the id of its
snapshot. The id is a hash of the evidence ids in sorted order, and an
evidence id is a hash of the source and the opening of the text as retrieved.
So two things are not in it: the order of the evidence, which is what the
citation numbers count, and the text beyond the opening.

What is in it is settled by `snapshotId_identifies`. Two lists with the same
id hold the same evidence ids and the same openings, up to order, and a
number under which both show the same evidence id stands for the same
opening. `snapshots_share_id` shows that no more can be said.

The hash is a parameter. What is asked of it is that a digest is sixty-four
hexadecimal digits (`HexDigest`), and that its first sixteen tell the texts
that were hashed apart (`TellsApart`).

## Main definitions

* `SourcedEvidence`: A piece of evidence with the source and the text its id
  was made from.
* `hashedTexts`: The texts hashed for two snapshots.

## Theorems

* `makeSnapshotId_perm`: The order of the evidence does not show in the id.
* `makeSnapshotId_inj`: The snapshot id gives the evidence ids back.
* `snapshotId_identifies`: What two snapshots of one id share.
-/

namespace AgenticRag

open Py Ordered

/-- A piece of evidence with the source and the text its id was made from. Its
    content is that text, cut and masked, or empty where a query found no
    rows: such a piece is filed under the text `ZERO_ROWS`. -/
structure SourcedEvidence (rt : Runtime) where
  ev : Evidence
  sourceUri : String
  contentRaw : String
  id_eq : ev.evidenceId = makeEvidenceId rt sourceUri contentRaw
  content_eq : ev.content = "" ∧ contentRaw = "ZERO_ROWS" ∨
    ev.content = scrubSensitive rt (truncateContent contentRaw 2000).1

/-- The text that is hashed into the id: the source and the opening. -/
def SourcedEvidence.hashedText {rt : Runtime} (p : SourcedEvidence rt) : String :=
  p.sourceUri ++ "|" ++ take p.contentRaw 200

section Normalizers

variable {rt : Runtime} {tenantId query : String}

theorem attachProvenanceToEvidence_evidenceId (ev : Evidence) (provenance : Dict) :
    (attachProvenanceToEvidence ev provenance).evidenceId = ev.evidenceId := by
  unfold attachProvenanceToEvidence
  split_ifs <;> rfl

theorem attachProvenanceToEvidence_content (ev : Evidence) (provenance : Dict) :
    (attachProvenanceToEvidence ev provenance).content = ev.content := by
  unfold attachProvenanceToEvidence
  split_ifs <;> rfl

theorem zeroRowsEvidence_sourced (r : DbResult) :
    ∃ p : SourcedEvidence rt, p.ev = zeroRowsEvidence rt tenantId query r := by
  unfold zeroRowsEvidence
  dsimp only
  exact ⟨⟨_, _, "ZERO_ROWS", attachProvenanceToEvidence_evidenceId _ _,
    .inl ⟨attachProvenanceToEvidence_content _ _, rfl⟩⟩, rfl⟩

theorem rowEvidence_sourced (r : DbResult) (row : Dict) (rowKey title : String) (marks : Dict) :
    ∃ p : SourcedEvidence rt, p.ev = rowEvidence rt tenantId query r row rowKey title marks := by
  unfold rowEvidence
  dsimp only
  exact ⟨⟨_, _, (Val.dict row).dumps, attachProvenanceToEvidence_evidenceId _ _,
    .inr (attachProvenanceToEvidence_content _ _)⟩, rfl⟩

/-- The evidence of a database result has a source. -/
theorem normalizeDbEvidence_sourced {dbResult : Option DbResult} {db : List Evidence}
    (h : normalizeDbEvidence rt tenantId query dbResult = .ok db) :
    ∀ ev ∈ db, ∃ p : SourcedEvidence rt, p.ev = ev := by
  intro ev hev
  rcases mem_normalizeDbEvidence h hev with ⟨r, rfl | ⟨row, rowKey, title, marks, rfl, -⟩⟩
  · exact zeroRowsEvidence_sourced r
  · exact rowEvidence_sourced r row rowKey title marks

/-- Whatever a normaliser returns has a source. -/
theorem normalizeToolResult_sourced {toolName : String} {result : ToolPayload}
    {evidences : List Evidence}
    (h : normalizeToolResult rt tenantId query toolName result = .ok evidences) :
    ∀ ev ∈ evidences, ∃ p : SourcedEvidence rt, p.ev = ev := by
  intro ev hev
  unfold normalizeToolResult at h
  split at h
  · cases h
    rcases List.mem_map.mp hev with ⟨doc, -, rfl⟩
    exact ⟨⟨_, _, orElse doc.content doc.text, attachProvenanceToEvidence_evidenceId _ _,
      .inr (attachProvenanceToEvidence_content _ _)⟩, rfl⟩
  · exact normalizeDbEvidence_sourced h ev hev
  · cases h
    rcases List.mem_map.mp hev with ⟨doc, -, rfl⟩
    exact ⟨⟨_, doc.url, orElse doc.content doc.snippet, rfl, .inr rfl⟩, rfl⟩
  · exact normalizeDbEvidence_sourced h ev hev
  · cases h
    rcases List.mem_map.mp hev with ⟨doc, -, rfl⟩
    exact ⟨⟨_, _, restContentRaw doc, rfl, .inr rfl⟩, rfl⟩
  · cases h
    rcases mem_normalizeGraphEvidence hev with ⟨r, rfl⟩
    exact ⟨⟨_, _, graphContentRaw rt r, rfl, .inr rfl⟩, rfl⟩
  -- A tool that is not in the map, or another tool's result, gives nothing.
  · cases h
    cases hev

end Normalizers

section Hash

variable (rt : Runtime)

/-- A digest is sixty-four hexadecimal digits. -/
def HexDigest : Prop :=
  ∀ text, (rt.sha256 text).length = 64 ∧
    ∀ c ∈ (rt.sha256 text).toList, c ∈ "0123456789abcdef".toList

/-- The first sixteen digits tell these texts apart. -/
def TellsApart (texts : List String) : Prop :=
  ∀ a ∈ texts, ∀ b ∈ texts, take (rt.sha256 a) 16 = take (rt.sha256 b) 16 → a = b

instance (texts : List String) : Decidable (TellsApart rt texts) :=
  inferInstanceAs (Decidable (∀ a ∈ texts, ∀ b ∈ texts, _ → a = b))

/-- The text that is hashed into a snapshot id. -/
def snapshotText (evidences : List Evidence) : String :=
  join "|" ((evidences.map Evidence.evidenceId).insertionSort (fun a b => a ≤ b))

/-- The texts hashed for two snapshots and the evidence in them. -/
def hashedTexts {rt : Runtime} (as bs : List (SourcedEvidence rt)) : List String :=
  snapshotText (as.map SourcedEvidence.ev) :: snapshotText (bs.map SourcedEvidence.ev) ::
    (as ++ bs).map SourcedEvidence.hashedText

variable {rt}

theorem length_take_digest (hhex : HexDigest rt) (text : String) :
    (take (rt.sha256 text) 16).length = 16 := by
  have hlength : (rt.sha256 text).toList.length = 64 := by
    rw [String.length_toList]
    exact (hhex text).1
  rw [take, String.length_ofList, List.length_take, hlength]
  rfl

/-- The separator of the snapshot text occurs in no evidence id. -/
theorem bar_not_mem_makeEvidenceId (hhex : HexDigest rt) (sourceUri content : String) :
    '|' ∉ (makeEvidenceId rt sourceUri content).toList := by
  rw [makeEvidenceId, String.toList_append, List.mem_append]
  rintro (hpre | hdigest)
  · revert hpre
    decide
  · rw [take, String.toList_ofList] at hdigest
    have hdigit := (hhex _).2 '|' (List.mem_of_mem_take hdigest)
    revert hdigit
    decide

/-- Evidence of one id has one opening. -/
theorem hashedText_of_evidenceId {texts : List String} (hapart : TellsApart rt texts)
    {p q : SourcedEvidence rt} (hp : p.hashedText ∈ texts) (hq : q.hashedText ∈ texts)
    (hid : p.ev.evidenceId = q.ev.evidenceId) : p.hashedText = q.hashedText := by
  rw [p.id_eq, q.id_eq, makeEvidenceId, makeEvidenceId, String.append_right_inj] at hid
  exact hapart _ hp _ hq hid

/-- The empty snapshot has an id of its own. -/
theorem makeSnapshotId_ne_empty (hhex : HexDigest rt) {evidences : List Evidence}
    (hne : evidences ≠ []) : makeSnapshotId rt evidences ≠ "es_empty" := by
  intro heq
  rw [makeSnapshotId, if_neg (by simpa using hne)] at heq
  have hlength := congrArg String.length heq
  rw [String.length_append, length_take_digest hhex] at hlength
  revert hlength
  decide

/-- The order of the evidence does not show in the id of a snapshot. -/
theorem makeSnapshotId_perm {as bs : List Evidence} (h : as.Perm bs) :
    makeSnapshotId rt as = makeSnapshotId rt bs := by
  have hsort : (as.map Evidence.evidenceId).insertionSort (fun a b => a ≤ b) =
      (bs.map Evidence.evidenceId).insertionSort (fun a b => a ≤ b) := by
    refine List.Perm.eq_of_pairwise' (List.pairwise_insertionSort _ _)
      (List.pairwise_insertionSort _ _) ?_
    exact ((List.perm_insertionSort _ _).trans (h.map _)).trans (List.perm_insertionSort _ _).symm
  rw [makeSnapshotId, makeSnapshotId, h.isEmpty_eq, hsort]

/-- Snapshots of one id hold the same evidence ids, up to order. -/
theorem makeSnapshotId_inj (hhex : HexDigest rt) {as bs : List (SourcedEvidence rt)}
    (hapart : TellsApart rt (hashedTexts as bs))
    (h : makeSnapshotId rt (as.map SourcedEvidence.ev) =
      makeSnapshotId rt (bs.map SourcedEvidence.ev)) :
    ((as.map SourcedEvidence.ev).map Evidence.evidenceId).Perm
      ((bs.map SourcedEvidence.ev).map Evidence.evidenceId) := by
  have hbar : ∀ ps : List (SourcedEvidence rt), ∀ id ∈
      ((ps.map SourcedEvidence.ev).map Evidence.evidenceId).insertionSort (fun a b => a ≤ b),
      '|' ∉ id.toList := by
    intro ps id hid
    rw [List.mem_insertionSort, List.map_map] at hid
    rcases List.mem_map.mp hid with ⟨p, -, rfl⟩
    rw [Function.comp_apply, p.id_eq]
    exact bar_not_mem_makeEvidenceId hhex _ _
  by_cases has : as = []
  · subst has
    by_cases hbs : bs = []
    · rw [hbs]
    · exact absurd h.symm (makeSnapshotId_ne_empty hhex (by simpa using hbs))
  by_cases hbs : bs = []
  · subst hbs
    exact absurd h (makeSnapshotId_ne_empty hhex (by simpa using has))
  -- Both are hashed, the texts are the same, and their parts come apart again.
  rw [makeSnapshotId, makeSnapshotId, if_neg (by simpa using has), if_neg (by simpa using hbs),
    String.append_right_inj] at h
  have htext : snapshotText (as.map SourcedEvidence.ev) =
      snapshotText (bs.map SourcedEvidence.ev) :=
    hapart _ List.mem_cons_self _ (List.mem_cons_of_mem _ List.mem_cons_self) h
  have hne : ∀ ps : List (SourcedEvidence rt), ps ≠ [] →
      ((ps.map SourcedEvidence.ev).map Evidence.evidenceId).insertionSort (fun a b => a ≤ b) ≠
        [] := by
    intro ps hps hnil
    have hlength := congrArg List.length hnil
    rw [List.length_insertionSort, List.length_map, List.length_map] at hlength
    exact hps (List.length_eq_zero_iff.mp hlength)
  have hsorted := join_injective rfl (hne as has) (hne bs hbs) (hbar as) (hbar bs) htext
  calc ((as.map SourcedEvidence.ev).map Evidence.evidenceId)
      |>.Perm (((as.map SourcedEvidence.ev).map Evidence.evidenceId).insertionSort
        (fun a b => a ≤ b)) := (List.perm_insertionSort _ _).symm
    _ = ((bs.map SourcedEvidence.ev).map Evidence.evidenceId).insertionSort
        (fun a b => a ≤ b) := hsorted
    List.Perm _ ((bs.map SourcedEvidence.ev).map Evidence.evidenceId) :=
        List.perm_insertionSort _ _

/-- Short texts of one source and one opening are the same. -/
theorem contentRaw_of_hashedText {p q : SourcedEvidence rt} (h : p.hashedText = q.hashedText)
    (huri : p.sourceUri = q.sourceUri) (hp : p.contentRaw.length ≤ 200)
    (hq : q.contentRaw.length ≤ 200) : p.contentRaw = q.contentRaw := by
  have htake : ∀ text : String, text.length ≤ 200 → take text 200 = text := by
    intro text hlength
    rw [take, List.take_of_length_le (by rw [String.length_toList]; exact hlength),
      String.ofList_toList]
  rw [SourcedEvidence.hashedText, SourcedEvidence.hashedText, huri, String.append_right_inj,
    htake _ hp, htake _ hq] at h
  exact h

end Hash

/-- Two lists of evidence with one snapshot id hold the same evidence ids and
    the same openings, up to order. Where a number shows the same evidence id
    in both, it stands for the same opening, and for the same content when the
    texts of the source are no longer than the opening and not the mark of a
    query without rows. -/
theorem snapshotId_identifies (rt : Runtime) (hhex : HexDigest rt)
    (as bs : List (SourcedEvidence rt)) (hapart : TellsApart rt (hashedTexts as bs))
    (toolRunId toolRunId' : String) (attemptId attemptId' : Int)
    (h : (EvidenceSnapshot.build rt (as.map SourcedEvidence.ev) toolRunId attemptId).snapshotId =
      (EvidenceSnapshot.build rt (bs.map SourcedEvidence.ev) toolRunId' attemptId').snapshotId) :
    ((as.map SourcedEvidence.ev).map Evidence.evidenceId).Perm
        ((bs.map SourcedEvidence.ev).map Evidence.evidenceId) ∧
      (as.map SourcedEvidence.hashedText).Perm (bs.map SourcedEvidence.hashedText) ∧
      ∀ n, ∀ p ∈ as, ∀ q ∈ bs,
        (EvidenceSnapshot.build rt (as.map SourcedEvidence.ev) toolRunId
          attemptId).getEvidenceByIndex n = some p.ev →
        (EvidenceSnapshot.build rt (bs.map SourcedEvidence.ev) toolRunId'
          attemptId').getEvidenceByIndex n = some q.ev →
        p.ev.evidenceId = q.ev.evidenceId →
        p.hashedText = q.hashedText ∧
          (p.sourceUri = q.sourceUri → p.contentRaw.length ≤ 200 → q.contentRaw.length ≤ 200 →
            p.contentRaw ≠ "ZERO_ROWS" → p.ev.content = q.ev.content) := by
  have hids := makeSnapshotId_inj hhex hapart h
  have hmem : ∀ p ∈ as ++ bs, p.hashedText ∈ hashedTexts as bs := fun p hp =>
    List.mem_cons_of_mem _ (List.mem_cons_of_mem _ (List.mem_map_of_mem hp))
  refine ⟨hids, ?_, ?_⟩
  -- The evidence id determines what was hashed into it.
  · rw [List.map_map, List.map_map] at hids
    exact perm_map_of_determined
      (fun p hp q hq hid => hashedText_of_evidenceId hapart (hmem p hp) (hmem q hq) hid) hids
  · intro n p hp q hq _ _ hid
    have htext := hashedText_of_evidenceId hapart (hmem p (List.mem_append_left bs hp))
      (hmem q (List.mem_append_right as hq)) hid
    refine ⟨htext, ?_⟩
    intro huri hpshort hqshort hrows
    have hraw := contentRaw_of_hashedText htext huri hpshort hqshort
    have hp' := p.content_eq.resolve_left fun hempty => hrows hempty.2
    have hq' := q.content_eq.resolve_left fun hempty => hrows (hraw.trans hempty.2)
    rw [hp', hq', hraw]

section Samples

/-- A source and an opening of two hundred characters. -/
def longOpening : String :=
  "kb://k1/d1/c3|" ++ String.ofList (List.replicate 200 '一')

theorem longOpening_eq :
    longOpening = "kb://k1/d1/c3|" ++ String.ofList (List.replicate 200 '一') := rfl

/-- The digests of the texts hashed below. -/
def sampleDigests : List (String × String) :=
  [(longOpening, "a5af22f9bca20a29a5922e09fd0fc405623a20c7cbba56de46139c743271c766"),
   ("ev_a5af22f9bca20a29",
    "a754179728273ab23888fc45ce0e7ee1a1476d9466b679babce541838a39ecb3"),
   ("kb://k1/d1/c1|营收增长",
    "2e600a6d0d11c511013467b58e045fde99c896357f2e44b6eb0a2d9d3e6b035e"),
   ("kb://k1/d1/c2|利润下降",
    "101c30e4f08fb9b11782fbe61a1e457d65b58f915f775d913116428af9e5486a"),
   ("ev_101c30e4f08fb9b1|ev_2e600a6d0d11c511",
    "6bb4cfa160b3e0b8a846699fe06b8a025b48cb41ae6478fe7962305178d5d471")]

/-- A hash of sample texts. -/
def sampleRuntime : Runtime :=
  { (default : Runtime) with
    sha256 := fun text =>
      (sampleDigests.lookup text).getD (String.ofList (List.replicate 64 '0')) }

theorem sampleRuntime_hexDigest : HexDigest sampleRuntime := by
  -- Checked character by character along the texts, not over all characters.
  have hlisted : sampleDigests.all (fun p => p.2.length == 64 &&
      p.2.toList.all (fun c => "0123456789abcdef".toList.contains c)) = true := by
    decide +kernel
  have hzeros : (String.ofList (List.replicate 64 '0')).length = 64 ∧
      (String.ofList (List.replicate 64 '0')).toList.all
        (fun c => "0123456789abcdef".toList.contains c) = true := by
    decide +kernel
  have htable : ∀ p ∈ sampleDigests, p.2.length = 64 ∧
      ∀ c ∈ p.2.toList, c ∈ "0123456789abcdef".toList := by
    simpa only [List.all_eq_true, Bool.and_eq_true, beq_iff_eq, List.contains_iff_mem] using hlisted
  intro text
  change (String.length ((sampleDigests.lookup text).getD _)) = 64 ∧
    ∀ c ∈ String.toList ((sampleDigests.lookup text).getD _), c ∈ "0123456789abcdef".toList
  cases hfind : sampleDigests.lookup text with
  | none =>
      rw [Option.getD_none]
      simpa only [List.all_eq_true, List.contains_iff_mem] using hzeros
  | some digest => exact htable _ (mem_of_lookup hfind)

theorem sampleRuntime_sha256 (text : String) : sampleRuntime.sha256 text =
    (sampleDigests.lookup text).getD (String.ofList (List.replicate 64 '0')) := rfl

theorem sha256_longOpening : sampleRuntime.sha256 longOpening =
    "a5af22f9bca20a29a5922e09fd0fc405623a20c7cbba56de46139c743271c766" := by
  rw [sampleRuntime_sha256, sampleDigests, List.lookup_cons_self, Option.getD_some]

/-- A piece of the knowledge base. -/
def sampleEvidence (chunkId contentRaw : String) : SourcedEvidence sampleRuntime :=
  { ev := ragEvidence sampleRuntime "t1" "q"
      { content := contentRaw, kbId := "k1", docId := "d1", chunkId := chunkId }
    sourceUri := "kb://" ++ "k1" ++ "/" ++ "d1" ++ "/" ++ chunkId
    contentRaw := orElse contentRaw ""
    id_eq := attachProvenanceToEvidence_evidenceId _ _
    content_eq := .inr (attachProvenanceToEvidence_content _ _) }

/-- A piece about revenue. -/
def revenue : SourcedEvidence sampleRuntime := sampleEvidence "c1" "营收增长"

/-- A piece about profit. -/
def profit : SourcedEvidence sampleRuntime := sampleEvidence "c2" "利润下降"

/-- A text that goes on after its opening. -/
def longText (ending : String) : SourcedEvidence sampleRuntime :=
  sampleEvidence "c3" (String.ofList (List.replicate 200 '一') ++ ending)

theorem sampleEvidence_hashedText (chunkId contentRaw : String) :
    (sampleEvidence chunkId contentRaw).hashedText =
      "kb://" ++ "k1" ++ "/" ++ "d1" ++ "/" ++ chunkId ++ "|" ++ take (orElse contentRaw "") 200 :=
  rfl

theorem orElse_empty (text : String) : orElse text "" = text := by
  unfold orElse
  split_ifs with hempty
  · exact hempty.symm
  · rfl

/-- A short text without digits is its own content. -/
theorem sampleEvidence_content {chunkId contentRaw : String} (hshort : contentRaw.length ≤ 2000)
    (hdigits : contentRaw.toList.any isDecimal = false) :
    (sampleEvidence chunkId contentRaw).ev.content = contentRaw := by
  have hnone : ∀ c ∈ contentRaw.toList, isDecimal c = false := by
    simpa only [List.any_eq_false, Bool.not_eq_true] using hdigits
  have hcontent : (sampleEvidence chunkId contentRaw).ev.content =
      scrubSensitive sampleRuntime (truncateContent (orElse contentRaw "") 2000).1 :=
    attachProvenanceToEvidence_content _ _
  have hcut : (truncateContent contentRaw 2000).1 = contentRaw := by
    unfold truncateContent
    split_ifs with hempty
    · exact hempty.symm
    · rfl
  rw [hcontent, orElse_empty, hcut, scrubSensitive_of_no_digits hnone]

/-- What is hashed of the long text is its opening. -/
theorem longText_hashedText (ending : String) : (longText ending).hashedText = longOpening := by
  -- Not `rw`, which would go on to evaluate both texts.
  rewrite [longText, sampleEvidence_hashedText, orElse_empty, take, String.toList_append,
    String.toList_ofList, List.take_left' List.length_replicate, longOpening_eq]
  congr 1

theorem longText_evidenceId (ending : String) :
    (longText ending).ev.evidenceId = "ev_a5af22f9bca20a29" := by
  have htext := longText_hashedText ending
  rw [SourcedEvidence.hashedText] at htext
  rw [(longText ending).id_eq, makeEvidenceId, htext, sha256_longOpening]
  decide

theorem longText_content {ending : String} (hlength : ending.length ≤ 1)
    (hdigits : ending.toList.any isDecimal = false) :
    (longText ending).ev.content = String.ofList (List.replicate 200 '一') ++ ending := by
  refine sampleEvidence_content ?_ ?_
  · rw [String.length_append, String.length_ofList, List.length_replicate]
    omega
  · have hopening : (List.replicate 200 '一').any isDecimal = false := by decide
    rw [String.toList_append, String.toList_ofList, List.any_append, hopening, hdigits]
    rfl

/-- The id of a long text and its opening are hashed apart. -/
theorem longText_tellsApart (ending ending' : String) :
    TellsApart sampleRuntime (hashedTexts [longText ending] [longText ending']) := by
  have hne : ("ev_a5af22f9bca20a29" == longOpening) = false := by
    rw [beq_eq_false_iff_ne]
    intro heq
    have hlength := congrArg String.length heq
    have htail : (String.ofList (List.replicate 200 '一')).length = 200 := by
      rw [String.length_ofList, List.length_replicate]
    rw [longOpening_eq, String.length_append, htail] at hlength
    revert hlength
    decide
  have hid : sampleRuntime.sha256 "ev_a5af22f9bca20a29" =
      "a754179728273ab23888fc45ce0e7ee1a1476d9466b679babce541838a39ecb3" := by
    rw [sampleRuntime_sha256, sampleDigests, List.lookup_cons, hne, List.lookup_cons_self,
      Option.getD_some]
  have htexts : hashedTexts [longText ending] [longText ending'] =
      ["ev_a5af22f9bca20a29", "ev_a5af22f9bca20a29", longOpening, longOpening] := by
    simp [hashedTexts, snapshotText, join, longText_evidenceId, longText_hashedText]
  have hdigests : take (sampleRuntime.sha256 "ev_a5af22f9bca20a29") 16 ≠
      take (sampleRuntime.sha256 longOpening) 16 := by
    rw [hid, sha256_longOpening]
    decide
  rw [htexts]
  intro a ha b hb hab
  simp only [List.mem_cons, List.not_mem_nil, or_false] at ha hb
  -- Two texts are left on either side, and the digests tell them apart.
  have hcases : (a = "ev_a5af22f9bca20a29" ∨ a = longOpening) ∧
      (b = "ev_a5af22f9bca20a29" ∨ b = longOpening) :=
    ⟨ha.elim .inl fun h => h.imp_right (or_self_iff.mp ·),
      hb.elim .inl fun h => h.imp_right (or_self_iff.mp ·)⟩
  rcases hcases with ⟨rfl | rfl, rfl | rfl⟩
  · rfl
  · exact absurd hab hdigests
  · exact absurd hab.symm hdigests
  · rfl

/-- The ids and texts of the two pieces are hashed apart. -/
theorem reports_tellsApart :
    TellsApart sampleRuntime (hashedTexts [revenue, profit] [profit, revenue]) := by
  decide +kernel

/-- The order of the two pieces does not show in the id. -/
theorem reports_share_snapshotId :
    (EvidenceSnapshot.build sampleRuntime [revenue.ev, profit.ev] "" 1).snapshotId =
      (EvidenceSnapshot.build sampleRuntime [profit.ev, revenue.ev] "" 1).snapshotId :=
  makeSnapshotId_perm (List.Perm.swap _ _ [])

/-- The first piece, found again by another question. -/
def revenueAgain : SourcedEvidence sampleRuntime :=
  { revenue with
    ev := ragEvidence sampleRuntime "t1" "q2"
      { content := "营收增长", kbId := "k1", docId := "d1", chunkId := "c1" }
    id_eq := attachProvenanceToEvidence_evidenceId _ _
    content_eq := .inr (attachProvenanceToEvidence_content _ _) }

theorem revenueAgain_evidenceId : revenue.ev.evidenceId = revenueAgain.ev.evidenceId := by
  rw [revenue.id_eq, revenueAgain.id_eq]
  rfl

/-- Two pieces listed in either order, and a piece found twice: the number of
    the latter stands for one content. -/
theorem snapshotId_identifies_swapped :
    (([revenue, profit].map SourcedEvidence.ev).map Evidence.evidenceId).Perm
        (([profit, revenue].map SourcedEvidence.ev).map Evidence.evidenceId) ∧
      ([revenue, profit].map SourcedEvidence.hashedText).Perm
        ([profit, revenue].map SourcedEvidence.hashedText) ∧
      revenue.ev.content = revenueAgain.ev.content :=
  have h := snapshotId_identifies sampleRuntime sampleRuntime_hexDigest [revenue, profit]
    [profit, revenue] reports_tellsApart "" "" 1 1 reports_share_snapshotId
  have h' := snapshotId_identifies sampleRuntime sampleRuntime_hexDigest [revenue] [revenueAgain]
    (by decide +kernel) "" "" 1 1 (by
      simp only [EvidenceSnapshot.build, makeSnapshotId, List.isEmpty_cons, List.map_cons,
        List.map_nil, revenueAgain_evidenceId])
  ⟨h.1, h.2.1,
    (h'.2.2 1 revenue List.mem_cons_self revenueAgain List.mem_cons_self rfl rfl
      revenueAgain_evidenceId).2 rfl (by decide) (by decide) (by decide)⟩

/-- The same two pieces in either order share an id, and so do two texts that
    differ after the opening. The first citation stands for different contents
    both times. -/
theorem snapshots_share_id :
    TellsApart sampleRuntime (hashedTexts [revenue, profit] [profit, revenue]) ∧
      (EvidenceSnapshot.build sampleRuntime [revenue.ev, profit.ev] "" 1).snapshotId =
        (EvidenceSnapshot.build sampleRuntime [profit.ev, revenue.ev] "" 1).snapshotId ∧
      ((EvidenceSnapshot.build sampleRuntime [revenue.ev, profit.ev] "" 1).getEvidenceByIndex
          1).map Evidence.content ≠
        ((EvidenceSnapshot.build sampleRuntime [profit.ev, revenue.ev] "" 1).getEvidenceByIndex
          1).map Evidence.content ∧
      TellsApart sampleRuntime (hashedTexts [longText "甲"] [longText "乙"]) ∧
      (EvidenceSnapshot.build sampleRuntime [(longText "甲").ev] "" 1).snapshotId =
        (EvidenceSnapshot.build sampleRuntime [(longText "乙").ev] "" 1).snapshotId ∧
      ((EvidenceSnapshot.build sampleRuntime [(longText "甲").ev] "" 1).getEvidenceByIndex
          1).map Evidence.content ≠
        ((EvidenceSnapshot.build sampleRuntime [(longText "乙").ev] "" 1).getEvidenceByIndex
          1).map Evidence.content := by
  refine ⟨reports_tellsApart, reports_share_snapshotId, ?_, longText_tellsApart "甲" "乙", ?_, ?_⟩
  · change some revenue.ev.content ≠ some profit.ev.content
    rw [revenue, profit, sampleEvidence_content (by decide) (by decide),
      sampleEvidence_content (by decide) (by decide)]
    decide
  · simp only [EvidenceSnapshot.build, makeSnapshotId, List.isEmpty_cons, List.map_cons,
      longText_evidenceId]
  · change some (longText "甲").ev.content ≠ some (longText "乙").ev.content
    rw [longText_content (by decide) (by decide), longText_content (by decide) (by decide), ne_eq,
      Option.some.injEq, String.append_right_inj]
    decide

end Samples

end AgenticRag
