import AgenticRag.Core.AnswerParser

/-!
# Forged Marks

A claim enters the answer tree with the status `pending` and not required, and
it is for the verifier and the server to change that. The statuses the
verifier reaches come back into the tree by claim id, so no two claims of a
tree may share one.

The parser carries over what the model wrote, and that includes the status,
the flag and the id. So a text can hand the renderer a claim that is marked as
supported before anything was verified, or two claims with one id, of which
one takes the status of the other. Ids the parser makes up are no better: the
model may have written the same one.

`parse_serverOwned_iff` says exactly which texts do no harm. Every claim and
row leaves its status out or writes `pending`, no claim writes the flag, the
written ids differ from each other, and none of them is one of the ids that
the claims without an id are given.

The numbering of the ids is threaded through the whole tree, so the tree is
compared with a flat list: the objects of the text that are read as claims or
rows, in the order they are met, numbered in one loop.

## Main definitions

* `Mark`: What the tree says of a claim or a row.
* `LeftToServer`: The objects leave what is the server's to it.

## Theorems

* `validate_marks`: The schema keeps them.
* `claimIds_perm`: The ids of a tree are the written and the generated ones.
* `parse_serverOwned_iff`: The texts that do no harm.
-/

namespace AgenticRag

open Py Ordered

/-- What the tree says of a claim or a row. A row has no flag. -/
structure Mark (ι : Type) where
  claimId : ι
  finalStatus : String
  serverIsRequired : Bool
  deriving DecidableEq, Repr

section Marks

/-- The marks in a part. -/
def childMarks : ParagraphChild → List (Mark String)
  | .claim node => [⟨node.claimId, node.finalStatus, node.serverIsRequired⟩]
  | .narrative _ => []

/-- The mark of a row. -/
def rowMark (row : RowClaim) : Mark String := ⟨row.claimId, row.finalStatus, false⟩

mutual

/-- The marks in a node. -/
def contentMarks : SectionContent → List (Mark String)
  | .paragraph children => children.flatMap childMarks
  | .table _ rowClaims => rowClaims.map rowMark
  | .section _ _ content => contentsMarks content

/-- The marks in nodes. -/
def contentsMarks : List SectionContent → List (Mark String)
  | [] => []
  | node :: rest => contentMarks node ++ contentsMarks rest

end

/-- The marks of a tree, in the order its claims and rows stand in it. -/
def AnswerAst.marks (ast : AnswerAst) : List (Mark String) := contentsMarks ast.content

/-- A mark with its status set. -/
def Mark.sync (statusMap : List (String × String)) (m : Mark String) : Mark String :=
  { m with finalStatus := syncedStatus statusMap m.claimId m.finalStatus }

theorem childMarks_syncChild (statusMap : List (String × String)) (child : ParagraphChild) :
    childMarks (syncChild statusMap child) = (childMarks child).map (Mark.sync statusMap) := by
  cases child with
  | claim node => rfl
  | narrative text => rfl

mutual

theorem contentMarks_syncContent (statusMap : List (String × String)) (node : SectionContent) :
    contentMarks (syncContent statusMap node) =
      (contentMarks node).map (Mark.sync statusMap) := by
  cases node with
  | paragraph children =>
      simp only [syncContent, contentMarks, List.flatMap_map, childMarks_syncChild,
        List.map_flatMap]
  | table headers rowClaims =>
      simp only [syncContent, contentMarks, List.map_map]
      rfl
  | «section» title level content =>
      simp only [syncContent, contentMarks]
      exact contentsMarks_syncContents statusMap content

theorem contentsMarks_syncContents (statusMap : List (String × String))
    (nodes : List SectionContent) :
    contentsMarks (syncContents statusMap nodes) =
      (contentsMarks nodes).map (Mark.sync statusMap) := by
  cases nodes with
  | nil => rfl
  | cons node rest =>
      simp only [syncContents, contentsMarks, List.map_append]
      rw [contentMarks_syncContent statusMap node, contentsMarks_syncContents statusMap rest]

end

/-- The sync goes over every mark of the tree, and over nothing else. -/
theorem marks_syncClaimStatuses (statusMap : List (String × String)) (ast : AnswerAst) :
    (syncClaimStatuses statusMap ast).marks = ast.marks.map (Mark.sync statusMap) :=
  contentsMarks_syncContents statusMap ast.content

end Marks

section Owned

/-- A tree whose marks are the server's: every claim and row waits for its
    verdict, no two share an id, and when the verdicts on claims of this tree
    are brought in, a claim ends up supported only if it was found supported
    itself. A verdict comes with the position of the claim it is about. -/
structure ServerOwned (ast : AnswerAst) : Prop where
  pending : ∀ m ∈ ast.marks, m.finalStatus = "pending" ∧ m.serverIsRequired = false
  distinct : (ast.marks.map Mark.claimId).Nodup
  sync : ∀ judged : List (Nat × Claim),
    (∀ j ∈ judged, (ast.marks.map Mark.claimId)[j.1]? = some j.2.claimId) →
    ∀ i m, (syncClaimStatuses (buildClaimStatusMap (judged.map Prod.snd)) ast).marks[i]? = some m →
      m.finalStatus = statusSupported →
      ∃ j ∈ judged, j.1 = i ∧ j.2.finalStatus = .supported

/-- A status that reads `supported` is the verdict `supported`. -/
theorem eq_supported_of_text {status : ClaimFinalStatus} (h : status.text = statusSupported) :
    status = .supported := by
  cases status with
  | supported => rfl
  | _ => exact absurd h (by decide)

/-- A supported status that comes from the map comes from a claim with the
    id. -/
theorem exists_claim_of_synced {claims : List Claim} {claimId : String}
    (h : syncedStatus (buildClaimStatusMap claims) claimId "pending" = statusSupported) :
    ∃ c ∈ claims, c.claimId = claimId ∧ c.finalStatus = .supported := by
  unfold syncedStatus at h
  cases hlookup : (buildClaimStatusMap claims).lookup claimId with
  | none =>
      rw [hlookup] at h
      exact absurd h (by decide)
  | some status =>
      rw [hlookup, Option.getD_some] at h
      have hmem := mem_dictOf _ _ (mem_of_lookup hlookup)
      rcases List.mem_map.mp hmem with ⟨c, hc, hpair⟩
      rcases Prod.mk.inj hpair with ⟨hid, htext⟩
      exact ⟨c, hc, hid, eq_supported_of_text (htext.trans h)⟩

/-- With distinct ids and untouched marks the sync gives a claim only what was
    found for it. -/
theorem serverOwned_of_distinct {ast : AnswerAst}
    (hpending : ∀ m ∈ ast.marks, m.finalStatus = "pending" ∧ m.serverIsRequired = false)
    (hdistinct : (ast.marks.map Mark.claimId).Nodup) : ServerOwned ast := by
  refine ⟨hpending, hdistinct, ?_⟩
  intro judged hjudged i m hm hsupported
  rw [marks_syncClaimStatuses, List.getElem?_map] at hm
  rcases Option.map_eq_some_iff.mp hm with ⟨before, hbefore, rfl⟩
  have hwaits := (hpending before (List.mem_of_getElem? hbefore)).1
  rw [Mark.sync, hwaits] at hsupported
  rcases exists_claim_of_synced hsupported with ⟨c, hc, hid, hstatus⟩
  rcases List.mem_map.mp hc with ⟨j, hj, rfl⟩
  refine ⟨j, hj, ?_, hstatus⟩
  -- The verdict names the id at its own position, and no other has it.
  have hthere := hjudged j hj
  have hhere : (ast.marks.map Mark.claimId)[i]? = some before.claimId := by
    rw [List.getElem?_map, hbefore, Option.map_some]
  rw [hid, ← hhere] at hthere
  rcases List.getElem?_eq_some_iff.mp hhere with ⟨hi, -⟩
  exact ((List.getElem?_inj hi hdistinct).mp hthere.symm).symm

end Owned

section Written

variable (u : Unicode)

/-- An object that is read as a claim or, in a table, as a row. -/
structure ClaimObject where
  inTable : Bool
  node : Dict

/-- The objects among some values, as the parser goes through them. -/
def dictsAmong (vs : List Val) : List Dict :=
  vs.filterMap (fun v => match v with
    | .dict node => some node
    | _ => none)

/-- The objects a field holds. -/
def dictsIn (v : Val) : List Dict :=
  match pyIter v with
  | .ok vs => dictsAmong vs
  | .error _ => []

/-- The objects at and below a node that are read as claims or rows, in the
    order the parser meets them. -/
def claimObjects : Nat → Dict → List ClaimObject
  | 0, _ => []
  | limit + 1, node =>
      match nodeKind u node with
      | .section => (dictsIn (contentField node)).flatMap (claimObjects limit)
      | .paragraph => (dictsIn (childrenField node)).flatMap (claimObjects limit)
      | .table => (dictsIn (rowClaimsField node)).flatMap (claimObjects limit)
      | .tableRowClaim => [⟨true, node⟩]
      | .claim => [⟨false, node⟩]
      | .narrative => []

/-- The claims of an answer. -/
def payloadClaims (limit : Nat) (payload : Dict) : List ClaimObject :=
  match rootsOf payload with
  | .one node => claimObjects u limit node
  | .sections nodes => (dictsAmong nodes).flatMap (claimObjects u limit)

/-- The objects of a text that are read as claims or rows. -/
def claimsWritten (env : ParserEnv) (text : String) : List ClaimObject :=
  match extractJson env text with
  | .ok payload => payloadClaims env.unicode env.recursionLimit payload
  | .error _ => []

/-- The id an object writes for itself. -/
def writtenId (o : ClaimObject) : Option String :=
  match pyGet o.node "claim_id" .none with
  | .str s => if s = "" then none else some s
  | _ => none

/-- How many objects are given an id. -/
def unnumbered (os : List ClaimObject) : Nat :=
  os.countP (fun o => !(pyGet o.node "claim_id" .none).truthy)

/-- The objects leave what is the server's to it: the status is left out or
    `pending`, the flag of a claim is left out or false, and the written ids
    differ from each other and from those the other objects are given. -/
structure LeftToServer (os : List ClaimObject) : Prop where
  status : ∀ o ∈ os, (pyGet o.node "final_status" .none).truthy = false ∨
    (pyGet o.node "final_status" .none).toStr u = "pending"
  required : ∀ o ∈ os, o.inTable = false →
    (pyGet o.node "server_is_required" (.bool false)).truthy = false
  distinct : (os.filterMap writtenId).Nodup
  unreserved : ∀ i ∈ List.range' 1 (unnumbered os), genClaimId i ∉ os.filterMap writtenId

instance (os : List ClaimObject) : Decidable (LeftToServer u os) :=
  decidable_of_iff
    ((∀ o ∈ os, (pyGet o.node "final_status" .none).truthy = false ∨
        (pyGet o.node "final_status" .none).toStr u = "pending") ∧
      (∀ o ∈ os, o.inTable = false →
        (pyGet o.node "server_is_required" (.bool false)).truthy = false) ∧
      (os.filterMap writtenId).Nodup ∧
      ∀ i ∈ List.range' 1 (unnumbered os), genClaimId i ∉ os.filterMap writtenId)
    ⟨fun h => ⟨h.1, h.2.1, h.2.2.1, h.2.2.2⟩,
      fun h => ⟨h.status, h.required, h.distinct, h.unreserved⟩⟩

/-- The mark an object gets, and the last number given out. -/
def numberedMark (o : ClaimObject) (claimSeq : Nat) : Mark Val × Nat :=
  (⟨(takeClaimId o.node claimSeq).1, textOr u o.node "final_status" "pending",
    !o.inTable && (pyGet o.node "server_is_required" (.bool false)).truthy⟩,
    (takeClaimId o.node claimSeq).2)

end Written

section Normalized

variable {u : Unicode}

mutual

/-- The marks of a node the schema has not seen. -/
def Norm.marks : Norm → List (Mark Val)
  | .section _ _ content => Norm.marksAll content
  | .paragraph children => Norm.marksAll children
  | .table _ rowClaims => Norm.marksAll rowClaims
  | .tableRowClaim row => [⟨row.claimId, row.finalStatus, false⟩]
  | .claim node => [⟨node.claimId, node.finalStatus, node.serverIsRequired⟩]
  | .narrative _ => []

/-- The marks in normal forms. -/
def Norm.marksAll : List Norm → List (Mark Val)
  | [] => []
  | node :: rest => node.marks ++ Norm.marksAll rest

end

/-- A list of nodes carries the marks of its objects, numbered through. -/
theorem normalizeAll_marks {normalizeOne : Dict → Nat → Except Exc (Norm × Nat)}
    {objects : Dict → List ClaimObject}
    (hone : ∀ node n x n', normalizeOne node n = .ok (x, n') →
      mapState (numberedMark u) (objects node) n = (x.marks, n'))
    (vs : List Val) (n : Nat) {xs : List Norm} {n' : Nat}
    (h : normalizeAll normalizeOne vs n = .ok (xs, n')) :
    mapState (numberedMark u) ((dictsAmong vs).flatMap objects) n = (Norm.marksAll xs, n') := by
  fun_induction normalizeAll normalizeOne vs n generalizing xs n' with
  | case1 n =>
      cases h
      rfl
  | case2 node vs n ih =>
      rcases exists_of_bind_ok h with ⟨⟨x, n₁⟩, hx, hrest⟩
      rcases exists_of_bind_ok hrest with ⟨⟨xs', n₂⟩, hxs, hresult⟩
      cases hresult
      have hall := ih n₁ hxs
      show mapState (numberedMark u) (objects node ++ (dictsAmong vs).flatMap objects) n = _
      rw [mapState_append, hone node n x n₁ hx, hall]
      rfl
  | case3 v vs n hv ih =>
      have hskip : dictsAmong (v :: vs) = dictsAmong vs := by
        cases v with
        | dict node => exact absurd rfl (hv node)
        | _ => rfl
      rw [hskip]
      exact ih h

theorem normalizeRow_mark {node : Dict} {n : Nat} {row : NormRow} {n' : Nat}
    (h : normalizeRow u node n = .ok (row, n')) :
    numberedMark u ⟨true, node⟩ n = (⟨row.claimId, row.finalStatus, false⟩, n') := by
  rcases exists_of_bind_ok h with ⟨rowIndex, -, h⟩
  rcases exists_of_bind_ok h with ⟨rowValues, -, h⟩
  rcases exists_of_bind_ok h with ⟨citations, -, h⟩
  cases h
  rfl

theorem normalizeClaim_mark {node : Dict} {n : Nat} {claim : NormClaim} {n' : Nat}
    (h : normalizeClaim u node n = .ok (claim, n')) :
    numberedMark u ⟨false, node⟩ n =
      (⟨claim.claimId, claim.finalStatus, claim.serverIsRequired⟩, n') := by
  rcases exists_of_bind_ok h with ⟨citations, -, h⟩
  cases h
  rfl

/-- A node carries the marks of the objects at and below it, numbered
    through. -/
theorem normalizeNode_marks (limit : Nat) (node : Dict) (n : Nat) (x : Norm) (n' : Nat)
    (h : normalizeNode u limit node n = .ok (x, n')) :
    mapState (numberedMark u) (claimObjects u limit node) n = (x.marks, n') := by
  induction limit generalizing node n x n' with
  | zero => cases h
  | succ limit ih =>
      unfold normalizeNode at h
      unfold claimObjects
      cases hkind : nodeKind u node with
      | «section» =>
          simp only [hkind] at h ⊢
          rcases exists_of_bind_ok h with ⟨nodes, hnodes, h⟩
          rcases exists_of_bind_ok h with ⟨⟨content, n₁⟩, hcontent, h⟩
          rcases exists_of_bind_ok h with ⟨level, -, h⟩
          cases h
          simp only [dictsIn, hnodes]
          exact normalizeAll_marks ih nodes n hcontent
      | paragraph =>
          simp only [hkind] at h ⊢
          rcases exists_of_bind_ok h with ⟨nodes, hnodes, h⟩
          rcases exists_of_bind_ok h with ⟨⟨children, n₁⟩, hchildren, h⟩
          cases h
          simp only [dictsIn, hnodes]
          exact normalizeAll_marks ih nodes n hchildren
      | table =>
          simp only [hkind] at h ⊢
          rcases exists_of_bind_ok h with ⟨nodes, hnodes, h⟩
          rcases exists_of_bind_ok h with ⟨⟨rowClaims, n₁⟩, hrows, h⟩
          rcases exists_of_bind_ok h with ⟨headers, -, h⟩
          cases h
          simp only [dictsIn, hnodes]
          exact normalizeAll_marks ih nodes n hrows
      | tableRowClaim =>
          simp only [hkind] at h ⊢
          rcases exists_of_bind_ok h with ⟨⟨row, n₁⟩, hrow, h⟩
          cases h
          simp only [mapState, normalizeRow_mark hrow, Norm.marks]
      | claim =>
          simp only [hkind] at h ⊢
          rcases exists_of_bind_ok h with ⟨⟨claim, n₁⟩, hclaim, h⟩
          cases h
          simp only [mapState, normalizeClaim_mark hclaim, Norm.marks]
      | narrative =>
          simp only [hkind] at h ⊢
          cases h
          rfl

/-- The root carries the marks of all objects of the text. -/
theorem normalizeRoot_marks {env : ParserEnv} {payload : Dict} {root : Norm}
    (h : normalizeRoot env payload = .ok root) :
    (mapState (numberedMark env.unicode)
      (payloadClaims env.unicode env.recursionLimit payload) 0).1 = root.marks := by
  unfold normalizeRoot at h
  unfold payloadClaims
  cases hroots : rootsOf payload with
  | one node =>
      simp only [hroots] at h ⊢
      rcases exists_of_bind_ok h with ⟨⟨x, n⟩, hx, h⟩
      cases h
      rw [normalizeNode_marks _ _ _ _ _ hx]
  | sections nodes =>
      simp only [hroots] at h ⊢
      rcases exists_of_bind_ok h with ⟨⟨xs, n⟩, hxs, h⟩
      rw [normalizeAll_marks (normalizeNode_marks env.recursionLimit) nodes 0 hxs]
      -- One section stands for itself, any other number is put into one.
      dsimp only at h
      split at h
      · next x =>
          cases h
          simp only [Norm.marksAll, List.append_nil]
      · cases h
        rfl

end Normalized

section Validated

variable {env : ParserEnv}

/-- A mark as it was before the schema asked for text. -/
def Mark.unchecked (m : Mark String) : Mark Val :=
  ⟨.str m.claimId, m.finalStatus, m.serverIsRequired⟩

theorem eq_str_of_textField {v : Val} {s : String} (h : textField v = some s) : v = .str s := by
  cases v with
  | str t => exact congrArg Val.str (Option.some.inj h)
  | _ => cases h

/-- A list of nodes that are checked one by one keeps its marks, when each of
    them does. -/
theorem marksAll_of_mapM {β : Type} {check : Norm → Option β} {marks : β → List (Mark String)}
    (hcheck : ∀ x y, check x = some y → x.marks = (marks y).map Mark.unchecked)
    {xs : List Norm} {ys : List β} (h : xs.mapM check = some ys) :
    Norm.marksAll xs = (ys.flatMap marks).map Mark.unchecked := by
  have hall := forall₂_of_mapM_some h
  clear h
  induction hall with
  | nil => rfl
  | cons hy _ ih =>
      rw [Norm.marksAll, hcheck _ _ hy, ih, List.flatMap_cons, List.map_append]

theorem validateChild_marks (x : Norm) (child : ParagraphChild)
    (h : validateChild env x = some child) : x.marks = (childMarks child).map Mark.unchecked := by
  cases x with
  | claim node =>
      rcases Option.bind_eq_some_iff.mp h with ⟨claimId, hid, h⟩
      rcases Option.bind_eq_some_iff.mp h with ⟨citations, -, h⟩
      rcases Option.bind_eq_some_iff.mp h with ⟨claimType, -, h⟩
      cases h
      simp only [Norm.marks, eq_str_of_textField hid, childMarks, List.map_cons, List.map_nil,
        Mark.unchecked]
  | narrative text =>
      cases h
      rfl
  | _ => cases h

theorem validateRow_marks (x : Norm) (row : RowClaim) (h : validateRow env x = some row) :
    x.marks = [rowMark row].map Mark.unchecked := by
  cases x with
  | tableRowClaim node =>
      rcases Option.bind_eq_some_iff.mp h with ⟨claimId, hid, h⟩
      rcases Option.bind_eq_some_iff.mp h with ⟨citations, -, h⟩
      cases h
      simp only [Norm.marks, eq_str_of_textField hid, rowMark, List.map_cons, List.map_nil,
        Mark.unchecked]
  | _ => cases h

mutual

theorem validateContent_marks (x : Norm) (content : SectionContent)
    (h : validateContent env x = some content) :
    x.marks = (contentMarks content).map Mark.unchecked := by
  cases x with
  | «section» title level nodes =>
      rw [validateContent] at h
      rcases Option.map_eq_some_iff.mp h with ⟨contents, hcontents, rfl⟩
      rw [Norm.marks, contentMarks]
      exact validateContents_marks nodes contents hcontents
  | paragraph nodes =>
      rw [validateContent] at h
      rcases Option.map_eq_some_iff.mp h with ⟨children, hchildren, rfl⟩
      rw [Norm.marks, contentMarks]
      exact marksAll_of_mapM validateChild_marks hchildren
  | table headers nodes =>
      rw [validateContent] at h
      rcases Option.map_eq_some_iff.mp h with ⟨rows, hrows, rfl⟩
      rw [Norm.marks, contentMarks, marksAll_of_mapM validateRow_marks hrows,
        ← List.map_eq_flatMap]
  | _ => simp only [validateContent, reduceCtorEq] at h

theorem validateContents_marks (xs : List Norm) (contents : List SectionContent)
    (h : validateContents env xs = some contents) :
    Norm.marksAll xs = (contentsMarks contents).map Mark.unchecked := by
  cases xs with
  | nil =>
      rw [validateContents] at h
      cases h
      rfl
  | cons x xs =>
      rw [validateContents] at h
      rcases Option.bind_eq_some_iff.mp h with ⟨content, hcontent, h⟩
      rcases Option.bind_eq_some_iff.mp h with ⟨contents', hcontents, h⟩
      cases h
      rw [Norm.marksAll, contentsMarks, List.map_append, validateContent_marks x content hcontent,
        validateContents_marks xs contents' hcontents]

end

/-- The schema puts the nodes in their places and keeps their marks. -/
theorem validate_marks {schemaVersion : String} {root : Norm} {ast : AnswerAst}
    (h : validate env schemaVersion root = some ast) :
    root.marks = ast.marks.map Mark.unchecked := by
  cases root with
  | «section» title level nodes =>
      rcases Option.map_eq_some_iff.mp h with ⟨contents, hcontents, rfl⟩
      rw [Norm.marks]
      exact validateContents_marks nodes contents hcontents
  | _ => cases h

/-- A tree that was parsed carries the marks of the objects of its text,
    numbered through. -/
theorem parse_marks {text : String} {ast : AnswerAst} (h : parse env text = .ok ast) :
    (mapState (numberedMark env.unicode) (claimsWritten env text) 0).1 =
      ast.marks.map Mark.unchecked := by
  rcases exists_of_bind_ok h with ⟨payload, hpayload, h⟩
  rcases exists_of_bind_ok h with ⟨⟨schemaVersion, root⟩, hroot, h⟩
  rcases exists_of_bind_ok hroot with ⟨root', hroot', hresult⟩
  rcases Prod.mk.inj (Except.ok.inj hresult) with ⟨-, rfl⟩
  dsimp only at h
  cases hvalid : validate env schemaVersion root' with
  | none => simp only [hvalid, reduceCtorEq] at h
  | some ast' =>
      rw [hvalid] at h
      have hast : ast' = ast := Except.ok.inj h
      have hwritten : claimsWritten env text =
          payloadClaims env.unicode env.recursionLimit payload := by
        unfold claimsWritten
        rw [hpayload]
      rw [hwritten, ← hast]
      exact (normalizeRoot_marks hroot').trans (validate_marks hvalid)

end Validated

section Numbering

variable {u : Unicode}

/-- Generated ids with different numbers differ. -/
theorem genClaimId_injective : Function.Injective genClaimId := by
  intro m n h
  have htail := congrArg String.toList h
  simp only [genClaimId, String.toList_append, String.toList_ofList] at htail
  -- The digits give the number back, however many zeros stand before them.
  have hvalue := congrArg (fun cs => Nat.ofDigitChars 10 cs 0) (List.append_cancel_left htail)
  simpa only [Nat.ofDigitChars_append, Nat.ofDigitChars_replicate_zero, Nat.mul_zero,
    Nat.ofDigitChars_ten_toDigits] using hvalue

theorem writtenId_of_truthy {o : ClaimObject} {s : String}
    (htruthy : (pyGet o.node "claim_id" .none).truthy = true)
    (h : pyGet o.node "claim_id" .none = .str s) : writtenId o = some s := by
  rw [h] at htruthy
  have hne : s ≠ "" := by simpa [Val.truthy] using htruthy
  simp only [writtenId, h, if_neg hne]

theorem writtenId_of_not_truthy {o : ClaimObject}
    (h : (pyGet o.node "claim_id" .none).truthy = false) : writtenId o = none := by
  unfold writtenId
  split
  · next s hs =>
      rw [hs] at h
      have hempty : s = "" := by simpa [Val.truthy] using h
      rw [if_pos hempty]
  · rfl

/-- The ids of the marks are those that were written and as many generated
    ones as there are objects without. -/
theorem claimIds_perm (os : List ClaimObject) (n : Nat) (ids : List String)
    (h : (mapState (numberedMark u) os n).1.map Mark.claimId = ids.map Val.str) :
    ids.Perm (os.filterMap writtenId ++
      (List.range' (n + 1) (unnumbered os)).map genClaimId) := by
  induction os generalizing n ids with
  | nil =>
      cases ids with
      | nil => exact List.Perm.refl _
      | cons id ids => cases h
  | cons o os ih =>
      cases ids with
      | nil => cases h
      | cons id ids =>
          rcases List.cons.inj h with ⟨hid, hrest⟩
          cases htruthy : (pyGet o.node "claim_id" .none).truthy with
          | true =>
              have htake : takeClaimId o.node n = (pyGet o.node "claim_id" .none, n) := by
                simp only [takeClaimId, htruthy, if_true]
              simp only [numberedMark, htake] at hid hrest
              have hwritten := writtenId_of_truthy htruthy hid
              have hcount : unnumbered (o :: os) = unnumbered os := by
                simp only [unnumbered, List.countP_cons, htruthy]
                rfl
              rw [List.filterMap_cons_some hwritten, hcount]
              exact (ih n ids hrest).cons id
          | false =>
              have htake : takeClaimId o.node n = (.str (genClaimId (n + 1)), n + 1) := by
                simp only [takeClaimId, htruthy]
                rfl
              simp only [numberedMark, htake, Val.str.injEq] at hid hrest
              have hcount : unnumbered (o :: os) = unnumbered os + 1 := by
                simp only [unnumbered, List.countP_cons, htruthy]
                rfl
              rw [List.filterMap_cons_none (writtenId_of_not_truthy htruthy), hcount,
                List.range'_succ, List.map_cons, ← hid]
              exact ((ih (n + 1) ids hrest).cons _).trans List.perm_middle.symm

/-- The ids differ when the written ones differ from each other and from the
    generated ones. -/
theorem claimIds_nodup_iff {os : List ClaimObject} {ids : List String}
    (h : (mapState (numberedMark u) os 0).1.map Mark.claimId = ids.map Val.str) :
    ids.Nodup ↔ (os.filterMap writtenId).Nodup ∧
      ∀ i ∈ List.range' 1 (unnumbered os), genClaimId i ∉ os.filterMap writtenId := by
  rw [(claimIds_perm os 0 ids h).nodup_iff, List.nodup_append]
  have hgenerated : ((List.range' 1 (unnumbered os)).map genClaimId).Nodup :=
    (List.nodup_range' 1).map genClaimId_injective
  constructor
  · intro hall
    refine ⟨hall.1, ?_⟩
    intro i hi hwritten
    exact hall.2.2 _ hwritten _ (List.mem_map_of_mem hi) rfl
  · intro hall
    refine ⟨hall.1, hgenerated, ?_⟩
    intro a ha b hb hab
    rcases List.mem_map.mp hb with ⟨i, hi, rfl⟩
    rw [hab] at ha
    exact hall.2 i hi ha

/-- The statuses and flags of the marks are those of the objects, one by
    one. -/
theorem forall_marks_iff (P : String → Bool → Prop) (os : List ClaimObject) (n : Nat) :
    (∀ m ∈ (mapState (numberedMark u) os n).1, P m.finalStatus m.serverIsRequired) ↔
      ∀ o ∈ os, P (textOr u o.node "final_status" "pending")
        (!o.inTable && (pyGet o.node "server_is_required" (.bool false)).truthy) := by
  induction os generalizing n with
  | nil => exact ⟨fun _ o ho => absurd ho List.not_mem_nil, fun _ m hm => absurd hm List.not_mem_nil⟩
  | cons o os ih =>
      rw [List.forall_mem_cons, ← ih (takeClaimId o.node n).2]
      exact List.forall_mem_cons

/-- A status is `pending` when the model left it out or wrote so. -/
theorem textOr_pending_iff (node : Dict) :
    textOr u node "final_status" "pending" = "pending" ↔
      (pyGet node "final_status" .none).truthy = false ∨
        (pyGet node "final_status" .none).toStr u = "pending" := by
  unfold textOr pyOr
  split
  · next h => simp only [h, Bool.true_eq_false, false_or]
  · next h => simp only [Val.toStr, Bool.eq_false_of_not_eq_true h, true_or]

end Numbering

/-- The texts that do no harm: a text the parser accepts gives a tree whose
    marks are the server's exactly when its claims and rows leave to the
    server what is the server's. -/
theorem parse_serverOwned_iff (env : ParserEnv) (text : String) (ast : AnswerAst)
    (h : parse env text = .ok ast) :
    ServerOwned ast ↔ LeftToServer env.unicode (claimsWritten env text) := by
  have hmarks := parse_marks h
  have hids : (mapState (numberedMark env.unicode) (claimsWritten env text) 0).1.map Mark.claimId =
      (ast.marks.map Mark.claimId).map Val.str := by
    rw [hmarks, List.map_map, List.map_map]
    rfl
  have hnodup := claimIds_nodup_iff hids
  have hpending : (∀ m ∈ ast.marks, m.finalStatus = "pending" ∧ m.serverIsRequired = false) ↔
      ∀ o ∈ claimsWritten env text, textOr env.unicode o.node "final_status" "pending" = "pending" ∧
        (!o.inTable && (pyGet o.node "server_is_required" (.bool false)).truthy) = false := by
    rw [← forall_marks_iff (fun status required => status = "pending" ∧ required = false)
      (claimsWritten env text) 0, hmarks, List.forall_mem_map]
    rfl
  constructor
  · intro howned
    have hdistinct := hnodup.mp howned.distinct
    have hall := hpending.mp howned.pending
    refine ⟨?_, ?_, hdistinct.1, hdistinct.2⟩
    · intro o ho
      exact (textOr_pending_iff o.node).mp (hall o ho).1
    · intro o ho hclaim
      simpa [hclaim] using (hall o ho).2
  · intro hleft
    refine serverOwned_of_distinct (hpending.mpr ?_)
      (hnodup.mpr ⟨hleft.distinct, hleft.unreserved⟩)
    intro o ho
    refine ⟨(textOr_pending_iff o.node).mpr (hleft.status o ho), ?_⟩
    cases hrow : o.inTable with
    | true => rfl
    | false => exact hleft.required o ho hrow

section Texts

/-- An interpreter with room for fifty nested calls, and a schema that takes
    integers as they are. -/
def plainEnv : ParserEnv :=
  { unicode := default
    readFloat := fun _ => none
    decodeDepth := 50
    recursionLimit := 50
    intField := fun v => match v with
      | .int i => some i
      | _ => none }

/-- Two claims, the first without an id. -/
def plainText : String :=
  "\x7b\"content\":[\x7b\"children\":[\x7b\"citation_indices\":[1]\x7d,\x7b\"claim_id\":\"b\"\x7d]\x7d]\x7d"

/-- Two claims again. The second takes the id the first is given, and writes
    its own verdict. -/
def forgedText : String :=
  "\x7b\"content\":[\x7b\"children\":[\x7b\"citation_indices\":[1]\x7d," ++
    "\x7b\"claim_id\":\"claim_001\",\"final_status\":\"supported\"\x7d]\x7d]\x7d"

/-- The marks that a text leads to. -/
def parsedMarks (text : String) : Option (List (Mark String)) :=
  match parse plainEnv text with
  | .ok ast => some ast.marks
  | .error _ => none

theorem exists_ast_of_parsedMarks {text : String} {marks : List (Mark String)}
    (h : parsedMarks text = some marks) :
    ∃ ast, parse plainEnv text = .ok ast ∧ ast.marks = marks := by
  unfold parsedMarks at h
  split at h
  · next ast hast => exact ⟨ast, hast, Option.some.inj h⟩
  · cases h

theorem parse_serverOwned_plainText :
    ∃ ast, parse plainEnv plainText = .ok ast ∧
      LeftToServer default (claimsWritten plainEnv plainText) ∧ ServerOwned ast := by
  have htext : parsedMarks plainText =
        some [⟨"claim_001", "pending", false⟩, ⟨"b", "pending", false⟩] ∧
      LeftToServer default (claimsWritten plainEnv plainText) := by
    decide +kernel
  rcases htext with ⟨hmarks, hleft⟩
  rcases exists_ast_of_parsedMarks hmarks with ⟨ast, hast, -⟩
  exact ⟨ast, hast, hleft, (parse_serverOwned_iff plainEnv plainText ast hast).mpr hleft⟩

/-- The tree of the forged text shows a verdict nobody reached, on a claim
    that cannot be told from the other. -/
theorem forgedText_not_serverOwned :
    ∃ ast, parse plainEnv forgedText = .ok ast ∧
      ast.marks = [⟨"claim_001", "pending", false⟩, ⟨"claim_001", "supported", false⟩] ∧
      ¬ ServerOwned ast := by
  have hmarks : parsedMarks forgedText =
      some [⟨"claim_001", "pending", false⟩, ⟨"claim_001", "supported", false⟩] := by
    decide +kernel
  rcases exists_ast_of_parsedMarks hmarks with ⟨ast, hast, hast'⟩
  refine ⟨ast, hast, hast', ?_⟩
  intro howned
  have hdistinct := howned.distinct
  rw [hast'] at hdistinct
  revert hdistinct
  decide

end Texts

end AgenticRag
