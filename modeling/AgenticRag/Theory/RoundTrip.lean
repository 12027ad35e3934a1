import AgenticRag.Core.AnswerParser
import AgenticRag.Lib.JsonLines

/-!
# The Answer Tree and Back

A tree that is dumped, written as JSON and parsed again. The parser brings what
it reads to the shape of the schema before the schema sees it, and for what a
tree is dumped to that changes nothing, if the fields that stand for a default
when they are empty are not: the names are those of the schema, every node has
its type, and no field is taken for another. Nodes are brought to their shape by
calls within calls, so that the tree may not be deeper than these go.

In a fence the text is cut at its line ends and put together with line feeds. A
text with other line ends in its strings is no JSON after that.

## Main definitions

* `contentNorm`: A tree in the shape the schema checks.
* `fenced`: The text in a fence.

## Theorems

* `validateContent_contentNorm`: The schema gives the tree back.
* `withoutFence_fenced`: What is taken out of a fence.
* `parse_serialisation_iff`: When a tree comes back.
-/

namespace AgenticRag

open Py Ordered

section Shape

/-- The normal form of a claim. -/
def ClaimNode.norm (node : ClaimNode) : NormClaim where
  schemaVersion := node.schemaVersion
  claimId := .str node.claimId
  text := node.text
  citationIndices := node.citationIndices.map .int
  modelClaimType := .str node.modelClaimType
  modelIsRequired := node.modelIsRequired
  finalStatus := node.finalStatus
  serverClaimType := node.serverClaimType
  serverIsRequired := node.serverIsRequired

/-- The normal form of a row. -/
def RowClaim.norm (row : RowClaim) : NormRow where
  claimId := .str row.claimId
  rowIndex := row.rowIndex
  rowValues := row.rowValues
  citationIndices := row.citationIndices.map .int
  finalStatus := row.finalStatus

/-- The normal form of a part. -/
def childNorm : ParagraphChild → Norm
  | .claim node => .claim node.norm
  | .narrative text => .narrative text

mutual

/-- A tree as the schema is given it. -/
def contentNorm : SectionContent → Norm
  | .paragraph children => .paragraph (children.map childNorm)
  | .table headers rowClaims =>
      .table headers (rowClaims.map (fun row => .tableRowClaim row.norm))
  | .section title level content => .section title level (contentNorms content)

/-- The normal forms of nodes. -/
def contentNorms : List SectionContent → List Norm
  | [] => []
  | node :: rest => contentNorm node :: contentNorms rest

end

mutual

/-- How deep the nodes of a tree stand in one another. -/
def SectionContent.depth : SectionContent → Nat
  | .paragraph children => if children = [] then 1 else 2
  | .table _ rowClaims => if rowClaims = [] then 1 else 2
  | .section _ _ content => contentsDepth content + 1

/-- How deep nodes go. -/
def contentsDepth : List SectionContent → Nat
  | [] => 0
  | node :: rest => max node.depth (contentsDepth rest)

end

/-- The fields of a claim that are not empty. -/
structure ClaimNode.Filled (node : ClaimNode) : Prop where
  claimId : node.claimId ≠ ""
  finalStatus : node.finalStatus ≠ ""
  schemaVersion : node.schemaVersion ≠ ""
  modelClaimType : node.modelClaimType ≠ ""

/-- The row has id and status. -/
structure RowClaim.Filled (row : RowClaim) : Prop where
  claimId : row.claimId ≠ ""
  finalStatus : row.finalStatus ≠ ""

/-- The claim has id and status. -/
def ParagraphChild.Filled : ParagraphChild → Prop
  | .claim node => node.Filled
  | .narrative _ => True

mutual

/-- All claims have id and status. -/
def SectionContent.Filled : SectionContent → Prop
  | .paragraph children => ∀ child ∈ children, child.Filled
  | .table _ rowClaims => ∀ row ∈ rowClaims, row.Filled
  | .section _ _ content => contentsFilled content

/-- All claims have id and status. -/
def contentsFilled : List SectionContent → Prop
  | [] => True
  | node :: rest => node.Filled ∧ contentsFilled rest

end

/-- No field that is to be there is empty. -/
def AnswerAst.Filled (ast : AnswerAst) : Prop :=
  ast.schemaVersion ≠ "" ∧ contentsFilled ast.content

/-- The root and what stands in it. -/
def AnswerAst.depth (ast : AnswerAst) : Nat := contentsDepth ast.content + 1

end Shape

section Normalizing

variable {u : Unicode}

/-- The names of the types are in lower case. -/
def LowerTypes (u : Unicode) : Prop :=
  ∀ name ∈ ["section", "paragraph", "table", "table_row_claim", "claim", "narrative"],
    u.lower name = name

theorem nodeKind_of_type (hlower : LowerTypes u) (name : String)
    (hname : name ∈ ["section", "paragraph", "table", "table_row_claim", "claim", "narrative"])
    (rest : Dict) (htype : rest.lookup "type" = none) :
    nodeKind u (("node_type", .str name) :: rest) = kindOfText name := by
  have hplain : ∀ name ∈ ["section", "paragraph", "table", "table_row_claim", "claim",
      "narrative"], strip name = name ∧ name ≠ "" := by decide
  rcases hplain name hname with ⟨hstrip, hne⟩
  have hraw : pyOr (pyOr (pyGet (("node_type", .str name) :: rest) "type" .none)
      (pyGet (("node_type", .str name) :: rest) "node_type" .none)) (.str "") = .str name := by
    have hnone : pyGet (("node_type", .str name) :: rest) "type" .none = .none := by
      rw [pyGet, List.lookup_cons, htype]
      rfl
    rw [hnone]
    simp [pyOr, pyGet, Val.truthy, hne]
  rw [nodeKind, hraw]
  simp only [Val.toStr, hlower name hname, hstrip, if_pos hne]

theorem textOr_str {node : Dict} {key default s : String} (h : node.lookup key = some (.str s))
    (hs : s ≠ "" ∨ default = "") : textOr u node key default = s := by
  rw [textOr, pyGet, h, Option.getD_some, pyOr]
  -- A text that is empty stands for the default, which has to be empty too.
  by_cases hempty : s = ""
  · rw [hempty, hs.resolve_left (fun hne => hne hempty)]
    rfl
  · simp [Val.truthy, hempty, Val.toStr]

theorem citationsOf_ints (indices : List Int) {node : Dict}
    (h : node.lookup "citation_indices" = some (.list (indices.map .int))) :
    citationsOf node = .ok (indices.map .int) := by
  rw [citationsOf, pyGet, h, Option.getD_some, pyOr]
  cases indices with
  | nil => rfl
  | cons i indices => rfl

theorem takeClaimId_str {node : Dict} {s : String} (h : node.lookup "claim_id" = some (.str s))
    (hs : s ≠ "") (claimSeq : Nat) : takeClaimId node claimSeq = (.str s, claimSeq) := by
  rw [takeClaimId, pyGet, h, Option.getD_some]
  simp [Val.truthy, hs]

theorem normalizeClaim_toDict {node : ClaimNode} (hfilled : node.Filled) (claimSeq : Nat) :
    normalizeClaim u node.toDict claimSeq = .ok (node.norm, claimSeq) := by
  -- The name the prompt uses is not there, so the schema name is read.
  have htype : pyOr (pyOr (pyGet node.toDict "claim_type" .none)
      (pyGet node.toDict "model_claim_type" .none)) (.str "statement") =
        .str node.modelClaimType := by
    simp [ClaimNode.toDict, pyGet, pyOr, List.lookup_cons, Val.truthy, hfilled.modelClaimType]
  have hrequired : (pyGet node.toDict "is_required"
      (pyGet node.toDict "model_is_required" (.bool false))).truthy = node.modelIsRequired := by
    simp [ClaimNode.toDict, pyGet, List.lookup_cons, Val.truthy]
  rw [normalizeClaim, takeClaimId_str (s := node.claimId) rfl hfilled.claimId]
  dsimp only
  rw [citationsOf_ints node.citationIndices rfl, htype, hrequired,
    textOr_str (s := node.schemaVersion) rfl (.inl hfilled.schemaVersion),
    textOr_str (s := node.text) rfl (.inr rfl),
    textOr_str (s := node.finalStatus) rfl (.inl hfilled.finalStatus),
    textOr_str (s := node.serverClaimType) rfl (.inr rfl)]
  rfl

theorem normalizeRow_toDict {row : RowClaim} (hfilled : row.Filled) (claimSeq : Nat) :
    normalizeRow u row.toDict claimSeq = .ok (row.norm, claimSeq) := by
  have hvalues : asMapping (pyOr (pyGet row.toDict "row_values" .none) (.dict [])) =
      .ok (row.rowValues.map (fun kv => (kv.1, .str kv.2))) := by
    have hget : pyGet row.toDict "row_values" .none =
        .dict (row.rowValues.map (fun kv => (kv.1, .str kv.2))) := rfl
    rw [hget, pyOr]
    cases row.rowValues with
    | nil => rfl
    | cons kv rest => rfl
  have hindex : intOr row.toDict "row_index" 0 = .ok row.rowIndex := rfl
  rw [normalizeRow, takeClaimId_str (s := row.claimId) rfl hfilled.claimId]
  dsimp only
  rw [citationsOf_ints row.citationIndices rfl, hvalues, hindex,
    textOr_str (s := row.finalStatus) rfl (.inl hfilled.finalStatus)]
  have hrows : (row.rowValues.map (fun kv => (kv.1, Val.str kv.2))).map
      (fun kv => (kv.1, kv.2.toStr u)) = row.rowValues := by
    rw [List.map_map]
    exact List.map_id _
  simp only [bind, Except.bind, pure, Except.pure, hrows]
  rfl

/-- A leaf is brought to its shape where there is room for it. -/
theorem normalizeNode_child (hlower : LowerTypes u) {child : ParagraphChild}
    (hfilled : child.Filled) (limit claimSeq : Nat) :
    normalizeNode u (limit + 1) child.toDict claimSeq = .ok (childNorm child, claimSeq) := by
  cases child with
  | claim node =>
      have hkind : nodeKind u node.toDict = .claim :=
        nodeKind_of_type hlower "claim" (by decide) _ rfl
      rw [ParagraphChild.toDict, normalizeNode, hkind]
      dsimp only
      rw [normalizeClaim_toDict hfilled]
      rfl
  | narrative text =>
      have hkind : nodeKind u (ParagraphChild.narrative text).toDict = .narrative :=
        nodeKind_of_type hlower "narrative" (by decide) _ rfl
      rw [normalizeNode, hkind]
      dsimp only
      rw [textOr_str (s := text) rfl (.inr rfl)]
      rfl

theorem normalizeNode_row (hlower : LowerTypes u) {row : RowClaim} (hfilled : row.Filled)
    (limit claimSeq : Nat) :
    normalizeNode u (limit + 1) row.toDict claimSeq = .ok (.tableRowClaim row.norm, claimSeq) := by
  have hkind : nodeKind u row.toDict = .tableRowClaim :=
    nodeKind_of_type hlower "table_row_claim" (by decide) _ rfl
  rw [normalizeNode, hkind]
  dsimp only
  rw [normalizeRow_toDict hfilled]
  rfl

/-- Nodes that are each brought to their shape are so in a row. -/
theorem normalizeAll_map {α : Type} {one : Dict → Nat → Except Exc (Norm × Nat)}
    {dict : α → Dict} {norm : α → Norm} {xs : List α}
    (h : ∀ x ∈ xs, ∀ claimSeq, one (dict x) claimSeq = .ok (norm x, claimSeq)) (claimSeq : Nat) :
    normalizeAll one (xs.map (fun x => .dict (dict x))) claimSeq =
      .ok (xs.map norm, claimSeq) := by
  induction xs with
  | nil => rfl
  | cons x xs ih =>
      rw [List.map_cons, normalizeAll, h x List.mem_cons_self]
      simp only [bind, Except.bind]
      rw [ih (fun y hy => h y (List.mem_cons_of_mem _ hy))]
      rfl

/-- Without room the first of them raises. -/
theorem normalizeAll_zero {α : Type} {dict : α → Dict} {xs : List α} (hne : xs ≠ [])
    (claimSeq : Nat) :
    normalizeAll (normalizeNode u 0) (xs.map (fun x => .dict (dict x))) claimSeq =
      .error .runtimeError := by
  cases xs with
  | nil => exact absurd rfl hne
  | cons x xs => rfl

/-- What stands in a paragraph or a table: there has to be room for one call
    more, if there is anything. -/
theorem normalizeAll_leaves {α : Type} {dict : α → Dict} {norm : α → Norm} {xs : List α}
    (h : ∀ x ∈ xs, ∀ limit claimSeq, normalizeNode u (limit + 1) (dict x) claimSeq =
      .ok (norm x, claimSeq)) (limit claimSeq : Nat) :
    normalizeAll (normalizeNode u limit) (xs.map (fun x => .dict (dict x))) claimSeq =
      if (if xs = [] then 1 else 2) ≤ limit + 1 then .ok (xs.map norm, claimSeq)
      else .error .runtimeError := by
  by_cases hne : xs = []
  · subst hne
    rw [if_pos rfl, if_pos (by omega)]
    rfl
  · rw [if_neg hne]
    cases limit with
    | zero =>
        rw [if_neg (by omega)]
        exact normalizeAll_zero hne claimSeq
    | succ limit =>
        rw [if_pos (by omega)]
        exact normalizeAll_map (fun x hx => h x hx limit) claimSeq

theorem SectionContent.depth_pos (node : SectionContent) : 0 < node.depth := by
  cases node with
  | paragraph children => rw [depth]; split_ifs <;> decide
  | table headers rowClaims => rw [depth]; split_ifs <;> decide
  | «section» title level content => exact Nat.succ_pos _

/-- What follows an answer that there may be no room for. -/
theorem bind_room {α β : Type} {p q : Prop} [Decidable p] [Decidable q] {a : α} {b : β}
    {k : α → Except Exc β} (hk : p → k a = if q then .ok b else .error .runtimeError) :
    ((if p then .ok a else .error .runtimeError) >>= k) =
      if p ∧ q then .ok b else .error .runtimeError := by
  by_cases hp : p
  · rw [if_pos hp]
    refine (hk hp).trans ?_
    simp only [hp, true_and]
  · rw [if_neg hp, if_neg (fun h => hp h.1)]
    rfl

theorem normalizeNode_paragraph (hlower : LowerTypes u) {children : List ParagraphChild}
    (hfilled : ∀ child ∈ children, child.Filled) (limit claimSeq : Nat) :
    normalizeNode u (limit + 1) (SectionContent.toDict (.paragraph children)) claimSeq =
      if SectionContent.depth (.paragraph children) ≤ limit + 1 then
        .ok (contentNorm (.paragraph children), claimSeq)
      else .error .runtimeError := by
  have hkind : nodeKind u (SectionContent.toDict (.paragraph children)) = .paragraph := by
    rw [SectionContent.toDict]
    exact nodeKind_of_type hlower "paragraph" (by decide) _ rfl
  have hfield : pyIter (childrenField (SectionContent.toDict (.paragraph children))) =
      .ok (children.map (fun child => .dict child.toDict)) := by
    rw [SectionContent.toDict]
    -- An empty list is replaced by another one.
    cases children <;> rfl
  have hleaves := normalizeAll_leaves (fun child hchild =>
    normalizeNode_child hlower (hfilled child hchild)) limit claimSeq
  rw [normalizeNode, hkind]
  dsimp only
  rw [hfield]
  simp only [bind, Except.bind]
  rw [hleaves, SectionContent.depth, contentNorm]
  split_ifs <;> rfl

theorem normalizeNode_table (hlower : LowerTypes u) (headers : List String)
    {rowClaims : List RowClaim} (hfilled : ∀ row ∈ rowClaims, row.Filled)
    (limit claimSeq : Nat) :
    normalizeNode u (limit + 1) (SectionContent.toDict (.table headers rowClaims)) claimSeq =
      if SectionContent.depth (.table headers rowClaims) ≤ limit + 1 then
        .ok (contentNorm (.table headers rowClaims), claimSeq)
      else .error .runtimeError := by
  have hkind : nodeKind u (SectionContent.toDict (.table headers rowClaims)) = .table := by
    rw [SectionContent.toDict]
    exact nodeKind_of_type hlower "table" (by decide) _ rfl
  have hfield : pyIter (rowClaimsField (SectionContent.toDict (.table headers rowClaims))) =
      .ok (rowClaims.map (fun row => .dict row.toDict)) := by
    rw [SectionContent.toDict]
    rfl
  have hheaders : pyIter (pyOr (pyGet (SectionContent.toDict (.table headers rowClaims))
      "headers" .none) (.list [])) = .ok (headers.map .str) := by
    rw [SectionContent.toDict]
    cases headers <;> rfl
  have htexts : (headers.map Val.str).map (Val.toStr u) = headers := by
    rw [List.map_map]
    exact List.map_id _
  have hleaves := normalizeAll_leaves (fun row hrow =>
    normalizeNode_row hlower (hfilled row hrow)) limit claimSeq
  rw [normalizeNode, hkind]
  dsimp only
  rw [hfield]
  simp only [bind, Except.bind]
  rw [hleaves, SectionContent.depth, contentNorm]
  -- The headers are read after the rows, where these did not raise.
  by_cases hroom : (if rowClaims = [] then 1 else 2) ≤ limit + 1
  · rw [if_pos hroom, if_pos hroom]
    dsimp only
    rw [hheaders]
    dsimp only
    rw [htexts]
  · rw [if_neg hroom, if_neg hroom]

mutual

/-- A dumped tree is brought to its own shape where there is room for it, and
    raises where there is none. -/
theorem normalizeNode_toDict (hlower : LowerTypes u) (node : SectionContent)
    (hfilled : node.Filled) (limit claimSeq : Nat) :
    normalizeNode u limit node.toDict claimSeq =
      if node.depth ≤ limit then .ok (contentNorm node, claimSeq) else .error .runtimeError := by
  cases limit with
  | zero =>
      rw [if_neg (by have := node.depth_pos; omega)]
      rfl
  | succ limit =>
      cases node with
      | paragraph children =>
          rw [SectionContent.Filled] at hfilled
          exact normalizeNode_paragraph hlower hfilled limit claimSeq
      | table headers rowClaims =>
          rw [SectionContent.Filled] at hfilled
          exact normalizeNode_table hlower headers hfilled limit claimSeq
      | «section» title level content =>
          have hkind : nodeKind u (SectionContent.toDict (.section title level content)) =
              .section := by
            rw [SectionContent.toDict]
            exact nodeKind_of_type hlower "section" (by decide) _ rfl
          have hfield :
              pyIter (contentField (SectionContent.toDict (.section title level content))) =
                .ok (contentDicts content) := by
            rw [SectionContent.toDict]
            rfl
          have hlevel : intOr (SectionContent.toDict (.section title level content)) "level" 1 =
              .ok level := by
            rw [SectionContent.toDict]
            rfl
          have htitle : textOr u (SectionContent.toDict (.section title level content)) "title" "" =
              title := by
            rw [SectionContent.toDict]
            exact textOr_str rfl (.inr rfl)
          rw [SectionContent.Filled] at hfilled
          rw [normalizeNode, hkind]
          dsimp only
          rw [hfield]
          simp only [bind, Except.bind]
          -- A section has one call more than what stands in it.
          rw [normalizeAll_contentDicts hlower content hfilled limit claimSeq, SectionContent.depth,
            contentNorm]
          simp only [Nat.add_le_add_iff_right]
          split_ifs
          · dsimp only
            rw [hlevel, htitle]
          · rfl

theorem normalizeAll_contentDicts (hlower : LowerTypes u) (content : List SectionContent)
    (hfilled : contentsFilled content) (limit claimSeq : Nat) :
    normalizeAll (normalizeNode u limit) (contentDicts content) claimSeq =
      if contentsDepth content ≤ limit then .ok (contentNorms content, claimSeq)
      else .error .runtimeError := by
  cases content with
  | nil => rfl
  | cons node rest =>
      have hnode := normalizeNode_toDict hlower node hfilled.1 limit claimSeq
      have hrest := normalizeAll_contentDicts hlower rest hfilled.2 limit claimSeq
      rw [contentDicts, normalizeAll, hnode, contentsDepth, contentNorms]
      simp only [Nat.max_le]
      refine bind_room (fun _ => ?_)
      dsimp only
      rw [hrest]
      split_ifs <;> rfl

end

end Normalizing

section Validating

variable {env : ParserEnv}

/-- The schema takes an integer as it is. -/
def KeepsIntegers (env : ParserEnv) : Prop := ∀ i : Int, env.intField (.int i) = some i

/-- What is taken back one by one is so in a row. -/
theorem mapM_map_of_back {α β : Type} {f : β → Option α} {g : α → β} {xs : List α}
    (h : ∀ x ∈ xs, f (g x) = some x) : (xs.map g).mapM f = some xs := by
  induction xs with
  | nil => rfl
  | cons x xs ih =>
      rw [List.map_cons, List.mapM_cons, h x List.mem_cons_self,
        ih (fun y hy => h y (List.mem_cons_of_mem _ hy))]
      rfl

theorem validateChild_childNorm (hint : KeepsIntegers env) (child : ParagraphChild) :
    validateChild env (childNorm child) = some child := by
  cases child with
  | claim node =>
      have hcitations : node.norm.citationIndices.mapM env.intField = some node.citationIndices :=
        mapM_map_of_back (fun i _ => hint i)
      rw [childNorm, validateChild, hcitations]
      rfl
  | narrative text => rfl

theorem validateRow_norm (hint : KeepsIntegers env) (row : RowClaim) :
    validateRow env (.tableRowClaim row.norm) = some row := by
  have hcitations : row.norm.citationIndices.mapM env.intField = some row.citationIndices :=
    mapM_map_of_back (fun i _ => hint i)
  rw [validateRow, hcitations]
  rfl

mutual

/-- The schema gives every node back. -/
theorem validateContent_contentNorm (hint : KeepsIntegers env) (node : SectionContent) :
    validateContent env (contentNorm node) = some node := by
  cases node with
  | paragraph children =>
      rw [contentNorm, validateContent,
        mapM_map_of_back (fun child _ => validateChild_childNorm hint child)]
      rfl
  | table headers rowClaims =>
      rw [contentNorm, validateContent,
        mapM_map_of_back (fun row _ => validateRow_norm hint row)]
      rfl
  | «section» title level content =>
      rw [contentNorm, validateContent, validateContents_contentNorms hint content]
      rfl

theorem validateContents_contentNorms (hint : KeepsIntegers env) (content : List SectionContent) :
    validateContents env (contentNorms content) = some content := by
  cases content with
  | nil => rfl
  | cons node rest =>
      rw [contentNorms, validateContents, validateContent_contentNorm hint node,
        validateContents_contentNorms hint rest]
      rfl

end

/-- What the parser makes of the object a text holds, if that is a dumped tree. -/
theorem parse_of_extractJson {ast : AnswerAst} (hlower : LowerTypes env.unicode)
    (hint : KeepsIntegers env) (hfilled : ast.Filled) {text : String}
    (h : extractJson env text = .ok ast.toDict) :
    parse env text =
      if ast.depth ≤ env.recursionLimit then .ok ast else .error .runtimeError := by
  have hroot := normalizeNode_toDict hlower (.section ast.title ast.level ast.content)
    hfilled.2 env.recursionLimit 0
  have hdepth : (SectionContent.section ast.title ast.level ast.content).depth = ast.depth := rfl
  have hversion : textOr env.unicode ast.toDict "schema_version" "1.0" = ast.schemaVersion :=
    textOr_str rfl (.inl hfilled.1)
  rw [hdepth] at hroot
  rw [parse, h]
  simp only [bind, Except.bind]
  -- The dumped tree has its root under the first name.
  rw [normalize, hversion, normalizeRoot, show rootsOf ast.toDict = .one
    (SectionContent.toDict (.section ast.title ast.level ast.content)) from rfl]
  dsimp only
  rw [hroot]
  by_cases hroom : ast.depth ≤ env.recursionLimit
  · rw [if_pos hroom, if_pos hroom]
    simp only [bind, Except.bind, pure, Except.pure]
    rw [contentNorm, validate, validateContents_contentNorms hint]
    rfl
  · rw [if_neg hroom, if_neg hroom]
    rfl

end Validating

section Fences

variable {env : ParserEnv} {ast : AnswerAst} {s : String}

/-- A text that a tree is written as: it reads as what the tree is dumped to,
    stands in its braces, and has no carriage return, which JSON writes as an
    escape. -/
structure Serialisation (env : ParserEnv) (ast : AnswerAst) (s : String) : Prop where
  loads : Json.loads env.readFloat env.decodeDepth s = .ok (.dict ast.toDict)
  opens : s.toList.head? = some '\x7b'
  closes : s.toList.getLast? = some '\x7d'
  noReturn : '\r' ∉ s.toList

/-- The text in a fence. -/
def fenced (s : String) : String := "```json\n" ++ s ++ "\n```"

theorem returnFree_child (child : ParagraphChild) : Json.ReturnFree (.dict child.toDict) := by
  cases child with
  | claim node =>
      refine Json.returnFree_dict ?_
      simp only [ParagraphChild.toDict, ClaimNode.toDict, List.forall_mem_cons]
      exact ⟨Json.returnFree_str _, Json.returnFree_str _, Json.returnFree_str _,
        Json.returnFree_str _, Json.returnFree_map Json.returnFree_int _, Json.returnFree_str _,
        Json.returnFree_bool _, Json.returnFree_str _, Json.returnFree_str _,
        Json.returnFree_bool _, nofun⟩
  | narrative text =>
      refine Json.returnFree_dict ?_
      simp only [ParagraphChild.toDict, List.forall_mem_cons]
      exact ⟨Json.returnFree_str _, Json.returnFree_str _, nofun⟩

theorem returnFree_row (row : RowClaim) : Json.ReturnFree (.dict row.toDict) := by
  have hvalues : Json.ReturnFree (.dict (row.rowValues.map (fun kv => (kv.1, .str kv.2)))) := by
    refine Json.returnFree_dict (fun kv hkv => ?_)
    rcases List.mem_map.mp hkv with ⟨kv', -, rfl⟩
    exact Json.returnFree_str _
  refine Json.returnFree_dict ?_
  simp only [RowClaim.toDict, List.forall_mem_cons]
  exact ⟨Json.returnFree_str _, Json.returnFree_str _, Json.returnFree_int _, hvalues,
    Json.returnFree_map Json.returnFree_int _, Json.returnFree_str _, nofun⟩

mutual

theorem returnFree_content (node : SectionContent) : Json.ReturnFree (.dict node.toDict) := by
  refine Json.returnFree_dict ?_
  cases node with
  | paragraph children =>
      simp only [SectionContent.toDict, List.forall_mem_cons]
      exact ⟨Json.returnFree_str _, Json.returnFree_map returnFree_child _, nofun⟩
  | table headers rowClaims =>
      simp only [SectionContent.toDict, List.forall_mem_cons]
      exact ⟨Json.returnFree_str _, Json.returnFree_map Json.returnFree_str _,
        Json.returnFree_map returnFree_row _,
        nofun⟩
  | «section» title level content =>
      simp only [SectionContent.toDict, List.forall_mem_cons]
      exact ⟨Json.returnFree_str _, Json.returnFree_str _, Json.returnFree_int _,
        Json.returnFree_list (returnFree_contents content), nofun⟩

theorem returnFree_contents (content : List SectionContent) :
    ∀ v ∈ contentDicts content, Json.ReturnFree v := by
  cases content with
  | nil => exact nofun
  | cons node rest =>
      rw [contentDicts, List.forall_mem_cons]
      exact ⟨returnFree_content node, returnFree_contents rest⟩

end

/-- What a tree is written as, with the other characters raw, is such a text
    where the decoder reads its numbers and goes as deep. -/
theorem serialisation_dumps (h : Json.Plain env.readFloat env.decodeDepth (.dict ast.toDict)) :
    Serialisation env ast (Val.dumps (.dict ast.toDict)) where
  loads := Json.loads_dumps h
  opens := by
    rw [Val.dumps, String.toList_append, String.toList_append]
    rfl
  closes := by
    rw [Val.dumps, String.toList_append, List.getLast?_append_of_ne_nil]
    · rfl
    · exact List.cons_ne_nil _ _
  noReturn := by
    refine Json.returnFree_dict ?_
    simp only [AnswerAst.toDict, List.forall_mem_cons]
    exact ⟨Json.returnFree_str _, returnFree_content _, nofun⟩

/-- Without a fence the text is taken as it is. -/
theorem withoutFence_of_braces (hopens : s.toList.head? = some '\x7b')
    (hcloses : s.toList.getLast? = some '\x7d') : withoutFence s = s := by
  have hstrip : strip s = s := strip_of_ends hopens (by decide) hcloses (by decide)
  have hstart : startsWith s "```" = false := by
    rw [startsWith, decide_eq_false_iff_not]
    rintro ⟨rest, hrest⟩
    rw [← hrest] at hopens
    cases hopens
  rw [withoutFence, hstrip, hstart]
  rfl

theorem toList_fenced (s : String) :
    (fenced s).toList = "```json\n".toList ++ (s.toList ++ '\n' :: "```".toList) := by
  rw [fenced, String.toList_append, String.toList_append, List.append_assoc]
  rfl

theorem linesFrom_fence (rest : List Char) :
    linesFrom [] ("```json\n".toList ++ rest) = "```json".toList :: linesFrom [] rest := by
  rfl

/-- What is taken out of a fence is the text with line feeds for its line
    ends. -/
theorem withoutFence_fenced (hreturn : '\r' ∉ s.toList) :
    withoutFence (fenced s) = String.ofList (s.toList.map Json.feed) := by
  have hstrip : strip (fenced s) = fenced s := by
    refine strip_of_ends (c := '\x60') (d := '\x60') ?_ (by decide) ?_ (by decide)
    · rw [toList_fenced]
      rfl
    · rw [toList_fenced, List.getLast?_append_of_ne_nil, List.getLast?_append_of_ne_nil]
      · rfl
      · exact List.cons_ne_nil _ _
      · exact List.append_ne_nil_of_right_ne_nil _ (List.cons_ne_nil _ _)
  have hstart : startsWith (fenced s) "```" = true := by
    rw [startsWith, decide_eq_true_eq, toList_fenced]
    exact ⟨"json\n".toList ++ (s.toList ++ '\n' :: "```".toList), rfl⟩
  rcases Json.linesFrom_append_line hreturn [] "```".toList with ⟨ls, hls, -, hjoin⟩
  -- The first line is the fence and the last one closes it.
  have hlines : (splitlines (fenced s)).drop 1 = ls.map String.ofList ++ ["```"] := by
    rw [splitlines, toList_fenced, linesFrom_fence, hls, List.map_cons, List.drop_one,
      List.tail_cons, List.map_append]
    rfl
  have hclosed : startsWith (strip "```") "```" = true := by decide
  rw [withoutFence, hstrip, hstart]
  dsimp only
  rw [if_pos rfl, hlines, List.getLast?_concat, Option.map_some, Option.getD_some, hclosed,
    if_pos rfl, List.dropLast_concat]
  exact String.toList_injective (hjoin.trans String.toList_ofList.symm)

theorem extractJson_of_decodeDict {text : String} {payload : Dict}
    (h : decodeDict env (withoutFence text) = .ok (some payload)) :
    extractJson env text = .ok payload := by
  rw [extractJson]
  simp only [h, bind, Except.bind, pure, Except.pure]

/-- A text in braces is its own part in braces. -/
theorem bracedPart_of_braces (hopens : s.toList.head? = some '\x7b')
    (hcloses : s.toList.getLast? = some '\x7d') : bracedPart s = some s := by
  rcases List.head?_eq_some_iff.mp hopens with ⟨cs, hcs⟩
  rcases List.getLast?_eq_some_iff.mp hcloses with ⟨ds, hds⟩
  have hstart : s.toList.findIdx? (· = '\x7b') = some 0 := by
    rw [hcs]
    rfl
  have hend : s.toList.reverse.findIdx? (· = '\x7d') = some 0 := by
    rw [hds, List.reverse_append]
    rfl
  -- The two braces are not one character.
  have hlength : 1 < s.toList.length := by
    cases ds with
    | nil =>
        rw [hcs] at hds
        cases hds
    | cons d ds =>
        rw [hds]
        simp
  have hslice : slice s 0 ((s.toList.length - 1 - 0 : Nat) + 1 : Int) = s := by
    have hindex : sliceIndex s.toList.length ((s.toList.length - 1 - 0 : Nat) + 1 : Int) =
        s.toList.length := by
      rw [sliceIndex, if_neg (by omega)]
      omega
    rw [slice, hindex]
    simp [sliceIndex]
  rw [bracedPart]
  simp only [hstart, hend]
  rw [if_pos (by omega), Nat.cast_zero, hslice]

/-- A text in braces that is no JSON holds no object. -/
theorem extractJson_of_refused {text : String} (hfence : withoutFence text = s)
    (hopens : s.toList.head? = some '\x7b') (hcloses : s.toList.getLast? = some '\x7d')
    (h : Json.loads env.readFloat env.decodeDepth s = .error .decode) :
    extractJson env text = .error .valueError := by
  have hdecode : decodeDict env s = .ok none := by rw [decodeDict, h]
  rw [extractJson, hfence]
  simp only [hdecode, bracedPart_of_braces hopens hcloses, bind, Except.bind]

theorem extractJson_bare (h : Serialisation env ast s) :
    extractJson env s = .ok ast.toDict := by
  refine extractJson_of_decodeDict ?_
  rw [withoutFence_of_braces h.opens h.closes, decodeDict, h.loads]

theorem extractJson_fenced (h : Serialisation env ast s)
    (hplain : ∀ c ∈ s.toList, Json.isOddEnd c = false) :
    extractJson env (fenced s) = .ok ast.toDict := by
  -- Nothing is replaced.
  have hsame : String.ofList (s.toList.map Json.feed) = s := by
    rw [List.map_congr_left (fun c hc => Json.feed_of_not_odd (hplain c hc)), List.map_id',
      String.ofList_toList]
  refine extractJson_of_decodeDict ?_
  rw [withoutFence_fenced h.noReturn, hsame, decodeDict, h.loads]

/-- A fence takes a text apart that has other line ends. -/
theorem extractJson_fenced_of_odd (h : Serialisation env ast s)
    (hodd : ∃ c ∈ s.toList, Json.isOddEnd c = true) :
    extractJson env (fenced s) = .error .valueError := by
  have hopens : (s.toList.map Json.feed).head? = some '\x7b' := by
    rw [List.head?_map, h.opens]
    rfl
  have hcloses : (s.toList.map Json.feed).getLast? = some '\x7d' := by
    rw [List.getLast?_map, h.closes]
    rfl
  refine extractJson_of_refused (withoutFence_fenced h.noReturn) ?_ ?_
    (Json.loads_map_feed env.readFloat h.loads hodd)
  · rw [String.toList_ofList]
    exact hopens
  · rw [String.toList_ofList]
    exact hcloses

/-- A tree comes back from its text where there is room for its depth, and from
    a fence where its text has no line ends besides. -/
theorem parse_serialisation_iff (hlower : LowerTypes env.unicode) (hint : KeepsIntegers env)
    (hfilled : ast.Filled) (h : Serialisation env ast s) :
    (parse env s = .ok ast ↔ ast.depth ≤ env.recursionLimit) ∧
      (parse env (fenced s) = .ok ast ↔
        ast.depth ≤ env.recursionLimit ∧ ∀ c ∈ s.toList, Json.isOddEnd c = false) := by
  constructor
  · rw [parse_of_extractJson hlower hint hfilled (extractJson_bare h)]
    split_ifs with hroom
    · exact iff_of_true rfl hroom
    · exact iff_of_false nofun hroom
  · by_cases hplain : ∀ c ∈ s.toList, Json.isOddEnd c = false
    · rw [parse_of_extractJson hlower hint hfilled (extractJson_fenced h hplain)]
      split_ifs with hroom
      · exact iff_of_true rfl ⟨hroom, hplain⟩
      · exact iff_of_false nofun (fun hboth => hroom hboth.1)
    · have hodd : ∃ c ∈ s.toList, Json.isOddEnd c = true := by
        simpa only [not_forall, Bool.not_eq_false, exists_prop] using hplain
      refine iff_of_false ?_ (fun hboth => hplain hboth.2)
      rw [parse, extractJson_fenced_of_odd h hodd]
      exact nofun

/-- An interpreter with room for fifty nested calls. -/
def storedEnv : ParserEnv where
  unicode := default
  readFloat := fun _ => none
  decodeDepth := 50
  recursionLimit := 50
  intField := fun v =>
    match v with
    | .int i => some i
    | _ => none

theorem lowerTypes_storedEnv : LowerTypes storedEnv.unicode := by
  have hlower : ∀ name ∈ ["section", "paragraph", "table", "table_row_claim", "claim",
      "narrative"], name.toList.map Char.toLower = name.toList := by decide
  intro name hname
  refine String.toList_injective ?_
  rw [← hlower name hname]
  exact String.toList_map

theorem keepsIntegers_storedEnv : KeepsIntegers storedEnv := fun _ => rfl

/-- A section with a paragraph and a table. -/
def quarterAst : AnswerAst where
  title := "Q3"
  content :=
    [.paragraph [.claim { claimId := "c1", text := "Sales rose", citationIndices := [1] }],
      .table ["m"] [{ claimId := "c2", rowValues := [("m", "7")] }]]

theorem serialisation_quarterAst :
    Serialisation storedEnv quarterAst (Val.dumps (.dict quarterAst.toDict)) := by
  refine serialisation_dumps ?_
  simp [storedEnv, quarterAst, AnswerAst.toDict, SectionContent.toDict, contentDicts,
    ParagraphChild.toDict, ClaimNode.toDict, RowClaim.toDict, Json.Plain]
  decide

/-- The text is in ASCII. -/
theorem plain_quarterAst :
    ∀ c ∈ (Val.dumps (.dict quarterAst.toDict)).toList, Json.isOddEnd c = false := by
  simp only [quarterAst, AnswerAst.toDict, SectionContent.toDict, contentDicts,
    ParagraphChild.toDict, ClaimNode.toDict, RowClaim.toDict, List.map_cons, List.map_nil,
    Val.dumps, Val.dumpsDict, Val.dumpsList, join, jsonStr, String.toList_append,
    String.toList_ofList]
  decide +kernel

theorem filled_quarterAst : quarterAst.Filled := by
  simp [quarterAst, AnswerAst.Filled, contentsFilled, SectionContent.Filled,
    ParagraphChild.Filled]
  exact ⟨⟨by decide, by decide, by decide, by decide⟩, ⟨by decide, by decide⟩⟩

theorem parse_serialisation_iff_quarter :
    parse storedEnv (Val.dumps (.dict quarterAst.toDict)) = .ok quarterAst ∧
      parse storedEnv (fenced (Val.dumps (.dict quarterAst.toDict))) = .ok quarterAst := by
  have h := parse_serialisation_iff lowerTypes_storedEnv keepsIntegers_storedEnv
    filled_quarterAst serialisation_quarterAst
  exact ⟨h.1.mpr (by decide), h.2.mpr ⟨by decide, plain_quarterAst⟩⟩

/-- Connecting text with a line separator. -/
def separatorAst : AnswerAst where
  content := [.paragraph [.narrative "a\u2028b"]]

/-- It is dumped as it is, and does not come back from a fence. -/
theorem parse_fenced_separator :
    separatorAst.Filled ∧
      Serialisation storedEnv separatorAst (Val.dumps (.dict separatorAst.toDict)) ∧
      parse storedEnv (Val.dumps (.dict separatorAst.toDict)) = .ok separatorAst ∧
      parse storedEnv (fenced (Val.dumps (.dict separatorAst.toDict))) =
        .error .valueError := by
  have hfilled : separatorAst.Filled := by
    simp [separatorAst, AnswerAst.Filled, contentsFilled, SectionContent.Filled,
      ParagraphChild.Filled]
  have hwritten : Serialisation storedEnv separatorAst (Val.dumps (.dict separatorAst.toDict)) := by
    refine serialisation_dumps ?_
    simp [storedEnv, separatorAst, AnswerAst.toDict, SectionContent.toDict, contentDicts,
      ParagraphChild.toDict, Json.Plain]
    decide
  refine ⟨hfilled, hwritten, ?_, ?_⟩
  · rw [parse_of_extractJson lowerTypes_storedEnv keepsIntegers_storedEnv hfilled
      (extractJson_bare hwritten)]
    exact if_pos (by decide)
  · have hodd : '\u2028' ∈ (Val.dumps (.dict separatorAst.toDict)).toList := by
      simp only [separatorAst, AnswerAst.toDict, SectionContent.toDict, contentDicts,
        ParagraphChild.toDict, List.map_cons, List.map_nil, Val.dumps, Val.dumpsDict,
        Val.dumpsList, join, jsonStr, String.toList_append, String.toList_ofList]
      decide
    rw [parse, extractJson_fenced_of_odd hwritten ⟨_, hodd, by decide⟩]
    rfl

end Fences

end AgenticRag
