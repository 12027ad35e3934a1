import AgenticRag.Core.Claim

/-!
# The Answer Tree

The structured answer: a section holds paragraphs, tables and further
sections, a paragraph holds claims and connecting text, and a table holds
rows that are claims of their own. The renderer writes the claims and rows
marked as supported and drops the others; a table with no row left is dropped
whole.

The tree is parsed before its claims are verified, so its marks are behind.
`syncClaimStatuses` brings the verified status of each claim into the tree,
by claim id, before it is rendered.

The status of a node is text, as the schema has it, and only the text
`supported` lets a node through.

## Main definitions

* `ClaimNode`, `RowClaim`, `ParagraphChild`, `SectionContent`, `AnswerAst`:
  The tree.
* `buildClaimStatusMap`, `syncClaimStatuses`: Bringing the marks up to date.
-/

namespace AgenticRag

open Py Ordered

/-- The status of a claim that is shown. -/
def statusSupported : String := "supported"

/-- A claim in a paragraph. What the model declares about it is kept for the
    audit; the status and the last two fields are filled in by the server. -/
structure ClaimNode where
  claimId : String
  text : String
  citationIndices : List Int := []
  finalStatus : String := "pending"
  schemaVersion : String := "1.0"
  modelClaimType : String := "statement"
  modelIsRequired : Bool := false
  serverClaimType : String := ""
  serverIsRequired : Bool := false
  deriving DecidableEq, Repr

/-- A row of a table, itself a claim. -/
structure RowClaim where
  claimId : String
  rowIndex : Int := 0
  rowValues : List (String × String) := []
  citationIndices : List Int := []
  finalStatus : String := "pending"
  deriving DecidableEq, Repr

/-- What a paragraph may hold. -/
inductive ParagraphChild where
  | claim (node : ClaimNode)
  | narrative (text : String)
  deriving DecidableEq, Repr

/-- What a section may hold. A claim stands in a paragraph, never in a
    section directly. -/
inductive SectionContent where
  | paragraph (children : List ParagraphChild)
  | table (headers : List String) (rowClaims : List RowClaim)
  | section (title : String) (level : Int) (content : List SectionContent)

/-- The answer: one section at the root. -/
structure AnswerAst where
  title : String := ""
  level : Int := 1
  content : List SectionContent := []
  schemaVersion : String := "1.0"

section Dumping

/-- A claim as a dictionary. -/
def ClaimNode.toDict (node : ClaimNode) : Dict :=
  [("node_type", .str "claim"), ("schema_version", .str node.schemaVersion),
    ("claim_id", .str node.claimId), ("text", .str node.text),
    ("citation_indices", .list (node.citationIndices.map .int)),
    ("model_claim_type", .str node.modelClaimType),
    ("model_is_required", .bool node.modelIsRequired), ("final_status", .str node.finalStatus),
    ("server_claim_type", .str node.serverClaimType),
    ("server_is_required", .bool node.serverIsRequired)]

/-- A row as a dictionary. -/
def RowClaim.toDict (row : RowClaim) : Dict :=
  [("node_type", .str "table_row_claim"), ("claim_id", .str row.claimId),
    ("row_index", .int row.rowIndex),
    ("row_values", .dict (row.rowValues.map (fun kv => (kv.1, .str kv.2)))),
    ("citation_indices", .list (row.citationIndices.map .int)),
    ("final_status", .str row.finalStatus)]

/-- A part of a paragraph as a dictionary. -/
def ParagraphChild.toDict : ParagraphChild → Dict
  | .claim node => node.toDict
  | .narrative text => [("node_type", .str "narrative"), ("text", .str text)]

mutual

/-- A node as a dictionary. -/
def SectionContent.toDict : SectionContent → Dict
  | .paragraph children =>
      [("node_type", .str "paragraph"),
        ("children", .list (children.map (fun child => .dict child.toDict)))]
  | .table headers rowClaims =>
      [("node_type", .str "table"), ("headers", .list (headers.map .str)),
        ("row_claims", .list (rowClaims.map (fun row => .dict row.toDict)))]
  | .section title level content =>
      [("node_type", .str "section"), ("title", .str title), ("level", .int level),
        ("content", .list (contentDicts content))]

/-- Nodes as dictionaries. -/
def contentDicts : List SectionContent → List Val
  | [] => []
  | node :: rest => .dict node.toDict :: contentDicts rest

end

/-- The tree as a mapping, `to_dict`. -/
def AnswerAst.toDict (ast : AnswerAst) : Dict :=
  [("schema_version", .str ast.schemaVersion),
    ("root", .dict (SectionContent.toDict (.section ast.title ast.level ast.content)))]

end Dumping

section Rendering

/-- The markers of citations. -/
def citationText (indices : List Int) : String :=
  String.join (indices.map (fun i => "[" ++ toString i ++ "]"))

/-- A child of a paragraph as it is written, if it is. -/
def renderChild : ParagraphChild → Option String
  | .claim node =>
      if node.finalStatus = statusSupported then
        some (node.text ++ citationText node.citationIndices)
      else none
  | .narrative text => some text

/-- A paragraph as text. -/
def renderParagraph (children : List ParagraphChild) : String :=
  join " " (children.filterMap renderChild)

/-- A row as a line with its markers. -/
def renderRow (headers : List String) (row : RowClaim) : String :=
  "| " ++ join " | " (headers.map (fun h => (row.rowValues.lookup h).getD "")) ++ " |" ++
    citationText row.citationIndices

/-- A table with the rows that are supported. -/
def renderTable (headers : List String) (rowClaims : List RowClaim) : String :=
  let visibleRows := rowClaims.filter (fun row => row.finalStatus = statusSupported)
  if visibleRows.isEmpty then ""
  else join "\n" (
    ["| " ++ join " | " headers ++ " |", "| " ++ join " | " (headers.map (fun _ => "---")) ++ " |"] ++
    visibleRows.map (renderRow headers))

/-- The heading of a section, if it has a title. -/
def renderHeading (title : String) (level : Int) : List String :=
  if title = "" then []
  else [String.ofList (List.replicate (max level 1).toNat '#') ++ " " ++ title]

/-- Join the parts that are not empty. -/
def joinParts (parts : List String) : String :=
  join "\n\n" (parts.filter (· ≠ ""))

mutual

/-- A node as text. -/
def renderContent : SectionContent → String
  | .paragraph children => renderParagraph children
  | .table headers rowClaims => renderTable headers rowClaims
  | .section title level content => joinParts (renderHeading title level ++ renderContents content)

/-- Nodes as texts. -/
def renderContents : List SectionContent → List String
  | [] => []
  | node :: rest => renderContent node :: renderContents rest

end

/-- An answer as text. -/
def AnswerAst.render (ast : AnswerAst) : String :=
  strip (renderContent (.section ast.title ast.level ast.content))

end Rendering

section Syncing

/-- A status as it is written. -/
def ClaimFinalStatus.text : ClaimFinalStatus → String
  | .pending => "pending"
  | .supported => "supported"
  | .contradicted => "contradicted"
  | .insufficient => "insufficient"
  | .verifierError => "verifier_error"
  | .truncated => "truncated"

/-- The verified status of each claim, by claim id. -/
def buildClaimStatusMap (claims : List Claim) : List (String × String) :=
  dictOf (claims.map (fun c => (c.claimId, c.finalStatus.text)))

/-- The status a node carries after the sync. -/
def syncedStatus (statusMap : List (String × String)) (claimId finalStatus : String) : String :=
  (statusMap.lookup claimId).getD finalStatus

/-- The status of a part of a paragraph, set anew. -/
def syncChild (statusMap : List (String × String)) : ParagraphChild → ParagraphChild
  | .claim node =>
      .claim { node with finalStatus := syncedStatus statusMap node.claimId node.finalStatus }
  | .narrative text => .narrative text

/-- The status of a row, set anew. -/
def syncRow (statusMap : List (String × String)) (row : RowClaim) : RowClaim :=
  { row with finalStatus := syncedStatus statusMap row.claimId row.finalStatus }

mutual

/-- The statuses in a node, set anew. -/
def syncContent (statusMap : List (String × String)) : SectionContent → SectionContent
  | .paragraph children => .paragraph (children.map (syncChild statusMap))
  | .table headers rowClaims => .table headers (rowClaims.map (syncRow statusMap))
  | .section title level content => .section title level (syncContents statusMap content)

/-- The statuses in nodes, set anew. -/
def syncContents (statusMap : List (String × String)) :
    List SectionContent → List SectionContent
  | [] => []
  | node :: rest => syncContent statusMap node :: syncContents statusMap rest

end

/-- The statuses in an answer, set anew. -/
def syncClaimStatuses (statusMap : List (String × String)) (ast : AnswerAst) : AnswerAst :=
  { ast with content := syncContents statusMap ast.content }

end Syncing

end AgenticRag
