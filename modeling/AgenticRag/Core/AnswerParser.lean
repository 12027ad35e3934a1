import AgenticRag.Core.AnswerAst
import AgenticRag.Lib.Json

/-!
# The Answer Parser

From the text a model wrote to the answer tree. The parser takes the JSON out
of the text, brings it to the shape of the schema, and has the schema check
the result.

The middle step is where the names the prompt uses become those of the schema
and what the model left out is filled in. A node without a type is given one
by the fields it has, and one of a type the parser does not know becomes
connecting text. A claim or a row without an id is given the next one of a
sequence that starts over with every text. A field the model did write is
carried over.

What comes out of the middle step is not a tree of the schema yet: it may put
a claim straight into a section, and it hands on the ids, the citations and
the declared type of a claim as they are. `Norm` is this shape. The schema
puts the nodes in their places and asks for text and for integers.

The tables of the Unicode database, the float reader, the room the interpreter
has for nested calls, and the integers the schema takes a value for are
parameters. The guard the schema has of its own against deep trees is not
modelled, so the model accepts those texts as well.

## Main definitions

* `ParserEnv`: What the parser takes from elsewhere.
* `parse`: The whole parser.
-/

namespace AgenticRag

open Py Ordered

/-- What the parser takes from elsewhere: the Unicode database, the values of
    float literals, how deep containers and nodes may be nested, and the
    integer the schema reads off a value. -/
structure ParserEnv where
  unicode : Unicode
  readFloat : String → Option (ℚ × String)
  decodeDepth : Nat
  recursionLimit : Nat
  intField : Val → Option Int

section Extraction

/-- The text without the fence around it. -/
def withoutFence (text : String) : String :=
  let stripped := strip text
  if startsWith stripped "```" then
    let lines := (splitlines stripped).drop 1
    let closed := (lines.getLast?.map (fun line => startsWith (strip line) "```")).getD false
    join "\n" (if closed then lines.dropLast else lines)
  else stripped

/-- The part of a text from its first opening brace to its last closing
    one. -/
def bracedPart (s : String) : Option String :=
  let cs := s.toList
  match cs.findIdx? (· = '\x7b'), cs.reverse.findIdx? (· = '\x7d') with
  | some start, some fromEnd =>
      let stop := cs.length - 1 - fromEnd
      if start < stop then some (slice s start (stop + 1)) else none
  | _, _ => none

/-- Decode a text that should hold an object. Only the failures of the decoder
    itself are caught. -/
def decodeDict (env : ParserEnv) (s : String) : Except Exc (Option Dict) :=
  match Json.loads env.readFloat env.decodeDepth s with
  | .ok (.dict payload) => .ok (some payload)
  | .ok _ => .ok none
  | .error .decode => .ok none
  | .error .digits => .error .valueError
  | .error .recursion => .error .runtimeError
  | .error .fuel => .error .runtimeError

/-- The object a text holds: the text as a whole, or its part in braces. -/
def extractJson (env : ParserEnv) (text : String) : Except Exc Dict := do
  let candidate := withoutFence text
  match ← decodeDict env candidate with
  | some payload => return payload
  | none =>
      match bracedPart candidate with
      | none => .error .valueError
      | some part =>
          match ← decodeDict env part with
          | some payload => return payload
          | none => .error .valueError

end Extraction

section Normalizing

/-- The types of a node. -/
inductive NodeKind where
  | section
  | paragraph
  | table
  | tableRowClaim
  | claim
  | narrative
  deriving DecidableEq, Repr

/-- The kind of node a type names. -/
def kindOfText : String → NodeKind
  | "section" => .section
  | "paragraph" => .paragraph
  | "table" => .table
  | "table_row_claim" => .tableRowClaim
  | "claim" => .claim
  | _ => .narrative

/-- The type of a node: the one it states, or the one its fields show. -/
def nodeKind (u : Unicode) (node : Dict) : NodeKind :=
  let rawType := pyOr (pyOr (pyGet node "type" .none) (pyGet node "node_type" .none)) (.str "")
  let ntype := strip (u.lower (rawType.toStr u))
  let has := fun key : String => (node.lookup key).isSome
  if ntype ≠ "" then kindOfText ntype
  -- The order decides for a node with the fields of several.
  else if has "paragraphs" || has "children" then .paragraph
  else if has "row_claims" then .table
  else if has "row_index" then .tableRowClaim
  else if has "content" || has "title" then .section
  else if has "claim_id" || has "citation_indices" then .claim
  else .narrative

/-- What `node.get(key) or default` gives as a text. -/
def textOr (u : Unicode) (node : Dict) (key default : String) : String :=
  (pyOr (pyGet node key .none) (.str default)).toStr u

/-- An integer field, where null stands for the default. -/
def intOr (node : Dict) (key : String) (default : Int) : Except Exc Int :=
  match pyGet node key (.int default) with
  | .none => .ok default
  | v => v.toInt

/-- The id of the claim of a number. -/
def genClaimId (claimSeq : Nat) : String :=
  let ds := Nat.toDigits 10 claimSeq
  "claim_" ++ String.ofList (List.replicate (3 - ds.length) '0' ++ ds)

/-- The id of a claim and the last number given out: a node without one of its
    own takes the next. -/
def takeClaimId (node : Dict) (claimSeq : Nat) : Val × Nat :=
  let written := pyGet node "claim_id" .none
  if written.truthy then (written, claimSeq)
  else (.str (genClaimId (claimSeq + 1)), claimSeq + 1)

/-- A row before the schema has seen it. -/
structure NormRow where
  claimId : Val
  rowIndex : Int
  rowValues : List (String × String)
  citationIndices : List Val
  finalStatus : String

/-- A claim before the schema has seen it. -/
structure NormClaim where
  schemaVersion : String
  claimId : Val
  text : String
  citationIndices : List Val
  modelClaimType : Val
  modelIsRequired : Bool
  finalStatus : String
  serverClaimType : String
  serverIsRequired : Bool

/-- A node before the schema has seen it. -/
inductive Norm where
  | section (title : String) (level : Int) (content : List Norm)
  | paragraph (children : List Norm)
  | table (headers : List String) (rowClaims : List Norm)
  | tableRowClaim (row : NormRow)
  | claim (node : NormClaim)
  | narrative (text : String)

/-- The citations a node declares. -/
def citationsOf (node : Dict) : Except Exc (List Val) :=
  pyIter (pyOr (pyGet node "citation_indices" .none) (.list []))

/-- A row from what the model wrote. -/
def normalizeRow (u : Unicode) (node : Dict) (claimSeq : Nat) : Except Exc (NormRow × Nat) := do
  let (claimId, claimSeq) := takeClaimId node claimSeq
  let rowIndex ← intOr node "row_index" 0
  let rowValues ← asMapping (pyOr (pyGet node "row_values" .none) (.dict []))
  let citationIndices ← citationsOf node
  return (
    { claimId
      rowIndex
      rowValues := rowValues.map (fun kv => (kv.1, kv.2.toStr u))
      citationIndices
      finalStatus := textOr u node "final_status" "pending" }, claimSeq)

/-- A claim from what the model wrote. -/
def normalizeClaim (u : Unicode) (node : Dict) (claimSeq : Nat) :
    Except Exc (NormClaim × Nat) := do
  let (claimId, claimSeq) := takeClaimId node claimSeq
  let citationIndices ← citationsOf node
  return (
    { schemaVersion := textOr u node "schema_version" "1.0"
      claimId
      text := textOr u node "text" ""
      citationIndices
      modelClaimType :=
        pyOr (pyOr (pyGet node "claim_type" .none) (pyGet node "model_claim_type" .none))
          (.str "statement")
      modelIsRequired :=
        (pyGet node "is_required" (pyGet node "model_is_required" (.bool false))).truthy
      finalStatus := textOr u node "final_status" "pending"
      serverClaimType := textOr u node "server_claim_type" ""
      serverIsRequired := (pyGet node "server_is_required" (.bool false)).truthy }, claimSeq)

/-- Where the nodes below a section, a paragraph and a table are. -/
def contentField (node : Dict) : Val := pyGet node "content" (.list [])

/-- Where a node keeps its children. -/
def childrenField (node : Dict) : Val :=
  pyOr (pyOr (pyGet node "paragraphs" .none) (pyGet node "children" .none)) (.list [])

/-- Where a table keeps its rows. -/
def rowClaimsField (node : Dict) : Val := pyGet node "row_claims" (.list [])

/-- Bring every object of a list to its shape, in order. What is no object is
    passed over. -/
def normalizeAll (normalizeOne : Dict → Nat → Except Exc (Norm × Nat)) :
    List Val → Nat → Except Exc (List Norm × Nat)
  | [], claimSeq => .ok ([], claimSeq)
  | .dict node :: vs, claimSeq => do
      let (x, claimSeq) ← normalizeOne node claimSeq
      let (xs, claimSeq) ← normalizeAll normalizeOne vs claimSeq
      .ok (x :: xs, claimSeq)
  | _ :: vs, claimSeq => normalizeAll normalizeOne vs claimSeq

/-- Bring a node and the nodes below it to the shape of the schema. Nodes
    nested deeper than the interpreter goes raise. -/
def normalizeNode (u : Unicode) : Nat → Dict → Nat → Except Exc (Norm × Nat)
  | 0, _, _ => .error .runtimeError
  | limit + 1, node, claimSeq =>
      match nodeKind u node with
      | .section => do
          let nodes ← pyIter (contentField node)
          let (content, claimSeq) ← normalizeAll (normalizeNode u limit) nodes claimSeq
          let level ← intOr node "level" 1
          .ok (.section (textOr u node "title" "") level content, claimSeq)
      | .paragraph => do
          let nodes ← pyIter (childrenField node)
          let (children, claimSeq) ← normalizeAll (normalizeNode u limit) nodes claimSeq
          .ok (.paragraph children, claimSeq)
      | .table => do
          let nodes ← pyIter (rowClaimsField node)
          let (rowClaims, claimSeq) ← normalizeAll (normalizeNode u limit) nodes claimSeq
          let headers ← pyIter (pyOr (pyGet node "headers" .none) (.list []))
          .ok (.table (headers.map (Val.toStr u)) rowClaims, claimSeq)
      | .tableRowClaim => do
          let (row, claimSeq) ← normalizeRow u node claimSeq
          .ok (.tableRowClaim row, claimSeq)
      | .claim => do
          let (claim, claimSeq) ← normalizeClaim u node claimSeq
          .ok (.claim claim, claimSeq)
      | .narrative => .ok (.narrative (textOr u node "text" ""), claimSeq)

/-- Where the answer is in the object: one node, or a list of sections. -/
inductive Roots where
  | one (node : Dict)
  | sections (nodes : List Val)

/-- Where an answer keeps its nodes. -/
def rootsOf (payload : Dict) : Roots :=
  -- A field of another kind is passed over, and what holds it is the node.
  match pyGet payload "root" .none, pyGet payload "sections" .none,
      pyGet payload "section" .none with
  | .dict root, _, _ => .one root
  | _, .list sections, _ => .sections sections
  | _, _, .dict node => .one node
  | _, _, _ => .one payload

/-- The root of the answer. Sections other than one are put into a section of
    their own. -/
def normalizeRoot (env : ParserEnv) (payload : Dict) : Except Exc Norm :=
  match rootsOf payload with
  | .one node => do
      let (root, _) ← normalizeNode env.unicode env.recursionLimit node 0
      .ok root
  | .sections nodes => do
      let (sections, _) ← normalizeAll (normalizeNode env.unicode env.recursionLimit) nodes 0
      match sections with
      | [root] => .ok root
      | sections => .ok (.section "" 0 sections)

/-- The version and the root of an answer. -/
def normalize (env : ParserEnv) (payload : Dict) : Except Exc (String × Norm) := do
  let root ← normalizeRoot env payload
  return (textOr env.unicode payload "schema_version" "1.0", root)

end Normalizing

section Validating

/-- A field that has to be text. -/
def textField : Val → Option String
  | .str s => some s
  | _ => none

/-- A paragraph takes claims and connecting text. -/
def validateChild (env : ParserEnv) : Norm → Option ParagraphChild
  | .claim node => do
      let claimId ← textField node.claimId
      let citationIndices ← node.citationIndices.mapM env.intField
      let modelClaimType ← textField node.modelClaimType
      return .claim
        { claimId
          text := node.text
          citationIndices
          finalStatus := node.finalStatus
          schemaVersion := node.schemaVersion
          modelClaimType
          modelIsRequired := node.modelIsRequired
          serverClaimType := node.serverClaimType
          serverIsRequired := node.serverIsRequired }
  | .narrative text => some (.narrative text)
  | _ => none

/-- A table takes rows. -/
def validateRow (env : ParserEnv) : Norm → Option RowClaim
  | .tableRowClaim row => do
      let claimId ← textField row.claimId
      let citationIndices ← row.citationIndices.mapM env.intField
      return { claimId, rowIndex := row.rowIndex, rowValues := row.rowValues, citationIndices
               finalStatus := row.finalStatus }
  | _ => none

mutual

/-- A section takes paragraphs, tables and sections. -/
def validateContent (env : ParserEnv) : Norm → Option SectionContent
  | .section title level content => (validateContents env content).map (.section title level)
  | .paragraph children => (children.mapM (validateChild env)).map .paragraph
  | .table headers rowClaims => (rowClaims.mapM (validateRow env)).map (.table headers)
  | _ => none

/-- Nodes that are valid, all of them. -/
def validateContents (env : ParserEnv) : List Norm → Option (List SectionContent)
  | [] => some []
  | node :: rest => do
      let x ← validateContent env node
      let xs ← validateContents env rest
      return x :: xs

end

/-- The root has to be a section. -/
def validate (env : ParserEnv) (schemaVersion : String) : Norm → Option AnswerAst
  | .section title level content =>
      (validateContents env content).map (fun content => { title, level, content, schemaVersion })
  | _ => none

end Validating

/-- The tree a text is parsed to. -/
def parse (env : ParserEnv) (text : String) : Except Exc AnswerAst := do
  let payload ← extractJson env text
  let (schemaVersion, root) ← normalize env payload
  match validate env schemaVersion root with
  | some ast => return ast
  | none => .error .valueError

end AgenticRag
