import AgenticRag.Core.RagTool
import AgenticRag.Lib.PyVal

/-!
# Parent Expansion

The chunks that are kept after the cut are pieces of larger parents. The pieces
of one parent are taken together and the parent is fetched. A small parent
takes the place of its pieces, of a middling one each piece gets a window around
it, and beside a large one, or one that cannot be had, the pieces stay as they
are. What comes out is sorted by relevance again, and it is counted how often
each was done.

A chunk of the retrieval is a dictionary; of its keys only those the expansion
reads or writes are kept here. The chunks are taken to be different objects, so
rewriting one leaves the others alone. The store and the tokenizer are
parameters (`ParentStore`). The store gets the ids of the knowledge bases as a
list made from a set, in an order that is not specified, so nothing may be read
into the order here.

## Main definitions

* `SubChunk`: A chunk as the expansion sees it.
* `expandParents`: The expansion and its counts.
-/

namespace AgenticRag

namespace Retrieval

open Py Ordered

/-- What became of a chunk. -/
inductive ParentExpansion where
  | fullParent
  | windowContext
  | subChunkOnly
  deriving DecidableEq

/-- A chunk, as far as the expansion reads or writes it. The text of its key
    `content_with_weight`, where it has the key, counts before that of
    `content`. -/
structure SubChunk where
  chunkId : String := ""
  momId : Val := .none
  kbId : String := ""
  content : String := ""
  contentWithWeight : Option String := none
  rerankScore : Option ℚ := none
  similarity : Option ℚ := none
  score : Option ℚ := none
  importantKwd : List String := []
  parentExpansion : Option ParentExpansion := none
  parentMomId : Option String := none
  parentTooLarge : Bool := false
  mergedSubChunkCount : Option Nat := none

/-- The scores are read as those of any chunk. -/
def SubChunk.relevance (ck : SubChunk) : ℚ :=
  Chunk.relevance
    { objectId := 0
      rerankScore := ck.rerankScore
      similarity := ck.similarity
      score := ck.score }

/-- The parent of a chunk, if it names one. -/
def SubChunk.parentId (ck : SubChunk) : Option String :=
  match ck.momId with
  | .str s => if strip s = "" then none else some s
  | _ => none

/-- A parent as it is stored. -/
structure ParentChunk where
  contentWithWeight : Option String

/-- The store the parents are in, and the tokenizer, which gives 0 when it
    fails. -/
structure ParentStore where
  get : String → String → List String → Except Exc (Option ParentChunk)
  numTokensFromString : String → Nat

/-- The limits of the expansion. -/
structure ExpansionConfig where
  fullParentMaxTokens : Int := 1024
  windowContextMaxTokens : Int := 2048
  contextWindowTokens : Int := 512

/-- What the expansion counts. -/
structure ExpansionStats where
  total : Nat
  fullParent : Nat := 0
  windowContext : Nat := 0
  subChunkOnly : Nat := 0
  deriving DecidableEq

section Text

/-- A Chinese character. -/
def isHan (c : Char) : Bool := decide (0x4E00 ≤ c.toNat ∧ c.toNat ≤ 0x9FFF)

/-- The tokens of a text. -/
def countTokens (store : ParentStore) (text : String) : Nat :=
  if text = "" then 0
  else
    let count := store.numTokensFromString text
    if 0 < count then count
    else
      let chineseChars := (text.toList.filter isHan).length
      let otherChars := text.toList.length - chineseChars
      max 1 (((chineseChars : ℚ) / (3 / 2) + (otherChars : ℚ) / 4).floor).toNat

/-- How many characters tokens come to. -/
def estimateCharCount (text : String) (tokens : Int) : Int :=
  if text = "" then 0
  -- More than half of the text is Chinese.
  else if text.toList.length < 2 * (text.toList.filter isHan).length then (tokens * 3).tdiv 2
  else tokens * 4

/-- The method `s.find(part)`, on characters, with `none` for -1. -/
def find (part : List Char) : List Char → Option Nat
  | [] => if part = [] then some 0 else none
  | c :: cs => if part <+: c :: cs then some 0 else (find part cs).map (· + 1)

/-- The parent around a piece. -/
def extractWindowContext (parentContent subChunkContent : String) (contextWindowTokens : Int) :
    String :=
  let sub := strip subChunkContent
  let length : Int := parentContent.toList.length
  let winChars := estimateCharCount parentContent contextWindowTokens
  match find sub.toList parentContent.toList with
  | none =>
      let front := slice parentContent 0 winChars
      -- With a window of nothing this is the whole text, as `text[-0:]` is.
      let back := if winChars < length then slice parentContent (-winChars) length else ""
      front ++ "\n...\n" ++ subChunkContent ++ "\n...\n" ++ back
  | some pos =>
      let start := max 0 (pos - winChars)
      let stop := min length (pos + sub.toList.length + winChars)
      let result := slice parentContent start stop
      let result := if 0 < start then "...\n" ++ result else result
      if stop < length then result ++ "\n..." else result

end Text

section Expansion

variable (store : ParentStore) (config : ExpansionConfig) (tenantId : String)
  (kbIds : List String)

/-- The index of a tenant. -/
def indexName (tenantId : String) : String := "ragflow_" ++ tenantId

/-- A parent that is not there and one that cannot be fetched come to the
    same. -/
def fetchParentChunk (momId : String) (kbIds : List String) : Option ParentChunk :=
  if momId = "" ∨ tenantId = "" then none
  else
    match store.get momId (indexName tenantId) kbIds with
    | .error _ => none
    | .ok parent => parent

/-- One chunk for all chunks of a parent. It is made of the first of them, with
    the average of their scores and the keywords of all. -/
def buildMergedParentChunk (first : SubChunk) (rest : List SubChunk)
    (parentContent momId : String) : SubChunk :=
  let subChunks := first :: rest
  let avgScore := (subChunks.map SubChunk.relevance).sum / subChunks.length
  { first with
    contentWithWeight := some parentContent
    chunkId := momId
    parentExpansion := some .fullParent
    parentMomId := some momId
    mergedSubChunkCount := some subChunks.length
    rerankScore := some avgScore
    similarity := some avgScore
    importantKwd := subChunks.flatMap SubChunk.importantKwd }

/-- The chunks that name a parent, by parent. -/
def parentGroups (chunks : List SubChunk) : List (String × List SubChunk) :=
  groupBy (fun ck => ck.parentId.getD "") (chunks.filter (fun ck => ck.parentId.isSome))

/-- What is done with the chunks of a parent: the parent is missing, it takes
    their place, they get windows of it, or it is too large. -/
inductive Regime where
  | missing
  | full (parentContent : String)
  | window (parentContent : String)
  | tooLarge
  deriving DecidableEq

/-- How a group is expanded. -/
def regimeOf (momId : String) (subChunks : List SubChunk) : Regime :=
  let subKbIds := ((subChunks.map SubChunk.kbId).filter (· ≠ "")).dedup
  let parent := fetchParentChunk store tenantId momId (if subKbIds = [] then kbIds else subKbIds)
  match parent.bind ParentChunk.contentWithWeight with
  | none => .missing
  | some parentContent =>
      let parentTokens : Int := countTokens store parentContent
      if parentContent = "" then .missing
      else if parentTokens ≤ config.fullParentMaxTokens then .full parentContent
      else if parentTokens ≤ config.windowContextMaxTokens then .window parentContent
      else .tooLarge

/-- The window of a parent in the place of the text of a chunk. -/
def withWindow (momId parentContent : String) (ck : SubChunk) : SubChunk :=
  { ck with
    contentWithWeight := some (extractWindowContext parentContent
      (ck.contentWithWeight.getD ck.content) config.contextWindowTokens)
    parentExpansion := some .windowContext
    parentMomId := some momId }

/-- What becomes of the chunks of a parent. -/
def expandGroup (momId : String) (subChunks : List SubChunk) : Regime → List SubChunk
  | .missing => subChunks.map (fun ck =>
      { ck with parentExpansion := some .subChunkOnly, parentMomId := some momId })
  | .full parentContent =>
      match subChunks with
      | [] => []
      | first :: rest => [buildMergedParentChunk first rest parentContent momId]
  | .window parentContent => subChunks.map (withWindow config momId parentContent)
  | .tooLarge => subChunks.map (fun ck =>
      { ck with
        parentExpansion := some .subChunkOnly
        parentTooLarge := true
        parentMomId := some momId })

/-- What is counted for so many chunks of a parent. -/
def ExpansionStats.count (stats : ExpansionStats) (n : Nat) : Regime → ExpansionStats
  | .missing => { stats with subChunkOnly := stats.subChunkOnly + n }
  | .full _ => { stats with fullParent := stats.fullParent + 1 }
  | .window _ => { stats with windowContext := stats.windowContext + n }
  | .tooLarge => { stats with subChunkOnly := stats.subChunkOnly + n }

/-- One turn of the loop over the parents. -/
def expandStep (acc : List SubChunk × ExpansionStats) (group : String × List SubChunk) :
    List SubChunk × ExpansionStats :=
  let regime := regimeOf store config tenantId kbIds group.1 group.2
  (acc.1 ++ expandGroup config group.1 group.2 regime, acc.2.count group.2.length regime)

/-- Expands the pieces, group by group. -/
def expandParents (chunks : List SubChunk) : List SubChunk × ExpansionStats :=
  if chunks = [] then ([], { total := 0 })
  else
    let alone := (chunks.filter (fun ck => ck.parentId.isNone)).map (fun ck =>
      { ck with parentExpansion := some .subChunkOnly })
    let stats : ExpansionStats := { total := chunks.length, subChunkOnly := alone.length }
    let expanded :=
      (parentGroups chunks).foldl (expandStep store config tenantId kbIds) (alone, stats)
    (sortDesc SubChunk.relevance expanded.1, expanded.2)

end Expansion

end Retrieval

end AgenticRag
