import AgenticRag.Core.Fusion

/-!
# Token Budget

The scheduler that fits tool results into the model's window. It counts the
tokens each tool returned, turns the overflow into a compression level,
shrinks the results of the tools that overflow, and in the end writes the
evidence into the prompt line by line.

Two counts of tokens meet in `assemble`. The quota of a source is what
`countToolTokens` measured on the tool's raw text; what is spent against it
is the length of the formatted lines.

Sums of tokens are integers and may be compared with a window that has
already been overdrawn, so the budget and the locked tokens are `Int`. The
ratio of the overflow is a rational, and computing it fails when the window
that is left is exactly zero.

## Main definitions

* `TokenBudgetScheduler`: The scheduler and its total.
* `formatEvidence`, `assembleGroup`, `assemble`, `compactAssemble`: Writing
  the prompt.
-/

namespace AgenticRag

open Py Ordered
open Binary64 (toDouble overflow)

/-- The window of a model. -/
def defaultModelWindow : Int := 128000

/-- What is left for the answer. -/
def outputReserveTokens : Int := 2000

/-- From where the tokens of a source count as large. -/
def perToolExemptionTokens : Nat := 30000

/-- The order in which the sources are written into the prompt. -/
def sourceOrder : List SourceType := [.rag, .db, .web, .report]

/-- How strongly the tool results are compressed. -/
inductive CompressLevel where
  | normal
  | light
  | moderate
  | severe
  | compact
  deriving DecidableEq, Repr

/-- The tokens of each tool that returned any, in the order they were
    counted. -/
abbrev TokenCounts := List (SourceType × Nat)

/-- The tokens of a source. -/
def TokenCounts.get (counts : TokenCounts) (st : SourceType) : Nat :=
  (counts.lookup st).getD 0

/-- The tokens of all sources. -/
def TokenCounts.total (counts : TokenCounts) : Nat :=
  (counts.map Prod.snd).sum

/-- The scheduler. -/
structure TokenBudgetScheduler where
  totalBudget : Int

/-- A budget of zero stands for the default, 85 percent of the window. -/
def TokenBudgetScheduler.new (totalBudget : Int) : TokenBudgetScheduler :=
  ⟨if totalBudget = 0 then defaultModelWindow * 85 / 100 else totalBudget⟩

/-- Counts what the tools return. -/
def countToolTokens (rt : Runtime) (t : ToolOutputs) : TokenCounts :=
  -- The results of the REST tool and of the graph are not counted.
  let rag := (t.ragDocs.map (fun doc => rt.numTokens doc.content)).sum
  let dbRows := (t.dbResult.map DbResult.rows).getD []
  let db := (dbRows.map (fun row => rt.numTokens ((Val.dict row).toStr rt.unicode))).sum
  let web := (t.webDocs.map (fun doc => rt.numTokens doc.content)).sum
  (if rag > 0 then [(.rag, rag)] else []) ++ (if db > 0 then [(.db, db)] else []) ++
    (if web > 0 then [(.web, web)] else [])

/-- How much there is too much. -/
def TokenBudgetScheduler.calculateOverflowRatio (sch : TokenBudgetScheduler)
    (counts : TokenCounts) (lockedTokens : Int) : Except Exc ℚ :=
  let totalEvidence : Int := counts.total
  -- What is left of the window may be negative, and the ratio with it.
  let available := sch.totalBudget - lockedTokens - outputReserveTokens
  if totalEvidence ≤ available then .ok 0
  else if available = 0 then .error .zeroDivisionError
  else .ok (((totalEvidence - available : Int) : ℚ) / available)

/-- How hard to compress. -/
def determineLevel (overflowRatio : ℚ) : CompressLevel :=
  if overflowRatio ≤ 0 then .normal
  else if overflowRatio ≤ 30 / 100 then .light
  else if overflowRatio ≤ 80 / 100 then .moderate
  else if overflowRatio ≤ 150 / 100 then .severe
  else .compact

/-- The tools above the exemption threshold, and the others. -/
def identifyOverflownTools (counts : TokenCounts) : List SourceType × List SourceType :=
  ((counts.filter (fun p => perToolExemptionTokens < p.2)).map Prod.fst,
   (counts.filter (fun p => p.2 ≤ perToolExemptionTokens)).map Prod.fst)

section Compression

/-- The instruction for extracting sentences at a level, none below
    `moderate`. -/
def compressPrompt (level : CompressLevel) (question chunkText : String) : Option String :=
  match level with
  | .normal => none
  | .light => none
  | .moderate => some ("你是一个精确的文本提取器。根据用户问题，从以下文本中提取与问题相关的句子。\n\n" ++
      "规则：\n1. 只提取原句，不要改写、不要总结、不要添加任何新信息\n2. 保留原句顺序\n" ++
      "3. 提取约一半的相关句子，优先保留包含关键事实、数据、定义的句子\n" ++
      "4. 如果文本与问题完全无关，输出\"无相关内容\"\n\n问题：" ++ question ++
      "\n\n文本：\n" ++ chunkText)
  | .severe => some ("你是一个精确的文本提取器。根据用户问题，从以下文本中提取最关键的 2-3 个句子。\n\n" ++
      "规则：\n1. 只提取原句，不要改写、不要总结、不要添加任何新信息\n" ++
      "2. 优先提取包含直接答案、核心数据、关键定义的句子\n" ++
      "3. 如果文本与问题无关，输出\"无相关内容\"\n\n问题：" ++ question ++
      "\n\n文本：\n" ++ chunkText)
  | .compact => some ("根据用户问题，从以下文本中提取最关键的 1 个句子或短语。\n\n" ++
      "规则：\n1. 只提取原句，不要改写\n2. 如果文本与问题无关，输出\"无相关内容\"\n\n问题：" ++
      question ++ "\n\n文本：\n" ++ chunkText)

/-- A model that answers a prompt, or raises. The calls are told apart by
    their number, so equal prompts may get different answers. -/
abbrev ChatModel := Nat → String → Option String

/-- Compress one chunk. A short chunk, a failed call and an answer that is
    hardly shorter leave it as it is. -/
def compressOne (rt : Runtime) (llm : String → Option String) (question : String)
    (level : CompressLevel) (chunk : RagDoc) : RagDoc :=
  let tokens := rt.numTokens chunk.content
  match compressPrompt level question chunk.content with
  | none => chunk
  | some prompt =>
      if tokens < 100 then chunk
      else
        match llm prompt with
        | none => chunk
        | some response =>
            let compressed := strip response
            -- The length is tested before the marker for an irrelevant chunk.
            if 10 * rt.numTokens compressed > 9 * tokens then chunk
            else if contains compressed "无相关内容" then { chunk with content := "" }
            else { chunk with content := compressed }

/-- Each document, compressed. -/
def compressRagChunks (rt : Runtime) (llm : ChatModel) (chunks : List RagDoc) (question : String)
    (level : CompressLevel) : List RagDoc :=
  chunks.zipIdx.map (fun p => compressOne rt (llm p.2) question level p.1)

/-- The text `col=val, col=val` of one row. -/
def compactRow (u : Unicode) (columns : List String) (row : Dict) : String :=
  join ", " (columns.map (fun c => c ++ "=" ++ (cell row c).toStr u))

/-- Rows as numbered lines. -/
def formatCompactRows (u : Unicode) (rows : List Dict) (columns : List String) : String :=
  join "\n" (rows.zipIdx.map (fun p =>
    "[" ++ toString (p.2 + 1) ++ "] " ++ compactRow u columns p.1))

/-- The columns whose texts are longer than a hundred characters on
    average. -/
def identifyTextColumns (u : Unicode) (rows : List Dict) (columns : List String) : List String :=
  columns.filter (fun col =>
    let lengths := rows.filterMap (fun row =>
      match row.lookup col with
      | none => none
      | some .none => none
      | some v => some (v.toStr u).length)
    lengths ≠ [] ∧ 100 * lengths.length < lengths.sum)

/-- Halve a number of rows until they fit or one is left. The fuel is the
    number of rows to start with, which halving cannot outlast. -/
def fitCount (fits : Nat → Bool) : Nat → Nat → Nat
  | 0, n => n
  | fuel + 1, n =>
      if n ≤ 1 then n else if fits n then n else fitCount fits fuel (max 1 (n / 2))

/-- What `_compress_db_result` returns. -/
structure CompressedDb where
  rows : List Dict
  columns : List String
  truncated : Bool
  originalRowCount : Nat
  keptRowCount : Nat

/-- Rows, cut to a quota. -/
def compressDbResult (rt : Runtime) (r : DbResult) (quota : Nat) (level : CompressLevel) :
    CompressedDb :=
  if r.rows.isEmpty then ⟨[], r.columns, false, 0, 0⟩
  else
    let original := r.rows.length
    let maxRows := match level with
      | .normal => original
      | .light => original
      | .moderate => min original 50
      | .severe => min original 10
      | .compact => 1
    let keptColumns := match level with
      | .severe =>
          let textColumns := identifyTextColumns rt.unicode r.rows r.columns
          let kept := r.columns.filter (· ∉ textColumns)
          if kept.isEmpty then r.columns else kept
      | _ => r.columns
    let truncated := match level with
      | .normal => false
      | .light => false
      | .moderate => decide (maxRows < original)
      | .severe => true
      | .compact => true
    let fits := fun n =>
      decide (rt.numTokens (formatCompactRows rt.unicode (r.rows.take n) keptColumns) ≤ quota)
    -- Only the count of rows is cut here; a row keeps all of its columns.
    let keptCount := fitCount fits maxRows maxRows
    ⟨r.rows.take keptCount, keptColumns, truncated, original, keptCount⟩

/-- The part of a quota that belongs to a number of rows, as a quotient in
    doubles. -/
def quotaPart (dbQuota totalRows rc : Nat) : ℚ :=
  toDouble ((dbQuota * rc : Nat) / totalRows)

/-- A quota scaled down from a total, by a quotient and a product in doubles. -/
def scaledQuota (dbQuota totalQ q : Nat) : Nat :=
  ⌊toDouble (toDouble q * toDouble (dbQuota / totalQ))⌋.toNat

/-- The quotas of several query results, by their share of the rows and at
    least two hundred tokens each. A quotient that is too large for a double
    raises; the one the quotas are scaled by is below one. -/
def allocateDbQuota (tables : List DbResult) (dbQuota : Nat) : Except Exc (List Nat) :=
  match tables with
  | [] => .ok []
  | [_] => .ok [dbQuota]
  | _ =>
      let rowCounts := tables.map (fun t => t.rows.length)
      let totalRows := if rowCounts.sum = 0 then 1 else rowCounts.sum
      if rowCounts.any (fun rc => overflow ≤ quotaPart dbQuota totalRows rc) then
        .error .overflowError
      else
        let quotas := rowCounts.map (fun rc =>
          max 200 ⌊quotaPart dbQuota totalRows rc⌋.toNat)
        let totalQ := quotas.sum
        if dbQuota < totalQ then .ok (quotas.map (fun q => max 200 (scaledQuota dbQuota totalQ q)))
        else .ok quotas

end Compression

section Assembly

variable (rt : Runtime)

/-- The line a piece of evidence is written as. -/
def formatEvidence (ev : Evidence) (st : SourceType) : String :=
  let score := scoreOr (some ev.relevanceScore) ev.confidence
  match st with
  | .rag => "(相关度:" ++ fixed2 score ++ ") " ++ ev.content
  | .db => "(来源:db, 相关度:" ++ fixed2 score ++ ") [" ++ ev.title ++ "] " ++ ev.content
  | .web => "(来源:web, 相关度:" ++ fixed2 score ++ ") [" ++ ev.title ++ "] " ++ ev.content
  | _ => "(来源:" ++ st.text ++ ", 相关度:" ++ fixed2 score ++ ") " ++ ev.content

/-- How far the assembly has got: the lines written, each with the piece it
    came from, whether it ran into the reserve, and the tokens used by the
    source at hand and by all. -/
structure Assembly where
  parts : List (Evidence × String) := []
  compactMode : Bool := false
  toolUsed : Nat := 0
  totalUsed : Nat := 0

/-- Write the pieces of one source. The loop stops when the quota is spent or
    the window is, and passes over a line that does not fit the quota. -/
def assembleGroup (limit lockedTokens : Int) (st : SourceType) (quota : Nat) :
    List Evidence → Assembly → Assembly
  | [], a => a
  | ev :: rest, a =>
      if quota ≤ a.toolUsed then a
      else if limit ≤ a.totalUsed + lockedTokens then { a with compactMode := true }
      else
        -- The line is formatted without a number.
        let content := formatEvidence ev st
        let lineTokens := rt.numTokens content
        if quota < a.toolUsed + lineTokens then assembleGroup limit lockedTokens st quota rest a
        else if limit < a.totalUsed + lineTokens + lockedTokens then
          { a with compactMode := true }
        else assembleGroup limit lockedTokens st quota rest
          { a with
            parts := a.parts ++ [(ev, content)]
            toolUsed := a.toolUsed + lineTokens
            totalUsed := a.totalUsed + lineTokens }

/-- Write one source after another. A source that stopped early does not stop
    the ones after it. -/
def assembleSources (limit lockedTokens : Int) (counts : TokenCounts) (evidences : List Evidence)
    (order : List SourceType) : Assembly :=
  order.foldl (fun a st =>
    let group := sortDesc evidenceWeight
      (((groupBy Evidence.sourceType evidences).lookup st).getD [])
    assembleGroup rt limit lockedTokens st (counts.get st) group { a with toolUsed := 0 }) {}

/-- The line of a piece in compact mode, under its rank. -/
def compactLine (i : Nat) (ev : Evidence) : String :=
  let firstSentence := if ev.content = "" then "" else take (headOfSplit ev.content '。') 200
  "[" ++ toString i ++ "] (" ++ ev.sourceType.text ++ ") " ++ ev.title ++ ": " ++
    firstSentence ++ "..."

/-- The pieces compact mode keeps: the three heaviest. -/
def compactChosen (evidences : List Evidence) : List Evidence :=
  (sortDesc evidenceWeight evidences).take 3

/-- The lines of compact mode, each with the piece it came from. -/
def compactParts (evidences : List Evidence) : List (Evidence × String) :=
  (compactChosen evidences).zipIdx.map (fun p => (p.1, compactLine (p.2 + 1) p.1))

/-- The short form of the context. -/
def compactAssemble (evidences : List Evidence) : String × Bool × Nat :=
  if evidences.isEmpty then ("（无足够上下文，请直接回答）", true, 0)
  else
    let text := join "\n" ("【精简参考资料】" :: (compactParts evidences).map Prod.snd)
    (text, true, rt.numTokens text)

/-- Whether the window is too small for anything but compact mode. -/
def TokenBudgetScheduler.usesCompact (sch : TokenBudgetScheduler) (lockedTokens : Int) : Bool :=
  decide (sch.totalBudget - lockedTokens ≤ outputReserveTokens)

/-- The lines written outside compact mode, and the accounts kept. -/
def TokenBudgetScheduler.assembly (sch : TokenBudgetScheduler) (evidences : List Evidence)
    (counts : TokenCounts) (lockedTokens : Int) : Assembly :=
  assembleSources rt (sch.totalBudget - outputReserveTokens) lockedTokens counts evidences
    sourceOrder

/-- The context, source by source. -/
def TokenBudgetScheduler.assemble (sch : TokenBudgetScheduler) (evidences : List Evidence)
    (counts : TokenCounts) (lockedTokens : Int) : String × Bool × Nat :=
  if sch.usesCompact lockedTokens then compactAssemble rt evidences
  else
    let a := sch.assembly rt evidences counts lockedTokens
    (join "\n" ("【参考资料】" :: a.parts.map Prod.snd), a.compactMode, a.totalUsed)

end Assembly

end AgenticRag
