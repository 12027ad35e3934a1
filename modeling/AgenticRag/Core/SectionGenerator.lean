import AgenticRag.Core.AnswerParser
import AgenticRag.Core.React
import AgenticRag.Core.ReportVerifier

/-!
# The Section Generator

What writes the sections of a report. A model is asked for each planned section,
and its answer is read tolerantly: an object in a fenced block, an object anywhere,
or else the text as it is. Of the references the answer makes only those to given
evidence are kept, and if none is left the first piece of evidence is referred to.
Without a model a section is put together from the evidence. Whatever raises on the
way makes the section a failed one.

The content of an answer is taken as it is, and need not be a text. Evidence is
taken to have identifiers: `null` is no reference.

The model is asked once for a section, so what it answers depends on the place of
the section and on the prompt.

## Main definitions

* `PlanSection`, `GeneratedSection`, `FailedSection`: What goes in and comes out.
* `generateSections`: All sections.
-/

namespace AgenticRag

namespace Report

open Py

/-- A section as the planner gives it. -/
structure PlanSection where
  sectionId : Option String := none
  title : Option String := none
  sectionType : Option String := none
  objective : Option String := none
  requiredEvidenceTypes : List String := []

/-- A section as the generator returns it. -/
structure GeneratedSection where
  sectionId : String
  title : String
  order : Int := -1
  sectionType : String
  content : Val
  evidenceRefs : List String
  chartRefs : List String := []
  tableRefs : List String := []
  confidence : ℚ

/-- A planned section that was not written. -/
structure FailedSection where
  sectionId : Option String
  title : Option String
  error : String

/-- The values of float literals, how deep containers may be nested, the built-in
    `float`, and the text of an exception. -/
structure GeneratorEnv where
  readFloat : String → Option (ℚ × String)
  decodeDepth : Nat
  toFloat : Val → Except Exc ℚ
  showExc : Exc → String

/-- A model: what it answers to the prompt of the section at a place, or the text of
    the exception it raises. -/
abbrev Llm := Nat → String → Except String Val

section Prompt

/-- The evidence as lines of a prompt. -/
def formatEvidenceForPrompt (evidence : List EvidenceItem) : String :=
  if evidence.isEmpty then "（无 evidence）"
  else join "\n" (evidence.map (fun ev =>
    "- [" ++ ev.evidenceId.getD "ev_unknown" ++ "] " ++ ev.title.getD "" ++ "\n  " ++
      take ev.content 500))

/-- How the model is asked for a section. -/
def sectionGenerationPrompt (sectionId title sectionType objective evidenceText : String) :
    String :=
  "你是一名专业的报告章节生成助手。请基于以下 evidence 生成章节正文。\n\n" ++
  "**章节信息**：\n- 章节 ID：" ++ sectionId ++ "\n- 章节标题：" ++ title ++
  "\n- 章节类型：" ++ sectionType ++ "\n- 章节目标：" ++ objective ++
  "\n\n**可用 Evidence**（必须严格引用，禁止编造）：\n" ++ evidenceText ++
  "\n\n**输出要求**（JSON 格式）：\n\x7b\n" ++
  "  \"content\": \"章节正文（中文/英文，2-4 段，引用 evidence 事实，禁止编造）\",\n" ++
  "  \"evidence_refs\": [\"ev_xxx\", \"ev_yyy\"],\n  \"confidence\": 0.85\n\x7d\n\n" ++
  "**重要约束**：\n1. 每个论断必须基于 evidence，禁止凭空编造数字\n" ++
  "2. evidence_refs 必须从上述 evidence_id 列表中选取\n" ++
  "3. confidence 表示内容可信度（0.0-1.0）\n" ++
  "4. 如果 evidence 不足，content 说明\"证据不足\"并 confidence 低于 0.5\n"

end Prompt

section Answers

variable (g : GeneratorEnv)

/-- The part of an answer that is decoded. -/
def answerText (text : String) : String :=
  let stripped := strip text
  let block := ((React.fencedJson stripped.toList).map String.ofList).getD stripped
  (bracedPart block).getD block

/-- The object in an answer. An answer that cannot be decoded has none, and anything
    else that is not read raises. -/
def answerData (text : String) : Except Exc (Option Dict) :=
  match Json.loads g.readFloat g.decodeDepth (answerText text) with
  | .ok (.dict data) => .ok (some data)
  | .ok _ => .error .attributeError
  | .error .decode => .ok none
  | .error .digits => .error .valueError
  | .error .recursion => .error .runtimeError
  | .error .fuel => .error .runtimeError

/-- A reference, if it is to some evidence. A container is no member of a set. -/
def knownRef (evidence : List EvidenceItem) : Val → Except Exc (Option String)
  | .str ref => .ok (if (evidence.filterMap EvidenceItem.evidenceId).contains ref then some ref
      else none)
  | .list _ => .error .typeError
  | .dict _ => .error .typeError
  | _ => .ok none

/-- The references of an answer that are to some evidence. -/
def knownRefs (evidence : List EvidenceItem) (refs : Val) : Except Exc (List String) := do
  return (← (← pyIter refs).mapM (knownRef evidence)).reduceOption

/-- The first piece of evidence where there are no references. -/
def orFirst (evidence : List EvidenceItem) (refs : List String) : List String :=
  if refs.isEmpty then (evidence.take 1).map (fun ev => ev.evidenceId.getD "") else refs

/-- The confidence of an answer. -/
def answerConfidence (data : Dict) : Except Exc ℚ :=
  match data.lookup "confidence" with
  | none => .ok (7 / 10)
  | some .none => .ok (1 / 2)
  | some v => g.toFloat v

/-- What the model has written. -/
structure ParsedAnswer where
  content : Val
  evidenceRefs : List String
  confidence : ℚ

/-- Reads an answer, if it is JSON. -/
def parseLlmOutput (text : String) (evidence : List EvidenceItem) : Except Exc ParsedAnswer := do
  match ← answerData g text with
  | some data =>
      return {
        -- The content is not looked at.
        content := pyGet data "content" (.str "")
        evidenceRefs := orFirst evidence
          (← knownRefs evidence (pyGet data "evidence_refs" (.list [])))
        confidence := ← answerConfidence g data }
  | none =>
      return {
        content := .str text
        evidenceRefs := orFirst evidence (validEvidenceIds evidence)
        confidence := 1 / 2 }

end Answers

section Generating

variable (g : GeneratorEnv) (llm : Option Llm) (evidence : List EvidenceItem)

/-- The evidence a section asks for. -/
def relevantEvidence (ps : PlanSection) : List EvidenceItem :=
  evidence.filter (fun ev => ps.requiredEvidenceTypes.isEmpty ||
    ev.sourceType.any ps.requiredEvidenceTypes.contains)

/-- The prompt of a section. -/
def sectionPrompt (ps : PlanSection) : String :=
  let objective := ps.objective.getD ""
  sectionGenerationPrompt (ps.sectionId.getD "unknown") (ps.title.getD "")
    (ps.sectionType.getD "analysis") (if objective = "" then "无" else objective)
    (formatEvidenceForPrompt (relevantEvidence evidence ps))

/-- A section from the answer of a model. -/
def generateWithLlm (call : Llm) (place : Nat) (ps : PlanSection) :
    Except String GeneratedSection :=
  match call place (sectionPrompt evidence ps) with
  | .error message => .error message
  | .ok (.str text) =>
      match parseLlmOutput g text (relevantEvidence evidence ps) with
      | .error e => .error (g.showExc e)
      | .ok result => .ok {
          sectionId := ps.sectionId.getD "unknown"
          title := ps.title.getD ""
          sectionType := ps.sectionType.getD "analysis"
          content := result.content
          evidenceRefs := result.evidenceRefs
          confidence := result.confidence }
  -- What is no text cannot be stripped.
  | .ok _ => .error (g.showExc .attributeError)

/-- The content of a section without a model, its references and confidence. -/
def templateContent (title : String) (evidence : List EvidenceItem) :
    String × List String × ℚ :=
  if evidence.isEmpty then ("证据不足，无法生成「" ++ title ++ "」章节的详细内容。", [], 3 / 10)
  else
    let summary := join "；" ((evidence.take 5).map (fun ev =>
      "[" ++ ev.evidenceId.getD "" ++ "] " ++ ev.title.getD "" ++ ": " ++ take ev.content 200))
    ("根据 " ++ toString evidence.length ++ " 条 evidence，" ++ title ++ " 的关键发现如下：\n" ++
      summary ++ "\n\n（注：本章节由模板生成，未使用 LLM 优化表达）", validEvidenceIds evidence, 1 / 2)

/-- A section without the model. -/
def generateWithTemplate (ps : PlanSection) : GeneratedSection :=
  let written := templateContent (ps.title.getD "") (relevantEvidence evidence ps)
  { sectionId := ps.sectionId.getD "unknown"
    title := ps.title.getD ""
    sectionType := ps.sectionType.getD "analysis"
    content := .str written.1
    evidenceRefs := written.2.1
    confidence := written.2.2 }

/-- One section. -/
def generateOne (place : Nat) (ps : PlanSection) : Except String GeneratedSection :=
  match llm with
  | some call => generateWithLlm g evidence call place ps
  | none => .ok (generateWithTemplate evidence ps)

/-- One step of the loop: the section goes to those that were written or to those
    that failed. -/
def generateStep (done : List GeneratedSection × List FailedSection) (p : PlanSection × Nat) :
    List GeneratedSection × List FailedSection :=
  match generateOne g llm evidence p.2 p.1 with
  | .ok sec => (done.1 ++ [sec], done.2)
  | .error message =>
      (done.1, done.2 ++ [{ sectionId := p.1.sectionId, title := p.1.title, error := message }])

/-- All sections, and those that failed. -/
def generateSections (plan : List PlanSection) : List GeneratedSection × List FailedSection :=
  plan.zipIdx.foldl (generateStep g llm evidence) ([], [])

end Generating

end Report

end AgenticRag
