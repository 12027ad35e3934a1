import AgenticRag.Core.ClaimBuilder
import AgenticRag.Core.FactChecker
import AgenticRag.Core.Hallucination
import AgenticRag.Lib.RegexFirst

/-!
# The Hallucination Detector

The component behind the local gateway of the verifier. An answer is taken apart
into claims, each claim is judged in up to three layers, and the mean of the
scores, each claim counting as much as it is long, decides what is done with the
answer.

The rule layer is asked first. What it contradicts scores nothing, what it supports
by something it could check scores one, and only the rest goes on to the model,
whose two opinions are then weighed with that of the rules. A contradicted claim
caps the score of the whole answer.

The model may be missing in several ways, and they differ. Without a name, without
a configuration, or when its call fails, the opinion on entailment is made up from
the rules, and the other opinion keeps its default, which is that of a supported
claim. Only where the client cannot be built are both made up from the rules.

Scores are exact fractions where the source has floats. What is not in the
repository is in `Services`: the configuration of models, the client, its answers,
and the repair of JSON.

## Main definitions

* `decomposeClaims`: The claims of an answer.
* `verifyFaithfulness`: The local gateway.
-/

namespace AgenticRag

namespace HallucinationDetector

open Py Ordered

/-- An opinion of the rule layer, or of the model on support. -/
inductive RuleResult where
  | supported
  | notSupported
  | contradicted
  deriving DecidableEq, Repr

/-- An opinion on entailment. -/
inductive NliResult where
  | entailment
  | neutral
  | contradiction
  deriving DecidableEq, Repr

/-- The name of a verdict. -/
def RuleResult.text : RuleResult → String
  | .supported => "SUPPORTED"
  | .notSupported => "NOT_SUPPORTED"
  | .contradicted => "CONTRADICTED"

/-- The name of a verdict. -/
def NliResult.text : NliResult → String
  | .entailment => "entailment"
  | .neutral => "neutral"
  | .contradiction => "contradiction"

/-- The verdict that is named. -/
def RuleResult.ofText (text : String) : RuleResult :=
  if text = "CONTRADICTED" then .contradicted
  else if text = "NOT_SUPPORTED" then .notSupported
  else .supported

/-- The verdict that is named. -/
def NliResult.ofText (text : String) : NliResult :=
  if text = "contradiction" then .contradiction
  else if text = "neutral" then .neutral
  else .entailment

/-- A claim and what was found out about it. -/
structure Claim where
  text : String
  ruleResult : RuleResult := .supported
  nliResult : NliResult := .entailment
  llmResult : RuleResult := .supported
  evidence : String := ""
  ruleEntities : List Dict := []
  score : ℚ := 1

/-- A claim as a dictionary. -/
def Claim.toDict (floatRepr : ℚ → String) (c : Claim) : Dict :=
  [("text", .str c.text), ("supported", .bool (decide (85 / 100 ≤ c.score))),
   ("score", FactChecker.floatVal floatRepr (Report.round4 c.score)),
   ("rule_result", .str c.ruleResult.text), ("nli_result", .str c.nliResult.text),
   ("llm_result", .str c.llmResult.text), ("evidence", .str c.evidence),
   ("rule_entities", .list (c.ruleEntities.map Val.dict))]

/-- A document the answer is checked against. The scores are those of retrieval. -/
structure RetrievedDoc where
  content : String := ""
  score : Option ℚ := none
  rerankScore : Option ℚ := none
  relevance : String := ""

section Param

/-- The settings of the component. -/
structure HallucinationDetectorParam where
  useLlm : Bool := true
  useNli : Bool := true
  skipLlmWhenRuleSupported : Bool := true
  enableRegeneration : Bool := true
  maxClaimLength : Int := 200
  ruleWeight : ℚ := 4 / 10
  nliWeight : ℚ := 4 / 10
  llmWeight : ℚ := 2 / 10
  passThreshold : ℚ := 85 / 100
  filterThreshold : ℚ := 6 / 10
  regenerateThreshold : ℚ := 3 / 10
  llmId : String := ""
  timeoutSeconds : Int := 30

variable (floatRepr : ℚ → String)

/-- Refuses what is not within `[0, 1]`. -/
def checkDecimalFloat (param : ℚ) (description : String) : Except String Unit :=
  if param < 0 ∨ 1 < param then
    .error (description ++ " " ++ floatRepr param ++
      " not supported, should be a float number in range [0, 1]")
  else .ok ()

/-- Refuses what is not positive. -/
def checkPositiveNumber (param : Int) (description : String) : Except String Unit :=
  if param ≤ 0 then
    .error (description ++ " " ++ toString param ++ " not supported, should be positive numeric")
  else .ok ()

/-- Refuses what is negative. -/
def checkNonnegativeNumber (param : Int) (description : String) : Except String Unit :=
  if param < 0 then
    .error (description ++ " " ++ toString param ++
      " not supported, should be non-negative numeric")
  else .ok ()

/-- The check a component is built with. -/
def HallucinationDetectorParam.check (p : HallucinationDetectorParam) : Except String Unit := do
  checkDecimalFloat floatRepr p.ruleWeight "[HallucinationDetector] Rule weight"
  checkDecimalFloat floatRepr p.nliWeight "[HallucinationDetector] NLI weight"
  checkDecimalFloat floatRepr p.llmWeight "[HallucinationDetector] LLM weight"
  let total := p.ruleWeight + p.nliWeight + p.llmWeight
  if 1 / 1000000 < |total - 1| then
    throw ("[HallucinationDetector] Weights must sum to 1.0, got " ++ floatRepr total)
  checkDecimalFloat floatRepr p.passThreshold "[HallucinationDetector] Pass threshold"
  checkDecimalFloat floatRepr p.filterThreshold "[HallucinationDetector] Filter threshold"
  checkDecimalFloat floatRepr p.regenerateThreshold "[HallucinationDetector] Regenerate threshold"
  checkPositiveNumber p.maxClaimLength "[HallucinationDetector] Max claim length"
  checkNonnegativeNumber p.timeoutSeconds "[HallucinationDetector] Timeout seconds"

/-- What the gateway builds the component with passes the check. -/
theorem check_default (llmId : String) :
    HallucinationDetectorParam.check floatRepr { llmId := llmId } = .ok () := by
  have hdecimal : ∀ q : ℚ, 0 ≤ q → q ≤ 1 → ∀ description,
      checkDecimalFloat floatRepr q description = .ok () := by
    intro q hlow hhigh description
    rw [checkDecimalFloat, if_neg (not_or.mpr ⟨not_lt.mpr hlow, not_lt.mpr hhigh⟩)]
  have hsum : ¬ (1 / 1000000 : ℚ) < |4 / 10 + 4 / 10 + 2 / 10 - 1| := by norm_num
  simp only [HallucinationDetectorParam.check]
  rw [hdecimal (4 / 10) (by norm_num) (by norm_num), hdecimal (4 / 10) (by norm_num) (by norm_num),
    hdecimal (2 / 10) (by norm_num) (by norm_num), hdecimal (85 / 100) (by norm_num) (by norm_num),
    hdecimal (6 / 10) (by norm_num) (by norm_num), hdecimal (3 / 10) (by norm_num) (by norm_num)]
  simp only [bind, Except.bind, if_neg hsum]
  rfl

end Param

section Decomposition

/-- The texts without white space around them, and without those that are empty
    then. -/
def stripped (texts : List String) : List String :=
  (texts.map strip).filter (· ≠ "")

/-- A mark that ends a sentence. -/
def isSentenceEnd (c : Char) : Bool := decide (c ∈ "。！？.?!".toList)

/-- Behind the end of a sentence, with the white space there. -/
def sentencePattern : Regex :=
  .seq (.notAhead (.notBehind isSentenceEnd)) spaces

/-- The sentences of a text. -/
def splitSentences (text : String) : List String :=
  stripped (reSplit sentencePattern text)

/-- The words that join two clauses, in the order they are tried. -/
def conjunctionPattern : Regex :=
  seqs [spaces,
    alts (lit "虽然") [lit "尽管", lit "即使", lit "因为", lit "由于", lit "如果", lit "与其",
      lit "不但", lit "不仅", lit "要么", lit "但是", lit "但", lit "因此", lit "因而", lit "所以",
      lit "那么", lit "就", lit "则", lit "也", lit "还", lit "而且", lit "不如"],
    spaces, opt (oneOf "，,"), spaces]

/-- The pieces of a text, or the text where there is none. -/
def partsOr (text : String) (parts : List String) : List String :=
  if parts.isEmpty then [text] else parts

/-- The clauses of a sentence. -/
def splitCompoundSentences (text : String) : List String :=
  partsOr text (stripped (reSplit conjunctionPattern text))

/-- A number in front of an item of a list. -/
def arabicMarker : Regex :=
  seqs [opt (oneOf "(（"), many1 digit, oneOf ".、)）", many1 (.sat isSpace)]

/-- A number in Chinese before an item. -/
def chineseMarker : Regex :=
  seqs [many1 (oneOf "一二三四五六七八九十"), oneOf ".、)）", many1 (.sat isSpace)]

/-- A bullet before an item. -/
def bulletMarker : Regex :=
  seqs [oneOf "-*•", many1 (.sat isSpace)]

/-- The start of an item. -/
def listPattern : Regex :=
  seqs [alts (lit "\n") [lit "\r", textStart], spaces,
    alts arabicMarker [chineseMarker, bulletMarker]]

/-- The items of a list. -/
def splitListItems (text : String) : List String :=
  if text = "" then [] else partsOr text (stripped (reSplit listPattern text))

/-- A part of a date: a year, a quarter or a month. -/
def dateFragmentPattern : Regex :=
  alts (.seq (.rep digit 4 (some 4)) (lit "年"))
    [seqs [lit "第", oneOf "一二三四", lit "季度"], seqs [lit "Q", oneOf "1234"],
     seqs [lit "第", digit, lit "季度"], .seq (.rep digit 1 (some 2)) (lit "月")]

/-- A date and no more. -/
def isDateFragment (text : String) : Bool := found dateFragmentPattern text

/-- The pattern `\d` is found. -/
def hasNumber (text : String) : Bool := text.toList.any isDecimal

/-- Whether a fragment with a number is joined to its neighbour: it is short, not said
    there already, and the neighbour has no number, or one of the two has a date. -/
def joins (fragment neighbour : String) : Bool :=
  decide (fragment.length ≤ 30) && hasNumber fragment && !contains neighbour fragment &&
    (!hasNumber neighbour || isDateFragment neighbour || isDateFragment fragment)

/-- Join numbers to what stands next to them, from the left. -/
def mergeNumericalFrom : String → List String → List String
  | prev, [] => [prev]
  | prev, current :: rest =>
      if joins current prev || joins prev current then mergeNumericalFrom (prev ++ current) rest
      else prev :: mergeNumericalFrom current rest

/-- Joins a date to what it dates. -/
def mergeNumericalClaims : List String → List String
  | [] => []
  | first :: rest => mergeNumericalFrom first rest

/-- `text.strip(chars)`. -/
def stripChars (chars text : String) : String :=
  Report.rstrip chars (String.ofList (text.toList.dropWhile chars.toList.contains))

/-- The text without the marker of a list, its white space collapsed. -/
def cleanClaimText (text : String) : String :=
  let text := replaceAll
    (seqs [textStart, spaces, alts arabicMarker [bulletMarker, chineseMarker]]) "" text
  let text := replaceAll (many1 (.sat isSpace)) " " text
  stripChars " \t\n\r。；，" text

/-- The texts that are long enough, cut to a length, each of them once. -/
def boundClaims (maxClaimLength : Nat) : List String → List String → List Claim
  | _, [] => []
  | seen, raw :: rest =>
      let text := cleanClaimText raw
      if text.length < 3 then boundClaims maxClaimLength seen rest
      else
        let text := take text maxClaimLength
        if text ∈ seen then boundClaims maxClaimLength seen rest
        else { text := text } :: boundClaims maxClaimLength (text :: seen) rest

/-- The clauses and items of an answer. -/
def rawClaims (answer : String) : List String :=
  (splitSentences answer).flatMap (fun chunk =>
    (splitCompoundSentences chunk).flatMap (fun compound => stripped (splitListItems compound)))

/-- The claims an answer makes. -/
def decomposeClaims (p : HallucinationDetectorParam) (answer : String) : List Claim :=
  if answer = "" then []
  else boundClaims p.maxClaimLength.toNat [] (mergeNumericalClaims (rawClaims answer))

end Decomposition

/-- What the detector meets outside. -/
structure Services where
  unicode : Unicode
  floatRepr : ℚ → String
  /-- Whether there is a configuration under the name of a model. -/
  modelConfig : String → Bool
  /-- Whether the client of the model can be built. -/
  bundle : Bool
  /-- The answer to a prompt, `none` if the call fails. -/
  chat : String → Option String
  jsonRepair : String → Option Val

section Layers

variable (p : HallucinationDetectorParam) (env : Services)

/-- The first ten documents as a text. -/
def buildContext (docs : List RetrievedDoc) : String :=
  join "\n\n" (((docs.take 10).zipIdx.filter (fun d => d.1.content ≠ "")).map (fun d =>
    "[Document " ++ toString (d.2 + 1) ++ "]\n" ++ strip d.1.content))

/-- What the rules say, as a relation. -/
def ruleToNli : RuleResult → NliResult
  | .supported => .entailment
  | .notSupported => .neutral
  | .contradicted => .contradiction

/-- How the model is asked about a claim. -/
def buildVerificationPrompt (context claimText : String) : String :=
  "You are a fact-consistency evaluator. Given the retrieved context and a claim, " ++
    "classify the claim in two ways:\n" ++
    "1. NLI: entailment / neutral / contradiction\n" ++
    "2. Semantic support: SUPPORTED / NOT_SUPPORTED / CONTRADICTED\n\n" ++
    "Use the context only. If the context does not contain enough information, " ++
    "use NOT_SUPPORTED / neutral. If the claim conflicts with the context, " ++
    "use CONTRADICTED / contradiction.\n\n" ++
    "## Context\n" ++ context ++ "\n\n" ++
    "## Claim\n" ++ claimText ++ "\n\n" ++
    "Output strictly as JSON:\n" ++
    "\x7b\"nli\": \"entailment|neutral|contradiction\", " ++
    "\"llm\": \"SUPPORTED|NOT_SUPPORTED|CONTRADICTED\", " ++
    "\"evidence\": \"relevant document snippet or empty\"\x7d"

/-- The text after the last occurrence of a mark, if it occurs. -/
def dropThroughLast (mark : List Char) : List Char → Option (List Char)
  | [] => none
  | c :: cs =>
      (dropThroughLast mark cs).or
        (if mark <+: c :: cs then some ((c :: cs).drop mark.length) else none)

/-- What is read out of the answer of a model. -/
structure VerificationAnswer where
  nli : Option NliResult := none
  llm : Option RuleResult := none
  evidence : String := ""

/-- What the model has said. -/
def parseVerificationAnswer (answer : String) : VerificationAnswer :=
  if answer = "" then {}
  else
    let text := (dropThroughLast "```json".toList answer.toList).getD answer.toList
    let parsed : Dict := match env.jsonRepair (strip (String.ofList (dropFence text))) with
      | some (.dict kvs) => kvs
      | _ => []
    { nli := (nliOf env.unicode parsed).map NliResult.ofText
      llm := (llmOf env.unicode parsed).map RuleResult.ofText
      evidence := strip ((pyGet parsed "evidence" (.str "")).toStr env.unicode) }

/-- The claim with the opinions of the model, `none` if the client cannot be built. -/
def llmVerifyClaim (context : String) (claim : Claim) : Option Claim :=
  -- The opinion on support keeps its default here.
  let unasked := { claim with nliResult := ruleToNli claim.ruleResult }
  if p.llmId = "" then some unasked
  else if ¬ env.modelConfig p.llmId then some unasked
  else if ¬ env.bundle then none
  else
    match env.chat (buildVerificationPrompt context claim.text) with
    | none => some unasked
    | some answer =>
        let parsed := parseVerificationAnswer env answer
        some
          { claim with
            nliResult := parsed.nli.getD (ruleToNli claim.ruleResult)
            llmResult := parsed.llm.getD claim.ruleResult
            evidence := if parsed.evidence ≠ "" then parsed.evidence else claim.evidence }

/-- What the rules' verdict counts. -/
def ruleScore : RuleResult → ℚ
  | .supported => 1
  | .notSupported => 0
  | .contradicted => 0

/-- What the relation counts. -/
def nliScore : NliResult → ℚ
  | .entailment => 1
  | .neutral => 1 / 2
  | .contradiction => 0

/-- What the model's verdict counts. -/
def llmScore : RuleResult → ℚ
  | .supported => 1
  | .notSupported => 3 / 10
  | .contradicted => 0

/-- The weighted score of a claim. -/
def claimScore (claim : Claim) : ℚ :=
  p.ruleWeight * ruleScore claim.ruleResult + p.nliWeight * nliScore claim.nliResult +
    p.llmWeight * llmScore claim.llmResult

/-- The claim with what the rule layer says. -/
def ruleChecked (docs : List RetrievedDoc) (claim : Claim) : Claim :=
  let rule := FactChecker.ruleCheckFact env.unicode env.floatRepr claim.text
    (docs.map RetrievedDoc.content)
  { claim with
    ruleResult := RuleResult.ofText rule.ruleResult
    evidence := rule.matchedEvidence
    ruleEntities := rule.extractedEntities }

/-- The claim with the opinions of the model, or what is made up without it. -/
def modelChecked (context : String) (claim : Claim) : Claim :=
  if p.useLlm ∨ p.useNli then
    match llmVerifyClaim p env context claim with
    | some claim => claim
    | none =>
        if claim.ruleResult = .notSupported then
          { claim with nliResult := .neutral, llmResult := .notSupported }
        else { claim with nliResult := .entailment, llmResult := .supported }
  else claim

/-- Checks a claim by rules and model. -/
def verifyClaim (docs : List RetrievedDoc) (claim : Claim) : Claim :=
  let claim := ruleChecked env docs claim
  if claim.ruleResult = .contradicted then
    { claim with nliResult := .contradiction, llmResult := .contradicted, score := 0 }
  else if claim.ruleResult = .supported ∧ p.skipLlmWhenRuleSupported ∧
      ¬ claim.ruleEntities.isEmpty then
    { claim with nliResult := .entailment, llmResult := .supported, score := 1 }
  else
    let claim := modelChecked p env (buildContext docs) claim
    { claim with score := claimScore p claim }

/-- Checks each claim. -/
def verifyClaims (docs : List RetrievedDoc) (claims : List Claim) : List Claim :=
  claims.map (verifyClaim p env docs)

/-- A claim counts as much as it is long. -/
def Claim.weight (c : Claim) : Nat := max 1 c.text.length

/-- The score of an answer, and how many of its claims do not pass. -/
def aggregateScores (claims : List Claim) : ℚ × Nat :=
  if claims.isEmpty then (1, 0)
  else
    let totalWeight := (claims.map Claim.weight).sum
    let score := (claims.map (fun c => c.score * (c.weight : ℚ))).sum / totalWeight
    (if claims.any (fun c => c.ruleResult = .contradicted) then min score (1 / 2) else score,
      claims.countP (fun c => c.score < p.passThreshold))

end Layers

section Disposal

/-- What the component says is to be done. -/
inductive Action where
  | pass
  | filter
  | regenerate
  | refuse
  deriving DecidableEq, Repr

/-- What is done with an answer. -/
structure Disposal where
  action : Action
  finalAnswer : String
  regenerateContext : List RetrievedDoc := []
  regeneratePrompt : String := ""

/-- The answer where nothing is supported. -/
def standardRefusal : String :=
  "抱歉，当前资料不足以对您的问题给出可靠回答。建议您补充更具体的关键词或联系相关人员。"

/-- The line of a claim in an answer. -/
def claimLine (c : Claim) : String :=
  "- " ++ c.text ++ (if c.evidence = "" then "" else "（引用：" ++ c.evidence ++ "）")

/-- The supported claims as an answer. -/
def buildConservativeAnswer (supportedClaims : List Claim) (introPrefix : Bool) : String :=
  if supportedClaims.isEmpty then standardRefusal
  else
    let intro := if introPrefix then "根据现有资料，已为您整理可确认的信息："
      else "根据现有资料，我可以确认以下信息："
    join "\n" (intro :: supportedClaims.map claimLine ++
      ["\n对于其他未列出的部分，当前资料不足以给出可靠结论。"])

/-- The score of retrieval, that of the reranker where there is none. -/
def RetrievedDoc.relevanceScore (doc : RetrievedDoc) : ℚ :=
  match doc.score.filter (· ≠ 0) with
  | some q => q
  | none => doc.rerankScore.getD 0

/-- The documents with a high score, or else the three best of those with any. -/
def selectHighConfidenceDocs (docs : List RetrievedDoc) : List RetrievedDoc :=
  let high := docs.filter (fun doc =>
    8 / 10 ≤ doc.relevanceScore ∧ (doc.relevance = "relevant" ∨ doc.relevance = ""))
  if high.isEmpty then
    (sortDesc RetrievedDoc.relevanceScore (docs.filter (fun doc => doc.relevanceScore ≠ 0))).take 3
  else high

/-- How an answer is asked for again. -/
def buildRegeneratePrompt (query : String) (docs : List RetrievedDoc) : String :=
  "You must answer the user question using ONLY the provided documents.\n" ++
    "Do not introduce any information not present in the documents.\n" ++
    "Cite sources when possible. Keep the answer concise and factual.\n\n" ++
    "## User Question\n" ++ query ++ "\n\n" ++
    "## Documents\n" ++ buildContext docs ++ "\n\n" ++
    "## Answer"

variable (p : HallucinationDetectorParam) (env : Services)

/-- What is done with an answer of a score. -/
def disposal (answer query : String) (claims : List Claim) (faithfulnessScore : ℚ)
    (docs : List RetrievedDoc) : Disposal :=
  if p.passThreshold ≤ faithfulnessScore then { action := .pass, finalAnswer := answer }
  else if p.filterThreshold ≤ faithfulnessScore then
    { action := .filter
      finalAnswer := buildConservativeAnswer
        (claims.filter (fun c => p.passThreshold ≤ c.score)) true }
  else if p.regenerateThreshold ≤ faithfulnessScore ∧ p.enableRegeneration then
    -- All claims are listed here, not those that passed.
    { action := .regenerate
      finalAnswer := buildConservativeAnswer claims true
      regenerateContext := selectHighConfidenceDocs docs
      regeneratePrompt := buildRegeneratePrompt query (selectHighConfidenceDocs docs) }
  else { action := .refuse, finalAnswer := standardRefusal }

/-- The outputs of the component. -/
structure Outputs extends Disposal where
  isHallucination : Bool
  faithfulnessScore : ℚ
  claims : List Dict
  hallucinationCount : Nat

/-- The component. -/
def detect (answer query : String) (docs : List RetrievedDoc) : Outputs :=
  let claims := decomposeClaims p answer
  if claims.isEmpty then
    { action := .pass, finalAnswer := answer, isHallucination := false, faithfulnessScore := 1
      claims := [], hallucinationCount := 0 }
  else
    let claims := verifyClaims p env docs claims
    let scores := aggregateScores p claims
    { disposal p answer query claims scores.1 docs with
      isHallucination := decide (scores.1 < p.passThreshold)
      faithfulnessScore := Report.round4 scores.1
      claims := claims.map (Claim.toDict env.floatRepr)
      hallucinationCount := scores.2 }

end Disposal

section Gateway

/-- What the gateway returns. -/
structure FaithfulnessResult where
  faithfulnessScore : ℚ
  action : Action
  claims : List Dict

/-- The name of the tenant's model, empty if there is none or it cannot be looked
    up. -/
def resolveTenantLlmId (defaultModel : String → Option String) (tenantId : String) : String :=
  if tenantId = "" then "" else (defaultModel tenantId).getD ""

/-- The context as the one document it is. -/
def contextDocs (context : String) : List RetrievedDoc :=
  if context = "" then [] else [{ content := context }]

/-- `LocalVerifierGateway.verify_faithfulness`. -/
def verifyFaithfulness (env : Services) (defaultModel : String → Option String)
    (answer context query tenantId : String) : FaithfulnessResult :=
  let p : HallucinationDetectorParam := { llmId := resolveTenantLlmId defaultModel tenantId }
  let docs := contextDocs context
  let claims := decomposeClaims p answer
  if claims.isEmpty then { faithfulnessScore := 1, action := .pass, claims := [] }
  else
    let claims := verifyClaims p env docs claims
    let score := (aggregateScores p claims).1
    { faithfulnessScore := Report.round4 score
      action := (disposal p answer query claims score docs).action
      claims := claims.map (Claim.toDict env.floatRepr) }

/-- A world in which the node's verifier is the local gateway. -/
def localWorld (env : Services) (defaultModel : String → Option String) (s : AgentState)
    (w : VerifierWorld) : VerifierWorld :=
  { w with
    verifierResolves := true
    gateway := .score (verifyFaithfulness env defaultModel s.generatedAnswer s.evidenceContext
      s.userQuestion s.tenantId).faithfulnessScore }

end Gateway

end HallucinationDetector

end AgenticRag
