import AgenticRag.Core.Claim

/-!
# The Pair Verifier

Checks pairs of claim and evidence in three layers. The rule layer runs on
every pair. Where its answer is clear the other two layers are filled in from
it; the remaining pairs go to a language model in batches, one call for each
batch, and the model's answer is parsed back to the pairs it was about. A pair
the model gave no usable answer for falls back to the rule layer.

The rule check, the model and the JSON reader are parameters. A call of the
model is known by its number, so the model may answer the same prompt
differently the second time, and any of them may raise.

## Main definitions

* `PairVerifier`: The verifier and what it calls.
* `PairVerifier.verifyPairs`: The whole check.

## Theorems

* `verifyPairs_fixed`, `verifyPairs_evidenceId`: The results answer the pairs, in their order.
-/

namespace AgenticRag

open Py Ordered

/-- A pair to check. -/
structure PairInput where
  claimText : String
  evidenceContent : String
  evidenceId : String

/-- What the rule check returns. -/
structure RuleCheck where
  ruleResult : String
  matchedEvidence : String := ""
  extractedEntities : List Dict := []

/-- The result of checking one pair. -/
structure PairResult where
  evidenceId : String
  ruleResult : String := "unknown"
  nliResult : String := "unknown"
  llmResult : String := "unknown"
  pairStatus : PairStatus := .insufficient
  verifierStatus : VerifierStatus := .ok
  matchedEvidence : String := ""
  extractedEntities : List Dict := []
  partialFailure : Bool := false

/-- The result as a verdict. -/
def PairResult.toPairVerdict (r : PairResult) : PairVerdict :=
  { evidenceId := r.evidenceId
    pairStatus := r.pairStatus
    verifierStatus := r.verifierStatus
    ruleResult := r.ruleResult
    nliResult := r.nliResult
    llmResult := r.llmResult }

/-- The settings of the verifier. -/
structure PairVerifierConfig where
  batchSize : Nat := 5
  skipLlmWhenRuleContradicted : Bool := true
  skipLlmWhenRuleSupportedWithEntities : Bool := true

/-- The verifier. `none` from a parameter means that the call raised. -/
structure PairVerifier where
  config : PairVerifierConfig := {}
  maxLlmCalls : Nat := 50
  ruleCheckFact : String → List String → Option RuleCheck
  callLlm : Nat → String → Option String
  jsonLoads : String → Option Val
  unicode : Unicode

/-- The rule layer. A rule check that raises counts as support without
    entities. -/
def PairVerifier.ruleCheck (pv : PairVerifier) (pair : PairInput) : RuleCheck :=
  let retrievedDocs := if pair.evidenceContent = "" then [] else [pair.evidenceContent]
  (pv.ruleCheckFact pair.claimText retrievedDocs).getD { ruleResult := "SUPPORTED" }

/-- The rules settle a pair. -/
def PairVerifier.shouldSkipLlm (pv : PairVerifier) (rule : RuleCheck) : Bool :=
  (pv.config.skipLlmWhenRuleContradicted && rule.ruleResult == "CONTRADICTED") ||
  (pv.config.skipLlmWhenRuleSupportedWithEntities && rule.ruleResult == "SUPPORTED" &&
    !rule.extractedEntities.isEmpty)

/-- What the rules' verdict stands for. -/
def shortCircuitValues (ruleResult : String) : String × String :=
  if ruleResult = "CONTRADICTED" then ("contradiction", "CONTRADICTED")
  else if ruleResult = "SUPPORTED" then ("entailment", "SUPPORTED")
  else ("neutral", "NOT_SUPPORTED")

/-- The status three layers give together: one contradiction decides, and
    support takes all three. -/
def aggregatePairStatus (ruleResult nliResult llmResult : String) : PairStatus :=
  if ruleResult = "CONTRADICTED" ∨ nliResult = "contradiction" ∨ llmResult = "CONTRADICTED" then
    .contradicted
  else if ruleResult = "SUPPORTED" ∧ nliResult = "entailment" ∧ llmResult = "SUPPORTED" then
    .supported
  else .insufficient

/-- The result of a pair after the rule layer. A pair the short circuit does
    not settle is left open for the model. -/
def PairVerifier.initialResult (pv : PairVerifier) (pair : PairInput) : PairResult :=
  let rule := pv.ruleCheck pair
  -- The other two layers stay unknown until the model has answered.
  let undecided : PairResult :=
    { evidenceId := pair.evidenceId
      ruleResult := rule.ruleResult
      matchedEvidence := rule.matchedEvidence
      extractedEntities := rule.extractedEntities }
  if pv.shouldSkipLlm rule then
    let filled := shortCircuitValues rule.ruleResult
    { undecided with
      nliResult := filled.1
      llmResult := filled.2
      pairStatus := aggregatePairStatus rule.ruleResult filled.1 filled.2 }
  else undecided

/-- Fall back to the rule layer. -/
def PairVerifier.degradeToRule (pv : PairVerifier) (llmCallsUsed : Nat) (r : PairResult) :
    PairResult :=
  let filled := shortCircuitValues r.ruleResult
  { r with
    nliResult := filled.1
    llmResult := filled.2
    pairStatus := aggregatePairStatus r.ruleResult filled.1 filled.2
    verifierStatus := if pv.maxLlmCalls ≤ llmCallsUsed then .budgetExhausted else .ok
    partialFailure := true }

/-- How the model is asked about a batch. -/
def buildBatchPrompt (batch : List PairInput) : String :=
  let pairsText := batch.zipIdx.map (fun p =>
    let evText := if p.1.evidenceContent = "" then "(空)" else take p.1.evidenceContent 2000
    "Pair " ++ toString (p.2 + 1) ++ ":\n  证据：" ++ evText ++ "\n  声明：" ++ p.1.claimText)
  "请分别判断以下各组证据和声明的关系。\n\n" ++ join "\n\n" pairsText ++ "\n\n" ++
    "对每个 pair，请判断：\n" ++
    "1. NLI（自然语言推理）：声明是否可以被证据蕴含或存在矛盾？\n" ++
    "   - entailment：证据蕴含声明（证据支持声明）\n" ++
    "   - neutral：证据不足以判断声明（证据未提及或不相关）\n" ++
    "   - contradiction：声明与证据矛盾\n" ++
    "2. LLM 语义支持度：声明是否被证据支持？\n" ++
    "   - SUPPORTED：证据支持声明\n" ++
    "   - NOT_SUPPORTED：证据不支持声明\n" ++
    "   - CONTRADICTED：声明与证据矛盾\n\n" ++
    "输出严格 JSON 格式（不要额外说明）：\n" ++
    "[\x7b\"pair_index\": 1, \"nli\": \"entailment|neutral|contradiction\", " ++
    "\"llm\": \"SUPPORTED|NOT_SUPPORTED|CONTRADICTED\"\x7d, ...]"

section Parsing

/-- The text after the first occurrence of a mark, if it occurs. -/
def dropThrough (mark : List Char) : List Char → Option (List Char)
  | [] => none
  | c :: cs =>
      if mark <+: c :: cs then some ((c :: cs).drop mark.length) else dropThrough mark cs

/-- Drop a closing code fence and the white space after it. -/
def dropFence : List Char → List Char
  | [] => []
  | c :: cs =>
      if "```".toList <+: c :: cs ∧ ((c :: cs).drop 3).all isSpace then []
      else c :: dropFence cs

/-- The answer without the code fence around it. -/
def unfence (response : String) : String :=
  let text := (strip response).toList
  let text := match dropThrough "```json".toList text with
    | some rest => rest.dropWhile isSpace
    | none => text
  strip (String.ofList (dropFence text))

/-- The list of verdict objects in a parsed answer: the answer itself, or the
    first of the known keys that holds a list. -/
def verdictItems : Val → Option (List Val)
  | .list xs => some xs
  | .dict kvs =>
      (["pair_verdicts", "verdicts", "results", "pairs"].filterMap (fun key =>
        match kvs.lookup key with
        | some (.list xs) => some xs
        | _ => none)).head?
  | _ => none

/-- The position a verdict object claims for itself, counted from one. Zero
    is read as the first position. -/
def pairPosition (expectedCount : Nat) (item : Dict) : Option Nat :=
  let index : Option Int := match item.lookup "pair_index" with
    | some (.int i) => some i
    | some (.bool b) => some (if b then 1 else 0)
    | _ => none
  match index with
  | none => none
  | some i =>
      if 1 ≤ i ∧ i ≤ expectedCount then some i.toNat
      else if 0 ≤ i ∧ i < expectedCount then some (i.toNat + 1)
      else none

/-- The relation that an item names. -/
def nliOf (u : Unicode) (item : Dict) : Option String :=
  let value := ((item.lookup "nli").or (item.lookup "NLI")).getD (.str "")
  let raw := strip (u.lower (value.toStr u))
  if raw = "entailment" ∨ raw = "neutral" ∨ raw = "contradiction" then some raw
  else if contains raw "contradict" then some "contradiction"
  else if contains raw "entail" ∨ contains raw "support" then some "entailment"
  else if contains raw "neutral" then some "neutral"
  else none

/-- The verdict that an item names. -/
def llmOf (u : Unicode) (item : Dict) : Option String :=
  let value := (((item.lookup "llm").or (item.lookup "semantic")).or
    (item.lookup "result")).getD (.str "")
  let raw := strip (u.upper (value.toStr u))
  if raw = "SUPPORTED" ∨ raw = "NOT_SUPPORTED" ∨ raw = "CONTRADICTED" then some raw
  else if contains raw "CONTRADICT" then some "CONTRADICTED"
  else if contains raw "NOT" ∨ contains raw "UNSUPPORTED" then some "NOT_SUPPORTED"
  else if contains raw "SUPPORTED" ∨ contains raw "SUPPORT" then some "SUPPORTED"
  else none

/-- The verdicts in the model's answer, one for each position, `none` where
    there is none to be read. -/
def parseBatchResponse (u : Unicode) (jsonLoads : String → Option Val) (response : String)
    (expectedCount : Nat) : List (Option (String × String)) :=
  let items := if response = "" then none
    else (jsonLoads (unfence response)).bind verdictItems
  match items with
  | none => List.replicate expectedCount none
  | some items =>
      let resultMap := dictOf (items.filterMap (fun item =>
        match item with
        | .dict kvs => (pairPosition expectedCount kvs).map (fun i => (i, kvs))
        | _ => none))
      (List.range expectedCount).map (fun i =>
        match resultMap.lookup (i + 1) with
        | none => none
        | some item =>
            match nliOf u item, llmOf u item with
            | some nli, some llm => some (nli, llm)
            | _, _ => none)

end Parsing

/-- One call of the model for a batch. -/
def PairVerifier.verifyBatch (pv : PairVerifier) (llmCallsUsed : Nat) (batch : List PairInput) :
    List (Option (String × String)) :=
  match pv.callLlm llmCallsUsed (buildBatchPrompt batch) with
  | none => List.replicate batch.length none
  | some response => parseBatchResponse pv.unicode pv.jsonLoads response batch.length

/-- Write a verdict of the model into a result, or fall back. -/
def PairVerifier.backfill (pv : PairVerifier) (llmCallsUsed : Nat)
    (verdict : Option (String × String)) (r : PairResult) : PairResult :=
  match verdict with
  | some (nli, llm) =>
      { r with
        nliResult := nli
        llmResult := llm
        pairStatus := aggregatePairStatus r.ruleResult nli llm
        verifierStatus := .ok
        partialFailure := false }
  | none => pv.degradeToRule llmCallsUsed r

/-- Work through the open pairs batch by batch. The fuel is the number of
    open pairs, and each batch takes at least one. -/
def PairVerifier.processBatches (pv : PairVerifier) :
    Nat → Nat → List (Nat × PairInput) → List PairResult → List PairResult × Nat
  | 0, used, _, results => (results, used)
  | _ + 1, used, [], results => (results, used)
  | fuel + 1, used, p :: pending, results =>
      -- Out of calls, all that is open falls back to the rule layer.
      if pv.maxLlmCalls ≤ used then
        ((p :: pending).foldl (fun rs q => rs.modify q.1 (pv.degradeToRule used)) results, used)
      else
        let batch := (p :: pending).take pv.config.batchSize
        let verdicts := pv.verifyBatch used (batch.map Prod.snd)
        let filled := (batch.zipIdx).foldl (fun rs q =>
          rs.modify q.1.1 (pv.backfill (used + 1) ((verdicts[q.2]?).getD none))) results
        pv.processBatches fuel (used + 1) ((p :: pending).drop pv.config.batchSize) filled

/-- Check a list of pairs. The second component counts the calls of the model
    made so far. A batch size of zero makes the batching raise. -/
def PairVerifier.verifyPairs (pv : PairVerifier) (llmCallsUsed : Nat) (pairs : List PairInput) :
    Except Exc (List PairResult × Nat) :=
  if pairs.isEmpty then .ok ([], llmCallsUsed)
  else
    let results := pairs.map pv.initialResult
    let llmPairs := (pairs.zipIdx.filter (fun p => !pv.shouldSkipLlm (pv.ruleCheck p.1))).map
      (fun p => (p.2, p.1))
    if pv.maxLlmCalls ≤ llmCallsUsed then
      .ok (llmPairs.foldl (fun rs q => rs.modify q.1 (pv.degradeToRule llmCallsUsed)) results,
        llmCallsUsed)
    else if pv.config.batchSize = 0 then .error .valueError
    else .ok (pv.processBatches llmPairs.length llmCallsUsed llmPairs results)

section Order

/-- What of a result neither the model nor a fallback changes. -/
def PairResult.fixed (r : PairResult) : String × String := (r.evidenceId, r.ruleResult)

theorem initialResult_fixed (pv : PairVerifier) (pair : PairInput) :
    (pv.initialResult pair).fixed = (pair.evidenceId, (pv.ruleCheck pair).ruleResult) := by
  rw [PairVerifier.initialResult]
  split_ifs <;> rfl

theorem backfill_fixed (pv : PairVerifier) (used : Nat) (v : Option (String × String))
    (r : PairResult) : (pv.backfill used v r).fixed = r.fixed := by
  rcases v with _ | ⟨nli, llm⟩ <;> rfl

/-- Rewriting results in place leaves what they are about. -/
theorem foldl_modify_fixed {β : Type} (index : β → Nat) (f : β → PairResult → PairResult)
    (hf : ∀ b r, (f b r).fixed = r.fixed) (bs : List β) (results : List PairResult) :
    (bs.foldl (fun rs b => rs.modify (index b) (f b)) results).map PairResult.fixed =
      results.map PairResult.fixed := by
  induction bs generalizing results with
  | nil => rfl
  | cons b rest ih =>
      rw [List.foldl_cons, ih]
      -- Position by position, one rewrite leaves it alone.
      refine List.ext_getElem? fun i => ?_
      rw [List.getElem?_map, List.getElem?_map, List.getElem?_modify]
      cases results[i]? with
      | none => rfl
      | some r =>
          by_cases hi : index b = i
          · simp [hi, hf]
          · simp [hi]

theorem processBatches_fixed (pv : PairVerifier) (fuel used : Nat)
    (pending : List (Nat × PairInput)) (results : List PairResult) :
    (pv.processBatches fuel used pending results).1.map PairResult.fixed =
      results.map PairResult.fixed := by
  induction fuel generalizing used pending results with
  | zero => rfl
  | succ fuel ih =>
      cases pending with
      | nil => rfl
      | cons p rest =>
          rw [PairVerifier.processBatches]
          by_cases hb : pv.maxLlmCalls ≤ used
          · rw [if_pos hb]
            exact foldl_modify_fixed Prod.fst (fun _ => pv.degradeToRule used)
              (fun _ _ => rfl) _ _
          · rw [if_neg hb, ih]
            exact foldl_modify_fixed (fun q : (Nat × PairInput) × Nat => q.1.1) _
              (fun _ _ => backfill_fixed _ _ _ _) _ _

/-- The results are about the pairs, in their order, and keep what the rule
    layer said. -/
theorem verifyPairs_fixed (pv : PairVerifier) (used : Nat) (pairs : List PairInput)
    (results : List PairResult) (used' : Nat)
    (h : pv.verifyPairs used pairs = .ok (results, used')) :
    results.map PairResult.fixed =
      pairs.map (fun pair => (pair.evidenceId, (pv.ruleCheck pair).ruleResult)) := by
  have hinit : (pairs.map pv.initialResult).map PairResult.fixed =
      pairs.map (fun pair => (pair.evidenceId, (pv.ruleCheck pair).ruleResult)) := by
    rw [List.map_map]
    exact List.map_congr_left (fun p _ => initialResult_fixed pv p)
  rw [PairVerifier.verifyPairs] at h
  split_ifs at h with hnil hbudget hsize
  · cases h
    rw [List.isEmpty_iff.mp hnil]
    rfl
  -- The budget was spent before the first call.
  · cases h
    rw [foldl_modify_fixed Prod.fst (fun _ => pv.degradeToRule used) (fun _ _ => rfl), hinit]
  · have hres : _ = results := congrArg Prod.fst (Except.ok.inj h)
    rw [← hres, processBatches_fixed, hinit]

/-- The results answer the pairs, in their order. -/
theorem verifyPairs_evidenceId (pv : PairVerifier) (used : Nat) (pairs : List PairInput)
    (results : List PairResult) (used' : Nat)
    (h : pv.verifyPairs used pairs = .ok (results, used')) :
    results.map PairResult.evidenceId = pairs.map PairInput.evidenceId := by
  have hfixed := congrArg (List.map Prod.fst) (verifyPairs_fixed pv used pairs results used' h)
  rwa [List.map_map, List.map_map] at hfixed

end Order

end AgenticRag
