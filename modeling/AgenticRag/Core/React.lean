import AgenticRag.Core.ReactPolicy
import AgenticRag.Lib.Json

/-!
# The ReAct Loop

The loop in which a model calls tools. In every pass the budget is checked and
the model is asked for an action, which is read off its text, judged by the
guard and carried out by the executor. It ends when the budget is used up, when
the model says so, or when it goes in circles.

A `Turn` is what comes from outside in one pass: the clock, the text the model
writes or the exception it raises, and what carrying out an action gives. The
hash an action is compared by is a parameter.

The loop also keeps what it did, in order. Nothing reads that.

## Main definitions

* `ReactBudget`, `canProceed`: The budget.
* `Loop`, `pass`: A state of the loop, and one pass.
-/

namespace AgenticRag

namespace React

open Py Ordered Skills Structured

section Budget

/-- What is used, and what there is. -/
structure ReactBudget where
  stepCount : Int := 0
  maxSteps : Int := 8
  toolCallCount : Int := 0
  maxToolCalls : Int := 6
  dbQueryCount : Int := 0
  maxDbQueries : Int := 3
  llmCallCount : Int := 0
  maxLlmCalls : Int := 5
  deadlineTs : ℚ := 0
  tokenUsed : Int := 0
  tokenBudget : Int := 12000

/-- What has run out. -/
inductive BudgetViolationType where
  | stepsExceeded
  | toolCallsExceeded
  | dbQueriesExceeded
  | llmCallsExceeded
  | deadlineExceeded
  | tokenBudgetExceeded
  deriving DecidableEq, Repr

/-- `build_budget_from_config`: the limits the configuration overrides. -/
def buildBudgetFromConfig (deadlineTs : ℚ) (cfg : Dict) : Except Exc ReactBudget := do
  let limit (key : String) (default : Int) : Except Exc Int :=
    match cfg.lookup key with
    | none => .ok default
    | some v => v.toInt
  return {
    maxSteps := ← limit "max_steps" 8
    maxToolCalls := ← limit "max_tool_calls" 6
    maxDbQueries := ← limit "max_db_queries" 3
    maxLlmCalls := ← limit "max_llm_calls" 5
    tokenBudget := ← limit "token_budget" 12000
    deadlineTs := deadlineTs }

variable (b : ReactBudget)

/-- `BudgetController.can_proceed`: the first limit that is reached, if there is
    one. -/
def canProceed (now : ℚ) : Option BudgetViolationType :=
  if b.maxSteps ≤ b.stepCount then some .stepsExceeded
  else if b.maxToolCalls ≤ b.toolCallCount then some .toolCallsExceeded
  else if b.maxDbQueries ≤ b.dbQueryCount then some .dbQueriesExceeded
  else if b.maxLlmCalls ≤ b.llmCallCount then some .llmCallsExceeded
  -- A deadline or a token budget of 0 is none.
  else if b.deadlineTs ≠ 0 ∧ b.deadlineTs < now then some .deadlineExceeded
  else if b.tokenBudget ≠ 0 ∧ b.tokenBudget ≤ b.tokenUsed then some .tokenBudgetExceeded
  else none

/-- Counts a step. -/
def incrementStep : ReactBudget := { b with stepCount := b.stepCount + 1 }

/-- Counts a call. -/
def incrementToolCall (toolType : String) : ReactBudget :=
  { b with
    toolCallCount := b.toolCallCount + 1
    dbQueryCount := if toolType = "db_query" then b.dbQueryCount + 1 else b.dbQueryCount }

/-- The loop does not tell how many tokens a call has used. -/
def incrementLlmCall : ReactBudget := { b with llmCallCount := b.llmCallCount + 1 }

end Budget

section Parsing

/-- What the model wants done. -/
structure ReactAction where
  type : String
  toolName : Val
  purpose : String := ""
  arguments : Dict := []
  thoughtSummary : String := ""
  /-- The flag the loop looks for. The record does not declare it. -/
  stop : Bool := false

variable (u : Unicode) (readFloat : String → Option (ℚ × String)) (depth : Nat)

/-- `json.loads` where a value error is caught. Containers that are nested too
    deep are not. -/
def tryLoads (s : String) : Except Exc (Option Val) :=
  match Json.loads readFloat depth s with
  | .ok v => .ok (some v)
  | .error .decode => .ok none
  | .error .digits => .ok none
  -- `RecursionError` is no `ValueError`.
  | .error .recursion => .error .runtimeError
  | .error .fuel => .error .runtimeError

/-- The shortest text up to a closing brace that a fence follows. -/
def toFence : List Char → Option (List Char)
  | [] => none
  | c :: cs =>
      if c = '\x7d' ∧ "```".toList.isPrefixOf (cs.dropWhile isSpace) then some [c]
      else (toFence cs).map (c :: ·)

/-- The object in a fenced block that begins here. -/
def fencedAt (cs : List Char) : Option (List Char) :=
  if "```".toList.isPrefixOf cs then
    let rest := cs.drop 3
    let body := if "json".toList.isPrefixOf rest then rest.drop 4 else rest
    match body.dropWhile isSpace with
    | [] => none
    | c :: inner => if c = '\x7b' then (toFence inner).map (c :: ·) else none
  else none

/-- The object in the first fenced block. -/
def fencedJson : List Char → Option (List Char)
  | [] => none
  | c :: cs => (fencedAt (c :: cs)).or (fencedJson cs)

/-- The text up to where as many braces are closed as were opened. -/
def balanced : Nat → List Char → Option (List Char)
  | _, [] => none
  | open_, c :: cs =>
      if c = '\x7b' then (balanced (open_ + 1) cs).map (c :: ·)
      else if c = '\x7d' then
        if open_ = 1 then some [c] else (balanced (open_ - 1) cs).map (c :: ·)
      else (balanced open_ cs).map (c :: ·)

/-- The first balanced block that can be decoded. -/
def firstBlock : List Char → Except Exc (Option Val)
  | [] => .ok none
  | c :: cs =>
      if c = '\x7b' then
        match balanced 0 (c :: cs) with
        | none => firstBlock cs
        | some block => do
            match ← tryLoads readFloat depth (String.ofList block) with
            | some v => return some v
            | none => firstBlock cs
      else firstBlock cs

/-- `_extract_json`: the text as a whole, a fenced block, or any block. -/
def extractJson (text : String) : Except Exc (Option Val) := do
  if text = "" then return none
  else
    let stripped := strip text
    match ← tryLoads readFloat depth stripped with
    | some v => return some v
    | none =>
        let fenced ← match fencedJson stripped.toList with
          | some block => tryLoads readFloat depth (String.ofList block)
          | none => Except.ok none
        match fenced with
        | some v => return some v
        | none => firstBlock readFloat depth stripped.toList

/-- The first of some values that is not empty, or else the empty text. -/
def firstOf (vs : List Val) : Val := (vs.find? Val.truthy).getD (.str "")

/-- The arguments of an action: its own, those of the text, or what else the
    action holds. -/
def actionArguments (parsed actionSection : Dict) : Dict :=
  match pyOr (pyGet actionSection "arguments" .none) (pyGet parsed "arguments" .none) with
  -- Without a section of its own, an action has no arguments.
  | .none => actionSection.filter
      (fun kv => kv.1 ≠ "type" ∧ kv.1 ≠ "tool_name" ∧ kv.1 ≠ "purpose")
  | .dict args => args
  | v => [("value", v)]

/-- `_coerce_to_action`. -/
def coerceToAction : Val → Option ReactAction
  | .dict parsed =>
      let actionSection := match pyGet parsed "action" .none with
        | .dict d => d
        | _ => []
      let actionType := match firstOf [pyGet actionSection "type" .none, pyGet parsed "type" .none,
          pyGet parsed "action_type" .none, pyGet parsed "tool_name" .none] with
        | .str s => strip s
        | _ => ""
      if actionType = "" then none
      else
        let thought : Val := match firstOf [pyGet parsed "thought_summary" .none,
            pyGet parsed "thought" .none, pyGet parsed "reasoning" .none] with
          | .str s => .str (take s 200)
          | v => v
        some {
          type := actionType
          toolName := pyGet actionSection "tool_name" (.str actionType)
          purpose := (firstOf [pyGet actionSection "purpose" .none,
            pyGet parsed "purpose" .none]).toStr u
          arguments := actionArguments parsed actionSection
          thoughtSummary := thought.toStr u }
  | _ => none

/-- The action that ends the loop. -/
def finishAction (summary : String) : ReactAction :=
  { type := "finish"
    toolName := .str "finish"
    purpose := if summary = "" then "结束 ReAct" else summary
    arguments := [("summary", .str summary), ("answer_hint", .str "")]
    thoughtSummary := if summary = "" then "Finish" else take summary 200 }

/-- `parse_llm_output`. A text without an action ends the loop. -/
def parseLlmOutput (text : String) : Except Exc ReactAction := do
  match ← extractJson readFloat depth text with
  | none => return finishAction "LLM 输出解析失败，强制结束"
  | some .none => return finishAction "LLM 输出解析失败，强制结束"
  | some parsed => return (coerceToAction u parsed).getD (finishAction "Action 字段缺失，强制结束")

end Parsing

section Tools

/-- What a run of the loop is asked for. -/
structure ReactRequest where
  tenantId : String := ""
  userId : String := ""
  llmId : String := ""
  kbIds : List String := []
  dbId : String := ""
  mcpServerName : String := ""
  agentConfig : Dict := []
  skillSet : Option SkillSetArg := none

variable (float : Val → Except Exc Val) (req : ReactRequest) (args : Dict)

/-- The query a retrieval is run with. -/
def usedRagQuery : Val :=
  pyOr (pyOr (pyGet args "query" .none) (pyGet args "query_text" .none)) (.str "")

/-- The knowledge bases a retrieval is run on. -/
def usedKbIds : Val := pyOr (pyGet args "kb_ids" .none) (pyStrs req.kbIds)

/-- What `_call_rag_tool` calls the tool with. -/
def ragInput : Except Exc Dict := do
  return [("query", usedRagQuery args),
    ("query_simplified", pyGet args "query_simplified" (.str "")),
    ("top_k", .int (← (pyGet args "top_k" (.int 5)).toInt)),
    ("enable_rewrite", pyGet args "enable_rewrite" (.bool true)),
    ("enable_rerank", pyGet args "enable_rerank" (.bool true)),
    ("kb_ids", usedKbIds req args),
    ("tenant_id", .str req.tenantId),
    ("llm_id", .str req.llmId),
    ("similarity_threshold",
      ← float (pyGet args "similarity_threshold" (.float (1 / 5) "0.2"))),
    ("keywords_similarity_weight",
      ← float (pyGet args "keywords_similarity_weight" (.float (1 / 2) "0.5"))),
    ("rerank_id", pyGet args "rerank_id" (.str ""))]

/-- The text a database query is run with. -/
def usedSql : Val := pyOr (pyOr (pyGet args "query" .none) (pyGet args "sql" .none)) (.str "")

/-- The database a query is run on. -/
def usedDbId : Val := pyOr (pyGet args "db_id" .none) (.str req.dbId)

/-- What `_call_db_tool` calls the runner with. -/
def dbInput : Dict :=
  [("query", usedSql args),
    ("db_id", usedDbId req args),
    ("tenant_id", .str req.tenantId),
    ("llm_id", .str req.llmId),
    ("mcp_server_name", pyOr (pyGet args "mcp_server_name" .none) (.str req.mcpServerName)),
    ("enable_self_healing", pyGet args "enable_self_healing" (.bool true))]

/-- What `_call_web_tool` calls the tool with. -/
def webInput : Except Exc Dict := do
  return [("query", pyOr (pyGet args "query" .none) (.str "")),
    ("max_results", .int (← (pyGet args "max_results" (.int 5)).toInt)),
    ("search_engine", pyGet args "search_engine" (.str "tavily")),
    ("search_depth", pyGet args "search_depth" (.str "basic"))]

/-- What the tool of an action is called with. Other types have no tool. -/
def toolInput (actionType : String) : Except Exc (Option Dict) :=
  if actionType = "rag_search" then (ragInput float req args).map some
  else if actionType = "db_query" then .ok (some (dbInput req args))
  else if actionType = "web_search" then (webInput args).map some
  else .ok none

/-- The arguments an action is carried out with. -/
def executedArguments (r : PolicyResult) (action : ReactAction) : Dict :=
  if r.sanitizedArguments = [] then action.arguments else r.sanitizedArguments

end Tools

section Guards

/-- The evidence an action gives, as far as the loop reads it. -/
structure EvidenceRef where
  evidenceId : String
  relevanceScore : ℚ
  deriving DecidableEq

/-- The limits of the guard. -/
structure LoopGuardConfig where
  sameActionLimit : Int := 3
  rerankDropLimit : Int := 2
  minEvidenceGain : Int := 1
  minRerankDrop : ℚ := 1 / 20
  absoluteQualityFloor : ℚ := 3 / 10

/-- What the guard remembers. -/
structure LoopGuardState where
  iterationCount : Nat := 0
  actionSignature : String := ""
  sameActionCount : Nat := 0
  rerankScoreHistory : List ℚ := []
  rerankDropCount : Nat := 0

/-- Why the loop ends. -/
inductive FinishReason where
  | completed
  | budgetExhausted
  | sameActionLoop
  | rerankDeclining
  | error
  | needsClarification
  | policyDenied
  deriving DecidableEq, Repr

variable (cfg : LoopGuardConfig)

/-- `_check_loop_guard_termination`. -/
def checkLoopGuardTermination (g : LoopGuardState) : Option FinishReason :=
  if cfg.sameActionLimit ≤ g.sameActionCount then some .sameActionLoop
  else if cfg.rerankDropLimit ≤ g.rerankDropCount then some .rerankDeclining
  else none

/-- The ids of the evidence that have one. -/
def evidenceIds (evidence : List EvidenceRef) : List String :=
  (evidence.map EvidenceRef.evidenceId).filter (· ≠ "")

/-- How many drops in a row the scores show, given how many there were. A drop is the
    exact difference; that of floats can lie below it, as from 0.85 to 0.8. -/
def rerankDrops (history : List ℚ) (gain : Int) (score : ℚ) (drops : Nat) : Nat :=
  match history.reverse with
  | c :: b :: a :: _ =>
      if c < b ∧ b < a ∧ cfg.minRerankDrop ≤ a - b ∧ cfg.minRerankDrop ≤ b - c ∧
          (gain < cfg.minEvidenceGain ∨ score < cfg.absoluteQualityFloor) then drops + 1
      else 0
  -- Fewer than three scores say nothing.
  | _ => drops

/-- `_update_loop_guard`. -/
def updateLoopGuard (g : LoopGuardState) (actionType signature : String)
    (before after : List EvidenceRef) (rerankTopScore : Option ℚ) : LoopGuardState :=
  let gain : Int :=
    (((evidenceIds after).dedup.filter (· ∉ evidenceIds before)).length : Nat)
  let counted :=
    { g with
      -- A repeated action only counts if it brings nothing new.
      sameActionCount :=
        if signature = g.actionSignature ∧ gain < cfg.minEvidenceGain then g.sameActionCount + 1
        else 1
      actionSignature := signature
      iterationCount := g.iterationCount + 1 }
  match rerankTopScore with
  | some score =>
      if actionType = "rag_search" then
        let history := g.rerankScoreHistory ++ [score]
        { counted with
          rerankScoreHistory := history
          rerankDropCount := rerankDrops cfg history gain score g.rerankDropCount }
      else counted
  | none => counted

end Guards

section Loop

/-- What carrying out an action gives. -/
structure Observed where
  success : Bool
  error : String := ""
  rerankTopScore : Option ℚ := none
  evidences : List EvidenceRef := []

/-- What comes from outside in one pass. -/
structure Turn where
  now : ℚ
  llm : Except Exc String
  observed : Except Exc Observed

/-- Where something failed. -/
inductive FailureStep where
  | reason
  | policy
  | tool
  deriving DecidableEq, Repr

/-- What the loop did: it asked the model, judged an action, carried one out. -/
inductive Event where
  | reasoned
  | judged (action : ReactAction) (result : PolicyResult)
  | executed (action : ReactAction)

/-- How the loop ends. -/
inductive Ending where
  | finished (reason : FinishReason)
  | raised (e : Exc)
  deriving DecidableEq, Repr

/-- The state of the loop. -/
structure Loop where
  budget : ReactBudget
  failures : List FailureStep := []
  evidence : List EvidenceRef := []
  loopGuard : LoopGuardState := {}
  events : List Event := []
  ended : Option Ending := none

/-- What a run is set up with. -/
structure Setup where
  unicode : Unicode
  casefold : String → String
  modelValidate : Val → Option ResolvedSkillSet
  readFloat : String → Option (ℚ × String)
  decodeDepth : Nat
  signature : String → Dict → String
  guard : PolicyGuard
  loopGuardConfig : LoopGuardConfig := {}
  request : ReactRequest := {}

variable (x : Setup)

/-- The evidence with what is new. -/
def mergeEvidence (evidence : List EvidenceRef) (evidences : List EvidenceRef) :
    List EvidenceRef :=
  evidences.foldl (fun acc ev =>
    if acc.any (fun e => e.evidenceId == ev.evidenceId) then acc else acc ++ [ev]) evidence

/-- The best score of a retrieval. -/
def rerankScore (actionType : String) (o : Observed) : Option ℚ :=
  if actionType = "rag_search" then
    o.rerankTopScore.or
      (((o.evidences.map EvidenceRef.relevanceScore).filter (· ≠ 0)).max?)
  else none

/-- What the policy is asked about. -/
def policyContext (action : ReactAction) : PolicyContext :=
  { tenantId := x.request.tenantId
    userId := x.request.userId
    toolName := action.type
    actionType := action.type
    purpose := action.purpose
    arguments := action.arguments
    agentConfig := x.request.agentConfig
    skillSet := x.request.skillSet }

/-- The judgement of the guard on an action. -/
def judge (action : ReactAction) : Except Exc PolicyResult :=
  x.guard.evaluate x.unicode x.casefold x.modelValidate (policyContext x action)

/-- Carry out an action and take in what it gives. -/
def execute (t : Turn) (l : Loop) (action : ReactAction) : Loop :=
  -- The call is counted before it is made.
  let started : Loop :=
    { l with
      budget := incrementToolCall l.budget action.type
      events := l.events ++ [.executed action] }
  match t.observed with
  | .error e => { started with ended := some (.raised e) }
  | .ok o =>
      -- A tool that fails is an observation too, and costs a step.
      let evidence := mergeEvidence l.evidence o.evidences
      { started with
        evidence := evidence
        loopGuard :=
          if o.success then
            updateLoopGuard x.loopGuardConfig l.loopGuard action.type
              (x.signature action.type action.arguments) l.evidence evidence
              (rerankScore action.type o)
          else l.loopGuard
        failures := if o.success then l.failures else l.failures ++ [.tool]
        budget := incrementStep started.budget }

/-- An action that is refused. After three refusals among the last five
    failures the loop ends, unless only an approval was missing. -/
def refuse (l : Loop) (final : Bool) : Loop :=
  let failures := l.failures ++ [.policy]
  { l with
    failures := failures
    budget := incrementStep l.budget
    ended :=
      if final ∧ 3 ≤ (failures.drop (failures.length - 5)).count .policy then
        some (.finished .policyDenied)
      else none }

/-- What the guard lets through is carried out. -/
def policyStep (t : Turn) (l : Loop) (action : ReactAction) : Loop :=
  match judge x action with
  | .error e => { l with ended := some (.raised e) }
  | .ok r =>
      let judged := { l with events := l.events ++ [.judged action r] }
      match r.decision with
      | .deny => refuse judged true
      | .needsApproval => refuse judged false
      -- A missing clarification is not handled, so it ends up here.
      | _ => execute x t judged { action with arguments := executedArguments r action }

/-- Whether a slice can be taken of a value. -/
def sliceable : Val → Bool
  | .str _ => true
  | .list _ => true
  | _ => false

/-- What the loop does with the action the model has written. -/
def act (t : Turn) (l : Loop) (action : ReactAction) : Loop :=
  if action.type = "finish" ∨ action.stop then { l with ended := some (.finished .completed) }
  else if action.type = "ask_clarification" then
    -- The question is cut for the log.
    if sliceable (pyGet action.arguments "question" (.str "")) then
      { l with ended := some (.finished .needsClarification) }
    else { l with ended := some (.raised .typeError) }
  else policyStep x t l action

/-- The model is asked, at the cost of one call. -/
def asked (l : Loop) : Loop :=
  { l with budget := incrementLlmCall l.budget, events := l.events ++ [.reasoned] }

/-- The action the model writes, or the exception it comes to. -/
def reasonStep (t : Turn) : Except Exc ReactAction := do
  parseLlmOutput x.unicode x.readFloat x.decodeDepth (← t.llm)

/-- What the checks at the head of a pass say. -/
def stopped (t : Turn) (l : Loop) : Option FinishReason :=
  if (canProceed l.budget t.now).isSome then some .budgetExhausted
  else checkLoopGuardTermination x.loopGuardConfig l.loopGuard

/-- One pass of the main loop. A loop that has ended stays as it is. -/
def pass (t : Turn) (l : Loop) : Loop :=
  if l.ended.isSome then l
  else
    match stopped x t l with
    | some reason => { l with ended := some (.finished reason) }
    | none =>
        match reasonStep x t with
        | .error _ =>
            -- The call is counted even if the model raises.
            { asked l with failures := l.failures ++ [.reason], ended := some (.finished .error) }
        | .ok action => act x t (asked l) action

end Loop

end React

end AgenticRag
