import AgenticRag.Core.Graph
import AgenticRag.Lib.Driven

/-!
# Termination

When a run of the workflow comes to its end. Three loops could keep it going:
a tool is tried again, the web is asked, the answer is written again. The
first and the third are counted. Every retry spends one of the retries the
request was given, and every new answer one of the two it may have.

The second is not counted, and nothing on its way round changes what the
quality gate reads. Once the gate falls back on the web with no reason to
terminate it does so for ever after: `fallsToWeb_trapped`. Apart from that
every step brings the end closer (`workLeft_falls`), so a run ends exactly
when the gate never falls back.

`FallsToWeb` says on the state when that happens, without running the gate.

## Main definitions

* `Workflow`: The run of the workflow on a request.
* `workLeft`: The measure of the work that is left.

## Theorems

* `fallsToWeb_trapped`: Falling back goes on for ever.
* `workLeft_falls`: Every other step brings the end closer.
* `workflow_ends_iff`: When a run ends.
-/

namespace AgenticRag

open Driven

/-- The run of the workflow on a request, step by step. -/
def Workflow (rt : Runtime) (ω : Nat → World) (s : AgentState) (n : Nat) : Config :=
  runFor (step rt) ω ⟨.questionInput, s⟩ n

section Gate

/-- Whether the end of the exploration leaves the decision open. -/
def AgentState.ExplorationOpen (s : AgentState) : Prop :=
  s.explorationVerdict ∉
    ["data_found", "no_data_confirmed", "exploration_failed", "budget_exhausted"]

/-- Whether the target has a tool that may be tried again. -/
def RouteTarget.Retries (target : RouteTarget) : Prop :=
  target = .rag ∨ target = .hybrid ∨ target = .database ∨ target = .graph

/-- The states from which the gate falls back on the web. Nothing asks the
    run to terminate, and either the exploration of the database gave up with
    no retry left, or the retrieval service failed, or the token budget of
    the retries is spent, or the scores are not good enough and there is no
    retry left or no tool to try again. -/
def AgentState.FallsToWeb (s : AgentState) : Prop :=
  s.terminationReason = "" ∧
    ((s.explorationVerdict = "exploration_failed" ∧ s.maxRetries ≤ s.retryCount) ∨
      s.explorationVerdict = "budget_exhausted" ∨
      (s.ExplorationOpen ∧
        (s.retrievalInfraError = true ∨ s.retryTokenBudget ≤ s.retryTokenUsed ∨
          (s.routeTarget ≠ .chitchat ∧ qualityOk s.quality s.routeTarget = false ∧
            (s.maxRetries ≤ s.retryCount ∨ ¬ s.routeTarget.Retries)))))

theorem makeDecision_fallbackWeb_iff (q : Quality) (retryCount maxRetries : Nat)
    (target : RouteTarget) :
    makeDecision q retryCount maxRetries target = .fallbackWeb ↔
      target ≠ .chitchat ∧ qualityOk q target = false ∧
        (maxRetries ≤ retryCount ∨ ¬ target.Retries) := by
  unfold makeDecision
  by_cases hchat : target = .chitchat
  · simp [hchat]
  rw [if_neg hchat]
  cases hok : qualityOk q target with
  | true => simp
  | false =>
      -- With retries left only a target without a tool of its own falls back.
      by_cases hleft : retryCount < maxRetries
      · have hnot : ¬ maxRetries ≤ retryCount := by omega
        rw [if_neg Bool.false_ne_true, if_pos hleft]
        cases target <;> simp_all [RouteTarget.Retries]
      · have hout : maxRetries ≤ retryCount := by omega
        rw [if_neg Bool.false_ne_true, if_neg hleft]
        simp [hchat, hout]

/-- A retry is decided only while retries are left. -/
theorem retry_left (s : AgentState) (h : s.gateDecision.isRetry = true) :
    s.retryCount < s.maxRetries := by
  by_contra hout
  -- Both places that decide a retry ask whether one is left.
  have hmake : (makeDecision s.quality s.retryCount s.maxRetries s.routeTarget).isRetry = false := by
    unfold makeDecision
    rw [if_neg hout]
    split_ifs <;> rfl
  revert h
  unfold AgentState.gateDecision decideByVerdict
  rw [if_neg hout]
  split_ifs
  all_goals first | exact Bool.eq_false_iff.mp hmake | exact Bool.false_ne_true

/-- The condition is the decision of the gate, taken with nothing asking the
    run to terminate. -/
theorem fallsToWeb_iff (s : AgentState) :
    s.FallsToWeb ↔ s.terminationReason = "" ∧ s.gateDecision = .fallbackWeb := by
  rw [AgentState.FallsToWeb, AgentState.gateDecision, ← makeDecision_fallbackWeb_iff]
  refine and_congr_right fun _ => ?_
  rw [decideByVerdict, AgentState.ExplorationOpen]
  -- The verdicts of the exploration come first, in the order of the source.
  by_cases hfound : s.explorationVerdict = "data_found"
  · simp [hfound]
  by_cases hnone : s.explorationVerdict = "no_data_confirmed"
  · simp [hnone]
  by_cases hfailed : s.explorationVerdict = "exploration_failed"
  · by_cases hleft : s.retryCount < s.maxRetries
    · simp [hfailed, hleft, Nat.not_le.mpr hleft]
    · simp [hfailed, hleft, Nat.not_lt.mp hleft]
  by_cases hbudget : s.explorationVerdict = "budget_exhausted"
  · simp [hbudget]
  -- No verdict decides, so the two checks before the scores are next.
  simp only [hfound, hnone, hfailed, hbudget, if_false, List.mem_cons, List.not_mem_nil, or_false,
    not_false_eq_true, true_and, false_and, false_or]
  by_cases hinfra : s.retrievalInfraError = true
  · simp [hinfra]
  by_cases htokens : s.retryTokenBudget ≤ s.retryTokenUsed
  · simp [hinfra, htokens]
  · simp [hinfra, htokens]

instance (s : AgentState) : Decidable s.FallsToWeb :=
  decidable_of_iff _ (fallsToWeb_iff s).symm

end Gate

section Web

/-- The way round by the web. -/
def WebLoop (c : Config) : Prop :=
  c.state.FallsToWeb ∧
    (c.node = .webTool ∨ c.node = .evidenceFusion ∨ c.node = .reflection ∨ c.node = .qualityCheck)

/-- The gate at a state that falls back changes nothing but the record of its
    decision. -/
theorem FallsToWeb.qualityCheck {s : AgentState} (h : s.FallsToWeb) :
    qualityCheckNode s = { s with qualityDecision := .fallbackWeb } := by
  have hgate := ((fallsToWeb_iff s).mp h).2
  simp [qualityCheckNode, hgate, QualityDecision.isRetry]

/-- Falling back goes on for ever: the way round by the web leads back to
    itself. -/
theorem fallsToWeb_trapped (rt : Runtime) (x : World) (c : Config) (h : WebLoop c) :
    WebLoop (step rt x c) := by
  rcases c with ⟨node, s⟩
  rcases h with ⟨hfalls, hnode⟩
  -- No field the condition reads is written by the three nodes before the gate.
  rcases hnode with rfl | rfl | rfl | rfl
  · exact ⟨hfalls, .inr (.inl rfl)⟩
  · exact ⟨hfalls, .inr (.inr (.inl rfl))⟩
  · exact ⟨hfalls, .inr (.inr (.inr rfl))⟩
  -- The gate takes the web again, and counts nothing.
  · have hcheck := FallsToWeb.qualityCheck hfalls
    have hedge : qualityCheckDecision (qualityCheckNode s) = .webTool := by
      rw [hcheck, qualityCheckDecision]
      exact if_neg (not_not.mpr hfalls.1)
    refine ⟨?_, .inl hedge⟩
    change (qualityCheckNode s).FallsToWeb
    rw [hcheck]
    exact hfalls

theorem webLoop_not_finish {c : Config} (h : WebLoop c) : c.node ≠ .finish := by
  intro hfinish
  rcases h with ⟨-, hnode | hnode | hnode | hnode⟩
  all_goals
    rw [hnode] at hfinish
    cases hfinish

end Web

section Counters

/-- The retries and the new answers a state has left. -/
def retriesLeft (s : AgentState) : Nat :=
  s.maxRetries - s.retryCount

/-- How often it may be asked again. -/
def regeneratesLeft (s : AgentState) : Nat :=
  maxRegenerates - s.regenerateCount

/-- A state that has left what another has. -/
def SameLeft (s t : AgentState) : Prop :=
  retriesLeft t = retriesLeft s ∧ regeneratesLeft t = regeneratesLeft s

variable (x : World) (s : AgentState)

theorem sameLeft_intentRouterNode : SameLeft s (intentRouterNode x s) := by
  unfold intentRouterNode
  split_ifs <;> exact ⟨rfl, rfl⟩

theorem sameLeft_clarificationNode : SameLeft s (clarificationNode x s) := by
  unfold clarificationNode
  split_ifs <;> exact ⟨rfl, rfl⟩

theorem sameLeft_ragToolNode : SameLeft s (ragToolNode x s) := by
  unfold ragToolNode
  split <;> exact ⟨rfl, rfl⟩

theorem sameLeft_dbToolNode : SameLeft s (dbToolNode x s) := by
  unfold dbToolNode
  split <;> exact ⟨rfl, rfl⟩

theorem sameLeft_reactSubgraphNode : SameLeft s (reactSubgraphNode x s) := by
  unfold reactSubgraphNode
  split_ifs <;> exact ⟨rfl, rfl⟩

theorem sameLeft_answerRendererNode : SameLeft s (answerRendererNode s) := by
  simp only [SameLeft, retriesLeft, regeneratesLeft, answerRendererNode]
  cases s.answerAst <;> exact ⟨rfl, rfl⟩

theorem left_userQuestionNode :
    retriesLeft (userQuestionNode x s) = defaultMaxRetries ∧
      regeneratesLeft (userQuestionNode x s) = regeneratesLeft s := by
  unfold userQuestionNode
  split_ifs <;> exact ⟨rfl, rfl⟩

/-- A new answer is asked for only while one is left. -/
theorem dispose_regenerate {q : ℚ} {count : Nat} (h : dispose q count = .regenerate) :
    count < maxRegenerates := by
  unfold dispose at h
  split_ifs at h with _ _ _ hout
  exact Nat.lt_of_not_le hout

/-- The hallucination node spends one of the new answers for each it asks
    for. -/
theorem left_hallucinationNode (rt : Runtime) (w : VerifierWorld) :
    retriesLeft (hallucinationNode rt w s).1 = retriesLeft s ∧
      ((hallucinationNode rt w s).1.hallucinationAction = .regenerate ∧
          regeneratesLeft (hallucinationNode rt w s).1 + 1 = regeneratesLeft s ∨
        (hallucinationNode rt w s).1.hallucinationAction ≠ .regenerate ∧
          regeneratesLeft (hallucinationNode rt w s).1 = regeneratesLeft s) := by
  cases hout : hallucinationNode rt w s with
  | mk t calls =>
  have houtcome := hallucinationNode_outcome rt w s
  rw [hout] at houtcome
  cases houtcome with
  | rejected => exact ⟨rfl, .inr ⟨PolicyAction.noConfusion, rfl⟩⟩
  | unchecked => exact ⟨rfl, .inr ⟨PolicyAction.noConfusion, rfl⟩⟩
  | scored q =>
      refine ⟨rfl, ?_⟩
      -- The count goes up with the action, in the same update.
      by_cases hagain : dispose q s.regenerateCount = .regenerate
      · have hleft := dispose_regenerate hagain
        refine .inl ⟨hagain, ?_⟩
        simp only [regeneratesLeft, AgentState.scored, hagain, if_true]
        omega
      · refine .inr ⟨hagain, ?_⟩
        simp only [regeneratesLeft, AgentState.scored, hagain, if_false]
  | unparsed hleft =>
      refine ⟨rfl, .inl ⟨rfl, ?_⟩⟩
      simp only [regeneratesLeft, AgentState.scored, if_true]
      omega

end Counters

section Measure

/-- The visits of the gate that send the run back to a tool. -/
def LoopingVisit (c : Config) : Prop :=
  c.node = .qualityCheck ∧
    qualityCheckDecision (qualityCheckNode c.state) ∈
      [Node.ragTool, Node.dbTool, Node.graphTool, Node.webTool]

/-- The visits of the hallucination node that ask for a new answer. -/
def RegenerateVisit (rt : Runtime) (x : World) (c : Config) : Prop :=
  c.node = .hallucination ∧
    (hallucinationNode rt x.verifier c.state).1.hallucinationAction = .regenerate

instance : DecidablePred LoopingVisit := fun c =>
  inferInstanceAs (Decidable (c.node = .qualityCheck ∧
    qualityCheckDecision (qualityCheckNode c.state) ∈
      [Node.ragTool, Node.dbTool, Node.graphTool, Node.webTool]))

instance (rt : Runtime) (x : World) : DecidablePred (RegenerateVisit rt x) := fun c =>
  inferInstanceAs (Decidable (c.node = .hallucination ∧
    (hallucinationNode rt x.verifier c.state).1.hallucinationAction = .regenerate))

/-- The work that is left. Six steps pay for a retry, three for a new
    answer, and the generation is longer than what the tools leave of it. -/
def workLeft (c : Config) : Nat :=
  match c.node with
  | .questionInput => 19 + 6 * defaultMaxRetries
  | .intentRouter => 18 + 6 * retriesLeft c.state
  | .ragTool => 17 + 6 * retriesLeft c.state
  | .evidenceFusion => 15 + 6 * retriesLeft c.state
  | .reflection => 14 + 6 * retriesLeft c.state
  | .qualityCheck => 13 + 6 * retriesLeft c.state
  | .promptAssembly => 6 + 3 * regeneratesLeft c.state
  | .llmGenerate => 5 + 3 * regeneratesLeft c.state
  | .hallucination => 4 + 3 * regeneratesLeft c.state
  | .answerRenderer => 3
  | .fallback => 3
  | .observability => 2
  | .answerOutput => 1
  | .finish => 0
  | _ => 16 + 6 * retriesLeft c.state

theorem regeneratesLeft_le (s : AgentState) : regeneratesLeft s ≤ 2 :=
  Nat.sub_le _ _

/-- The gate that does not fall back spends a retry or leaves the tools. -/
theorem left_qualityCheckNode (s : AgentState) (h : ¬ s.FallsToWeb) :
    regeneratesLeft (qualityCheckNode s) = regeneratesLeft s ∧
      (retriesLeft (qualityCheckNode s) + 1 = retriesLeft s ∧
          qualityCheckDecision (qualityCheckNode s) ∈
            [Node.ragTool, Node.dbTool, Node.graphTool, Node.fallback] ∨
        retriesLeft (qualityCheckNode s) = retriesLeft s ∧
          qualityCheckDecision (qualityCheckNode s) ∈ [Node.promptAssembly, Node.fallback]) := by
  refine ⟨rfl, ?_⟩
  have hretry := retry_left s
  -- A fallback on the web is left over only where the run is to terminate.
  have hweb : s.terminationReason = "" → s.gateDecision ≠ .fallbackWeb := by
    intro hreason hgate
    exact h ((fallsToWeb_iff s).mpr ⟨hreason, hgate⟩)
  cases hgate : s.gateDecision <;>
    by_cases hreason : s.terminationReason = "" <;>
    simp_all [qualityCheckNode, qualityCheckDecision, retriesLeft, QualityDecision.isRetry] <;>
    omega

theorem routeDecision_mem (s : AgentState) :
    routeDecision s ∈ [Node.clarification, Node.reactSubgraph, Node.planExecutor, Node.ragTool,
      Node.dbTool, Node.webTool, Node.restTool, Node.graphTool, Node.promptAssembly] := by
  simp only [routeDecision]
  split_ifs
  · decide
  · decide
  · decide
  · cases s.routeTarget <;> simp

/-- The router leaves less work than it found. -/
theorem workLeft_routeDecision (s : AgentState) (h : routeDecision s ≠ .clarification) :
    workLeft ⟨routeDecision s, s⟩ < 18 + 6 * retriesLeft s := by
  have hregenerates := regeneratesLeft_le s
  have hmem := routeDecision_mem s
  simp only [List.mem_cons, List.not_mem_nil, or_false] at hmem
  rcases hmem with hnode | hnode | hnode | hnode | hnode | hnode | hnode | hnode | hnode
  · exact absurd hnode h
  -- Every tool is closer to the end than the router, and so is the prompt.
  all_goals
    rw [hnode]
    simp only [workLeft]
    omega

/-- The gate that does not fall back leaves less work than it found. -/
theorem workLeft_qualityCheck (s : AgentState) (h : ¬ s.FallsToWeb) :
    workLeft ⟨qualityCheckDecision (qualityCheckNode s), qualityCheckNode s⟩ <
      13 + 6 * retriesLeft s := by
  have hregenerates := regeneratesLeft_le (qualityCheckNode s)
  rcases left_qualityCheckNode s h with ⟨-, ⟨hleft, hmem⟩ | ⟨hleft, hmem⟩⟩
  -- A retry goes back by up to four steps and pays six.
  · simp only [List.mem_cons, List.not_mem_nil, or_false] at hmem
    rcases hmem with hnode | hnode | hnode | hnode
    all_goals
      rw [hnode]
      simp only [workLeft]
      omega
  -- Past the tools, what is left of the generation fits below the gate.
  · simp only [List.mem_cons, List.not_mem_nil, or_false] at hmem
    rcases hmem with hnode | hnode
    all_goals
      rw [hnode]
      simp only [workLeft]
      omega

theorem workLeft_hallucination (rt : Runtime) (w : VerifierWorld) (s : AgentState) :
    workLeft ⟨hallucinationDecision (hallucinationNode rt w s).1, (hallucinationNode rt w s).1⟩ <
      4 + 3 * regeneratesLeft s := by
  rcases left_hallucinationNode s rt w with ⟨-, ⟨hagain, hleft⟩ | ⟨hother, hleft⟩⟩
  -- A new answer goes back by two steps and pays three.
  · simp only [hallucinationDecision, hagain, workLeft]
    omega
  · cases haction : (hallucinationNode rt w s).1.hallucinationAction with
    | regenerate => exact absurd haction hother
    | _ =>
        simp only [hallucinationDecision, haction, workLeft]
        omega

/-- Every step that asks for no clarification and does not fall back on the
    web brings the end closer. -/
theorem workLeft_falls (rt : Runtime) (x : World) (c : Config)
    (hhere : c.node ≠ .clarification) (hnext : (step rt x c).node ≠ .clarification)
    (hgate : c.node = .qualityCheck → ¬ c.state.FallsToWeb) :
    c.node = .finish ∨ workLeft (step rt x c) < workLeft c := by
  rcases c with ⟨node, s⟩
  cases node with
  | clarification => exact absurd rfl hhere
  | finish => exact .inl rfl
  | questionInput =>
      right
      simp only [step, workLeft, (left_userQuestionNode x s).1]
      omega
  | intentRouter =>
      right
      have hleft := workLeft_routeDecision (intentRouterNode x s) hnext
      rw [(sameLeft_intentRouterNode x s).1] at hleft
      exact hleft
  | ragTool =>
      right
      have hleft := (sameLeft_ragToolNode x s).1
      -- A hybrid question asks the database next, any other goes to fusion.
      by_cases hhybrid : (ragToolNode x s).routeTarget = .hybrid
      · simp only [step, afterRagTool, hhybrid, if_true, workLeft, hleft]
        omega
      · simp only [step, afterRagTool, hhybrid, if_false, workLeft, hleft]
        omega
  | dbTool =>
      right
      simp only [step, workLeft, (sameLeft_dbToolNode x s).1]
      omega
  | reactSubgraph =>
      right
      simp only [step, workLeft, (sameLeft_reactSubgraphNode x s).1]
      omega
  | qualityCheck => exact .inr (workLeft_qualityCheck s (hgate rfl))
  | hallucination => exact .inr (workLeft_hallucination rt x.verifier s)
  | _ =>
      -- The other nodes write neither counter and go on to the next one.
      right
      simp [step, workLeft, retriesLeft, regeneratesLeft, webToolNode, restToolNode, graphToolNode,
        planExecutorNode, fusedNode, promptAssemblyNode, llmGenerateNode]

/-- The retries the gate may still spend. Past the tools there are none. -/
def retryPotential (c : Config) : Nat :=
  match c.node with
  | .questionInput => defaultMaxRetries
  | .promptAssembly => 0
  | .llmGenerate => 0
  | .hallucination => 0
  | .answerRenderer => 0
  | .observability => 0
  | .answerOutput => 0
  | .fallback => 0
  | .finish => 0
  | _ => retriesLeft c.state

theorem retryPotential_le (node : Node) (s : AgentState) (h : node ≠ .questionInput) :
    retryPotential ⟨node, s⟩ ≤ retriesLeft s := by
  cases node <;> simp_all [retryPotential]

/-- No step adds to the retries, and a looping visit spends one. -/
theorem retryPotential_step (rt : Runtime) (x : World) (c : Config)
    (hgate : c.node = .qualityCheck → ¬ c.state.FallsToWeb) :
    retryPotential (step rt x c) ≤ retryPotential c ∧
      (LoopingVisit c → retryPotential (step rt x c) < retryPotential c) := by
  rcases c with ⟨node, s⟩
  by_cases hnode : node = .qualityCheck
  · subst hnode
    rcases left_qualityCheckNode s (hgate rfl) with ⟨-, ⟨hleft, hmem⟩ | ⟨hleft, hmem⟩⟩
    -- A retry is spent, whatever tool it goes to.
    · have hne : qualityCheckDecision (qualityCheckNode s) ≠ .questionInput := by
        intro hstart
        rw [hstart] at hmem
        exact absurd hmem (by decide)
      have hle := retryPotential_le _ (qualityCheckNode s) hne
      refine ⟨?_, fun _ => ?_⟩ <;> simp only [step, retryPotential] at hle ⊢ <;> omega
    -- Otherwise the gate leaves the tools, which is no looping visit.
    · simp only [List.mem_cons, List.not_mem_nil, or_false] at hmem
      refine ⟨?_, fun hloop => ?_⟩
      · rcases hmem with hout | hout
        all_goals
          simp only [step, hout, retryPotential]
          omega
      · have hback := hloop.2
        rcases hmem with hout | hout
        all_goals
          rw [hout] at hback
          exact absurd hback (by decide)
  · refine ⟨?_, fun hloop => absurd hloop.1 hnode⟩
    cases node with
    | qualityCheck => exact absurd rfl hnode
    | questionInput => exact Nat.le_of_eq (left_userQuestionNode x s).1
    | intentRouter =>
        have hne : routeDecision (intentRouterNode x s) ≠ .questionInput := by
          intro hstart
          have hmem := routeDecision_mem (intentRouterNode x s)
          rw [hstart] at hmem
          exact absurd hmem (by decide)
        have hle := retryPotential_le _ (intentRouterNode x s) hne
        rw [(sameLeft_intentRouterNode x s).1] at hle
        exact hle
    | clarification => exact Nat.le_of_eq (sameLeft_clarificationNode x s).1
    | ragTool =>
        have hleft := (sameLeft_ragToolNode x s).1
        by_cases hhybrid : (ragToolNode x s).routeTarget = .hybrid
        · simp only [step, afterRagTool, hhybrid, if_true, retryPotential, hleft]
          omega
        · simp only [step, afterRagTool, hhybrid, if_false, retryPotential, hleft]
          omega
    | dbTool => exact Nat.le_of_eq (sameLeft_dbToolNode x s).1
    | reactSubgraph => exact Nat.le_of_eq (sameLeft_reactSubgraphNode x s).1
    | hallucination =>
        -- Nothing behind the hallucination node leads back to the gate.
        cases haction : (hallucinationNode rt x.verifier s).1.hallucinationAction
        all_goals
          simp only [step, hallucinationDecision, haction, retryPotential]
          omega
    | _ => exact Nat.le_refl _

/-- No step adds to the new answers, and each one asked for spends one. -/
theorem regeneratesLeft_step (rt : Runtime) (x : World) (c : Config) :
    regeneratesLeft (step rt x c).state ≤ regeneratesLeft c.state ∧
      (RegenerateVisit rt x c →
        regeneratesLeft (step rt x c).state < regeneratesLeft c.state) := by
  rcases c with ⟨node, s⟩
  by_cases hnode : node = .hallucination
  · subst hnode
    rcases left_hallucinationNode s rt x.verifier with ⟨-, ⟨hagain, hleft⟩ | ⟨hother, hleft⟩⟩
    · refine ⟨?_, fun _ => ?_⟩ <;> simp only [step] <;> omega
    · refine ⟨Nat.le_of_eq hleft, fun hvisit => absurd hvisit.2 hother⟩
  · refine ⟨Nat.le_of_eq ?_, fun hvisit => absurd hvisit.1 hnode⟩
    cases node with
    | hallucination => exact absurd rfl hnode
    | questionInput => exact (left_userQuestionNode x s).2
    | intentRouter => exact (sameLeft_intentRouterNode x s).2
    | clarification => exact (sameLeft_clarificationNode x s).2
    | ragTool => exact (sameLeft_ragToolNode x s).2
    | dbTool => exact (sameLeft_dbToolNode x s).2
    | reactSubgraph => exact (sameLeft_reactSubgraphNode x s).2
    | answerRenderer => exact (sameLeft_answerRendererNode s).2
    | _ => rfl

end Measure

section Runs

variable (rt : Runtime) (ω : Nat → World) (s : AgentState)

/-- The looping visits among the first steps of a run. -/
def loopingVisits (n : Nat) : Nat :=
  Nat.count (fun k => LoopingVisit (Workflow rt ω s k)) n

/-- The visits that ask for a new answer among the first steps of a run. -/
def regenerateVisits (n : Nat) : Nat :=
  Nat.count (fun k => RegenerateVisit rt (ω k) (Workflow rt ω s k)) n

/-- A run that comes to its end, with its loops taken a bounded number of
    times. -/
def Ends : Prop :=
  (∃ n, (Workflow rt ω s n).node = .finish) ∧
    ∀ n, loopingVisits rt ω s n ≤ defaultMaxRetries ∧ regenerateVisits rt ω s n ≤ maxRegenerates

variable {rt ω s}

theorem loopingVisits_le
    (hgate : ∀ n, (Workflow rt ω s n).node = .qualityCheck → ¬ (Workflow rt ω s n).state.FallsToWeb)
    (n : Nat) : loopingVisits rt ω s n ≤ defaultMaxRetries := by
  have hstep := fun k => retryPotential_step rt (ω k) _ (hgate k)
  -- The potential starts at the retries a request is given.
  have hbound := count_add_potential_le (step rt) ω ⟨.questionInput, s⟩ retryPotential
    (fun k => LoopingVisit (Workflow rt ω s k)) (fun k => (hstep k).1) (fun k => (hstep k).2) n
  exact Nat.le_of_add_right_le hbound

theorem regenerateVisits_le (n : Nat) : regenerateVisits rt ω s n ≤ maxRegenerates := by
  have hstep := fun k => regeneratesLeft_step rt (ω k) (Workflow rt ω s k)
  have hbound := count_add_potential_le (step rt) ω ⟨.questionInput, s⟩
    (fun c => regeneratesLeft c.state) (fun k => RegenerateVisit rt (ω k) (Workflow rt ω s k))
    (fun k => (hstep k).1) (fun k => (hstep k).2) n
  exact (Nat.le_of_add_right_le hbound).trans (regeneratesLeft_le s)

/-- Once on the way round by the web, a run never ends. -/
theorem not_ends_of_webLoop {n : Nat} (h : WebLoop (Workflow rt ω s n)) :
    ∀ m, (Workflow rt ω s m).node ≠ .finish := by
  intro m hfinish
  have hforever := runFor_trapped (step rt) ω ⟨.questionInput, s⟩ WebLoop
    (fun x c => fallsToWeb_trapped rt x c) n h
  rcases Nat.le_total n m with hle | hle
  · exact webLoop_not_finish (hforever m hle) hfinish
  · -- The end is not left either, so the run would have been there at step `n`.
    have hdone := runFor_trapped (step rt) ω ⟨.questionInput, s⟩ (fun c => c.node = .finish)
      (fun x c hc => by simp only [step, hc]) m hfinish n hle
    exact webLoop_not_finish h hdone

/-- A run that asks for no clarification ends, with its loops bounded, exactly
    when the gate never sees a state that falls back on the web. -/
theorem workflow_ends_iff (rt : Runtime) (ω : Nat → World) (s : AgentState)
    (hclear : ∀ n, (Workflow rt ω s n).node ≠ .clarification) :
    Ends rt ω s ↔
      ∀ n, (Workflow rt ω s n).node = .qualityCheck → ¬ (Workflow rt ω s n).state.FallsToWeb := by
  constructor
  -- One visit that falls back is enough to keep the run from its end.
  · rintro ⟨⟨m, hfinish⟩, -⟩ n hnode hfalls
    exact not_ends_of_webLoop ⟨hfalls, .inr (.inr (.inr hnode))⟩ m hfinish
  -- With none the work that is left falls at every step.
  · intro hgate
    refine ⟨?_, fun n => ⟨loopingVisits_le hgate n, regenerateVisits_le n⟩⟩
    rcases runFor_measure (step rt) ω ⟨.questionInput, s⟩
      (fun c => c.node = .finish) workLeft
      (fun k => workLeft_falls rt (ω k) _ (hclear k) (hclear (k + 1)) (hgate k)) with
      ⟨n, -, hfinish⟩
    exact ⟨n, hfinish⟩

/-- A question on which the first retrieval finds nothing and the second
    enough. -/
def secondTryWorld (n : Nat) : World :=
  { (default : World) with
    routeTarget := .rag
    rag :=
      if n < 6 then none
      else some { qualityScore := 9 / 10, hasRelevant := true, relevantCount := 3 } }

theorem secondTry_finish (n : Nat) (h : 16 ≤ n) :
    (Workflow default secondTryWorld { userQuestion := "报销流程" } n).node = .finish := by
  have hdone : (Workflow default secondTryWorld { userQuestion := "报销流程" } 16).node = .finish := by
    decide +kernel
  exact runFor_trapped (step default) secondTryWorld _ (fun c => c.node = .finish)
    (fun x c hc => by simp only [step, hc]) 16 hdone n h

/-- The run takes the retry loop once, never falls back, and ends. -/
theorem workflow_ends_secondTry :
    (∀ n, (Workflow default secondTryWorld { userQuestion := "报销流程" } n).node ≠ .clarification) ∧
      Ends default secondTryWorld { userQuestion := "报销流程" } := by
  have hclear : ∀ n,
      (Workflow default secondTryWorld { userQuestion := "报销流程" } n).node ≠ .clarification := by
    intro n
    by_cases hlate : 16 ≤ n
    · rw [secondTry_finish n hlate]
      decide
    · exact (by decide +kernel : ∀ k < 16, (Workflow default secondTryWorld
        { userQuestion := "报销流程" } k).node ≠ .clarification) n (Nat.lt_of_not_le hlate)
  refine ⟨hclear, (workflow_ends_iff default secondTryWorld _ hclear).mpr ?_⟩
  intro n hnode
  -- The gate is visited twice, once with a retry left and once with good scores.
  by_cases hlate : 16 ≤ n
  · rw [secondTry_finish n hlate] at hnode
    exact absurd hnode (by decide)
  · exact (by decide +kernel : ∀ k < 16, (Workflow default secondTryWorld
      { userQuestion := "报销流程" } k).node = .qualityCheck → ¬ (Workflow default secondTryWorld
      { userQuestion := "报销流程" } k).state.FallsToWeb) n (Nat.lt_of_not_le hlate) hnode

/-- A question that is sent to the web, which has an answer. -/
def webWorld : World :=
  { (default : World) with
    routeTarget := .web
    web := some [{ title := "天气预报", content := "今天晴" }] }

theorem webLoop_webWorld (rt : Runtime) :
    WebLoop (Workflow rt (fun _ => webWorld) { userQuestion := "今天的天气" } 2) := by
  have hstate : (Workflow rt (fun _ => webWorld) { userQuestion := "今天的天气" } 2).state =
      intentRouterNode webWorld (userQuestionNode webWorld { userQuestion := "今天的天气" }) := rfl
  refine ⟨?_, .inl rfl⟩
  rw [hstate, fallsToWeb_iff]
  decide +kernel

/-- A question that is sent to the web is asked of the web for ever. The
    scores of that target are always those of nothing found. -/
theorem web_question_never_ends :
    ∃ (ω : Nat → World) (s : AgentState), ∀ rt,
      (∀ n, (Workflow rt ω s n).node ≠ .clarification) ∧ ¬ Ends rt ω s := by
  refine ⟨fun _ => webWorld, { userQuestion := "今天的天气" }, fun rt => ⟨?_, ?_⟩⟩
  -- The first two steps ask nothing back, and the rest go round by the web.
  · rintro (_ | _ | n) hnode
    · exact Node.noConfusion hnode
    · exact Node.noConfusion hnode
    · have hforever := runFor_trapped (step rt) _ _ WebLoop
        (fun x c => fallsToWeb_trapped rt x c) 2 (webLoop_webWorld rt) (n + 2) (by omega)
      rcases hforever with ⟨-, h | h | h | h⟩
      all_goals
        rw [Workflow, h] at hnode
        cases hnode
  · rintro ⟨⟨m, hfinish⟩, -⟩
    exact not_ends_of_webLoop (webLoop_webWorld rt) m hfinish

end Runs

end AgenticRag
