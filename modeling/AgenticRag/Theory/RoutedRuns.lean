import AgenticRag.Theory.RoutePaths

/-!
# Runs That Reach No Tool

What the router writes decides whether a request ever comes to a tool. Two ways
lead past all of them. A question that the security check refuses goes there, and
on to the model that answers it, since nothing behind the router reads that it was
refused (`refused_answered`). So does a question the gate finds complex, if the
model gives no decision and the planner no plan: what the gate put in the place of
the rules asks for no tool, and for a question that asks for none a skill is not
looked for in the end, so a skill that was found before is dropped
(`degraded_answered`).

Both are statements about every run of the workflow, since the edges lead back to
the writing of the answer and to nothing before it.

## Main definitions

* `Answering`: The nodes of an answer without tools.
* `Silenced`: Neither the model nor the planner decides.

## Theorems

* `untouched_run`: Where the router leads past the tools, every run does.
* `refused_answered`: What becomes of a refused question.
* `degraded_answered`: What becomes of a complex question when nobody decides.
-/

namespace AgenticRag

namespace RouterNode

open Py Ordered Plan LlmRouting Driven

section Frames

variable (rt : Runtime) (x : World) (s : AgentState)

/-- The nodes that write, check and give out an answer, and those before them. -/
def Answering : Node → Prop
  | .questionInput | .intentRouter | .promptAssembly | .llmGenerate | .hallucination
  | .answerRenderer | .observability | .answerOutput | .finish => True
  | _ => False

instance : DecidablePred Answering := fun n => by
  cases n <;> first | exact .isTrue trivial | exact .isFalse id

/-- Two states that differ in nothing a tool leaves, nor in the question. -/
structure SameInputs (s s' : AgentState) : Prop where
  question : s'.userQuestion = s.userQuestion
  outputs : s'.toToolOutputs = s.toToolOutputs
  evidence : s'.evidence = s.evidence

theorem SameInputs.refl : SameInputs s s := ⟨rfl, rfl, rfl⟩

theorem SameInputs.trans {s s' s'' : AgentState} (h : SameInputs s s') (h' : SameInputs s' s'') :
    SameInputs s s'' :=
  ⟨h'.question.trans h.question, h'.outputs.trans h.outputs, h'.evidence.trans h.evidence⟩

theorem sameInputs_userQuestionNode : SameInputs s (userQuestionNode x s) := by
  unfold userQuestionNode
  split_ifs <;> exact ⟨rfl, rfl, rfl⟩

theorem sameInputs_hallucinationNode (w : VerifierWorld) :
    SameInputs s (hallucinationNode rt w s).1 := by
  have houtcome := hallucinationNode_outcome rt w s
  generalize hallucinationNode rt w s = out at houtcome ⊢
  cases houtcome with
  | rejected reason calls => exact ⟨rfl, rfl, rfl⟩
  | unchecked _ => exact ⟨rfl, rfl, rfl⟩
  | scored q calls _ => exact ⟨rfl, rfl, rfl⟩
  | unparsed _ => exact ⟨rfl, rfl, rfl⟩

theorem sameInputs_answerRendererNode : SameInputs s (answerRendererNode s) := by
  unfold answerRendererNode
  split <;> exact ⟨rfl, rfl, rfl⟩

/-- The check leads on to the answer or back to its writing. -/
theorem answering_hallucinationDecision : Answering (hallucinationDecision s) := by
  unfold hallucinationDecision
  split <;> trivial

end Frames

section Runs

variable {rt : Runtime} {env : RouterEnv} {P : Config → RoutedWorld → Prop} {s : AgentState}

/-- A configuration reached from a state without a tool. -/
structure Untouched (s : AgentState) (c : Config) : Prop where
  node : Answering c.node
  same : SameInputs s c.state

/-- In every run that meets the condition the router leads past the tools. -/
def LeadsPast (env : RouterEnv) (P : Config → RoutedWorld → Prop) (s : AgentState) : Prop :=
  ∀ c x update, P c x → c.node = .intentRouter → SameInputs s c.state →
    (intentRouter env x.services (x.request c.state)).1 = .ok update →
      nextNode c.state update = .promptAssembly

theorem routedStep_intentRouter {c c' : Config} {x : RoutedWorld} (hnode : c.node = .intentRouter)
    (hstep : routedStep rt env c x = some c') :
    ∃ update, (intentRouter env x.services (x.request c.state)).1 = .ok update ∧
      c' = step rt (x.decided update) c := by
  unfold routedStep at hstep
  rw [hnode] at hstep
  rcases Option.map_eq_some_iff.mp hstep with ⟨update, hupdate, hc⟩
  refine ⟨update, ?_, hc.symm⟩
  cases hrouter : (intentRouter env x.services (x.request c.state)).1 with
  | error e =>
      rw [hrouter] at hupdate
      cases hupdate
  | ok routed =>
      rw [hrouter] at hupdate
      cases hupdate
      rfl

/-- A step with the router's decision goes where that decision leads. -/
theorem step_decided {c : Config} {x : RoutedWorld} {update : RouteUpdate}
    (hnode : c.node = .intentRouter) (hquestion : c.state.userQuestion ≠ "") :
    step rt (x.decided update) c = ⟨nextNode c.state update, routedState c.state update⟩ := by
  rcases c with ⟨node, state⟩
  subst hnode
  show Config.mk (AgenticRag.routeDecision (intentRouterNode (x.decided update) state))
    (intentRouterNode (x.decided update) state) = _
  rw [intentRouterNode, if_neg hquestion]
  rfl

/-- Where the router's decision leads past the tools, so does every step. -/
theorem untouched_step (hquestion : s.userQuestion ≠ "") (hpast : LeadsPast env P s)
    {c c' : Config} {x : RoutedWorld} (hmeets : P c x) (hstep : routedStep rt env c x = some c')
    (h : Untouched s c) : Untouched s c' := by
  have hhere : c.state.userQuestion ≠ "" := by
    rw [h.same.question]
    exact hquestion
  rcases c with ⟨node, state⟩
  have hnode : Answering node := h.node
  have hsame : SameInputs s state := h.same
  cases node with
  | intentRouter =>
      rcases routedStep_intentRouter rfl hstep with ⟨update, hupdate, rfl⟩
      have hnext := hpast _ x update hmeets rfl hsame hupdate
      rw [step_decided rfl hhere]
      refine ⟨?_, hsame.trans ⟨rfl, rfl, rfl⟩⟩
      rw [hnext]
      trivial
  | questionInput =>
      cases hstep
      exact ⟨trivial, hsame.trans (sameInputs_userQuestionNode x.world state)⟩
  | promptAssembly =>
      cases hstep
      exact ⟨trivial, hsame.trans ⟨rfl, rfl, rfl⟩⟩
  | llmGenerate =>
      cases hstep
      exact ⟨trivial, hsame.trans ⟨rfl, rfl, rfl⟩⟩
  | hallucination =>
      cases hstep
      exact ⟨answering_hallucinationDecision _,
        hsame.trans (sameInputs_hallucinationNode rt state x.world.verifier)⟩
  | answerRenderer =>
      cases hstep
      exact ⟨trivial, hsame.trans (sameInputs_answerRendererNode state)⟩
  | observability =>
      cases hstep
      exact ⟨trivial, hsame.trans ⟨rfl, rfl, rfl⟩⟩
  | answerOutput =>
      cases hstep
      exact ⟨trivial, hsame.trans ⟨rfl, rfl, rfl⟩⟩
  | finish =>
      cases hstep
      exact ⟨trivial, hsame⟩
  | _ => exact hnode.elim

/-- Where the router's decisions lead past the tools, every run does. -/
theorem untouched_run (hquestion : s.userQuestion ≠ "") (hpast : LeadsPast env P s)
    {xs : List RoutedWorld} {t : Config} (h : Run (routedStep rt env) P ⟨.questionInput, s⟩ xs t) :
    Untouched s t :=
  h.invariant (fun _ _ _ hmeets hstep huntouched =>
    untouched_step hquestion hpast hmeets hstep huntouched) ⟨trivial, SameInputs.refl s⟩

end Runs

section Past

variable {s : AgentState} {update : RouteUpdate}

/-- A decision that asks for no tool, nor for a word of the user, nor has a plan. -/
theorem nextNode_of_chitchat (htarget : update.routeTarget = .chitchat)
    (hclear : flag update.routeDecision "needs_clarification" = false)
    (hsource : update.routeDecision.source ≠ .planner) : nextNode s update = .promptAssembly := by
  have hname : sourceName update.routeDecision.source ≠ "planner" := by
    cases hcase : update.routeDecision.source with
    | planner => exact absurd hcase hsource
    | _ => decide
  have hwhere : ∀ target, target = RouteTarget.chitchat →
      ¬ (target = .hybrid ∨ target = .database) := by
    rintro _ rfl
    decide
  unfold nextNode AgenticRag.routeDecision routedState summary
  dsimp only
  rw [htarget, Option.getD_some, hclear, if_neg Bool.false_ne_true,
    if_neg (fun h => hwhere _ rfl h.2.2.2), if_neg (fun h => hname h.1)]
  rfl

end Past

section Refused

variable {env : RouterEnv} {query : String}

/-- What the security check refuses is decided there. -/
theorem filter_of_refused (hblank : strip query ≠ "")
    (hrefused : (PreFilter.checkSecurity env.u (strip query)).isSome = true) :
    ∃ d, PreFilter.filter env.u query = some d ∧ d.target = .chitchat := by
  rcases Option.isSome_iff_exists.mp hrefused with ⟨d, hd⟩
  refine ⟨d, ?_, ?_⟩
  · rw [PreFilter.filter, if_neg hblank]
    dsimp only
    rw [hd, Option.some_or]
  · unfold PreFilter.checkSecurity at hd
    dsimp only at hd
    split_ifs at hd
    · cases hd
      rfl
    · rcases Option.map_eq_some_iff.mp hd with ⟨keyword, -, rfl⟩
      rfl

variable {rt : Runtime} {s : AgentState}

/-- The router's answer to a question it refuses. -/
theorem intentRouter_of_refused {x : RouterWorld} {request : RouterRequest}
    (hblank : strip request.userQuestion ≠ "")
    (hrefused : (PreFilter.checkSecurity env.u (strip request.userQuestion)).isSome = true) :
    ∃ d, (intentRouter env x request).1 = .ok (RouteUpdate.base d) ∧ Plain d ∧
      d.target = .chitchat := by
  rcases filter_of_refused hblank hrefused with ⟨d, hfilter, htarget⟩
  refine ⟨d, ?_, plain_filter hfilter, htarget⟩
  have hempty : request.userQuestion ≠ "" := by
    intro hempty
    rw [hempty] at hblank
    exact hblank rfl
  rw [intentRouter, if_neg hempty, beforeModel, hfilter]
  dsimp only
  rw [finalizeRoute, if_pos (.inl htarget)]

theorem Plain.nextNode {d : Plan.RouteDecision} (h : Plain d) (htarget : d.target = .chitchat)
    (s : AgentState) : nextNode s (RouteUpdate.base d) = .promptAssembly := by
  refine nextNode_of_chitchat htarget h.clear ?_
  show d.source ≠ .planner
  rcases h.source with hsource | hsource <;> rw [hsource] <;> decide

end Refused

section Steps

variable {rt : Runtime} {env : RouterEnv} {P : Config → RoutedWorld → Prop} {s : AgentState}

/-- Past the tools the third step comes to the model that answers. -/
theorem llmGenerate_of_run (hquestion : s.userQuestion ≠ "") (hpast : LeadsPast env P s)
    {x y z : RoutedWorld} {t : Config}
    (h : Run (routedStep rt env) P ⟨.questionInput, s⟩ [x, y, z] t) : t.node = .llmGenerate := by
  rcases h with _ | ⟨-, hfirst, _ | ⟨hmeets, hsecond, _ | ⟨-, hthird, hrest⟩⟩⟩
  cases hfirst
  have hsame := sameInputs_userQuestionNode x.world s
  have hhere : (userQuestionNode x.world s).userQuestion ≠ "" := by
    rw [hsame.question]
    exact hquestion
  rcases routedStep_intentRouter rfl hsecond with ⟨update, hupdate, rfl⟩
  have hnext := hpast _ y update hmeets rfl hsame hupdate
  rw [step_decided rfl hhere] at hthird
  rw [hnext] at hthird
  cases hthird
  cases hrest
  rfl

/-- Where every request is answered, the step takes it. -/
theorem routedStep_isSome {c : Config} {x : RoutedWorld}
    (h : c.node = .intentRouter →
      ∃ update, (intentRouter env x.services (x.request c.state)).1 = .ok update) :
    ∃ c', routedStep rt env c x = some c' := by
  unfold routedStep
  cases hnode : c.node with
  | intentRouter =>
      rcases h hnode with ⟨update, hupdate⟩
      rw [hupdate]
      exact ⟨_, rfl⟩
  | _ => exact ⟨_, rfl⟩

end Steps

section Degraded

variable {env : RouterEnv} {x : RouterWorld} {request : RouterRequest}

/-- The model gives no decision that can be read, and the planner no plan. -/
structure Silenced (env : RouterEnv) (x : RouterWorld) : Prop where
  model : (x.router.circuitBreaker.canExecute x.start).1 = true →
    ∀ v, callLlm env.repair x.reply = .returned v → ∃ e, parseLlmResult env.floatOfText v = .error e
  planner : ∀ p, callPlanner env.lax env.repair x.now x.planReply ≠ .planned p

/-- What stood before the model stays. -/
theorem Silenced.route (h : Silenced env x) (rule : Plan.RouteDecision) :
    (x.router.route env.repair env.floatOfText (x.call rule)).decision = .ok rule := by
  unfold LLMRouter.route
  have hmodel := h.model
  rw [RouterWorld.call]
  dsimp only
  rcases hcan : x.router.circuitBreaker.canExecute x.start with ⟨_ | _, breaker⟩
  · rfl
  · rw [hcan] at hmodel
    dsimp only
    cases hcall : callLlm env.repair x.reply with
    | timeout => rfl
    | failed e => rfl
    | returned v =>
        rcases hmodel rfl v hcall with ⟨e, he⟩
        dsimp only
        rw [he]

/-- What the gate put in the place of the rules, and the marks that were added. -/
structure Skipped (d : Plan.RouteDecision) : Prop where
  target : d.target = .chitchat
  source : d.source = .rule
  clear : flag d "needs_clarification" = false

theorem skipped_noteSignals (u : Unicode) (floatRepr : ℚ → String)
    {gate : ComplexityGate.ComplexityResult} (hgate : gate.isComplex = true) :
    Skipped (noteSignals gate (skippedRule u gate floatRepr)) := by
  refine ⟨rfl, rfl, ?_⟩
  rw [noteSignals, hgate]
  rfl

theorem Skipped.degraded {d : Plan.RouteDecision} (h : Skipped d) {key : String}
    (hkey : key ≠ "needs_clarification") : Skipped (degraded d key) := by
  refine ⟨h.target, h.source, ?_⟩
  rw [flag, Plan.degraded, pyGet, lookup_dictSet, if_neg (Ne.symm hkey)]
  exact h.clear

/-- What is written when nobody decided. -/
structure PassedOver (update : RouteUpdate) : Prop where
  decision : Skipped update.routeDecision
  target : update.routeTarget = .chitchat
  skillSet : update.skillSet = none

theorem Skipped.passedOver {d : Plan.RouteDecision} (h : Skipped d) (x : Skills.Retrievers) :
    PassedOver (finalizeRoute env x request d).1 := by
  rw [finalizeRoute, if_pos (.inl h.target)]
  exact ⟨h, h.target, rfl⟩

/-- Without a plan the planner only marks the decision. -/
theorem Silenced.plan (h : Silenced env x) (d : Plan.RouteDecision) :
    ∃ key, key ≠ "needs_clarification" ∧
      plan env.lax env.repair x.now x.planReply d = .ok (degraded d key) := by
  unfold Plan.plan
  cases hcall : callPlanner env.lax env.repair x.now x.planReply with
  | timeout => exact ⟨"planner_timeout", by decide, rfl⟩
  | failed e => exact ⟨"planner_failed", by decide, rfl⟩
  | planned p => exact absurd hcall (h.planner p)

/-- The router's answer when nobody decides. A skill that was found has no part in
    it. -/
theorem intentRouter_of_silenced (request : RouterRequest) (hempty : request.userQuestion ≠ "")
    (hfilter : PreFilter.filter env.u request.userQuestion = none)
    (hgate : (ComplexityGate.check env.config.gate env.config.keywords
      request.userQuestion).isComplex = true) (h : Silenced env x) :
    ∃ update, (intentRouter env x request).1 = .ok update ∧ PassedOver update := by
  rw [intentRouter, if_neg hempty, beforeModel, hfilter]
  dsimp only
  rw [if_pos hgate]
  dsimp only
  rw [fromModel]
  dsimp only
  rw [h.route]
  dsimp only
  have hskipped := skipped_noteSignals env.u env.floatRepr hgate
  generalize noteSignals _ (skippedRule _ _ _) = d at hskipped ⊢
  have hround := afterModel_spec env x request d
  generalize afterModel env x request d = out at hround ⊢
  cases hround with
  | unclear hunclear => exact absurd (hunclear.symm.trans hskipped.clear) (by decide)
  | simple hclear hsimple => exact ⟨_, rfl, hskipped.passedOver _⟩
  | skill hclear hcomplex set hhit => exact ⟨_, rfl, hskipped.passedOver _⟩
  | raised hclear hcomplex hhit e hplan =>
      rcases h.plan d with ⟨key, -, hdegraded⟩
      cases hplan.symm.trans hdegraded
  | planned hclear hcomplex hhit p hplan =>
      rcases h.plan d with ⟨key, hkey, hdegraded⟩
      cases hplan.symm.trans hdegraded
      have hpassed : PassedOver (finalizeRoute env x.secondRetrievers request (degraded d key)).1 :=
        (hskipped.degraded hkey).passedOver _
      exact ⟨_, rfl, hpassed.decision, hpassed.target, hpassed.skillSet⟩

theorem PassedOver.nextNode {update : RouteUpdate} (h : PassedOver update) (s : AgentState) :
    nextNode s update = .promptAssembly :=
  nextNode_of_chitchat h.target h.decision.clear (by rw [h.decision.source]; decide)

end Degraded

section Main

variable (rt : Runtime) (env : RouterEnv) (s : AgentState)

theorem ne_empty_of_strip {text : String} (h : strip text ≠ "") : text ≠ "" := by
  rintro rfl
  exact h rfl

/-- A question that the security check refuses goes past every tool, whatever
    happens, but not past the model that answers. Nothing of a run is kept from
    it. -/
theorem refused_answered (hblank : strip s.userQuestion ≠ "")
    (hrefused : (PreFilter.checkSecurity env.u (strip s.userQuestion)).isSome = true)
    (xs : List RoutedWorld) :
    (∃ t, Run (routedStep rt env) (fun _ _ => True) ⟨.questionInput, s⟩ xs t) ∧
      ∀ t, Run (routedStep rt env) (fun _ _ => True) ⟨.questionInput, s⟩ xs t →
        Untouched s t ∧ (xs.length = 3 → t.node = .llmGenerate) := by
  have hquestion : s.userQuestion ≠ "" := ne_empty_of_strip hblank
  have hdecided : ∀ (s' : AgentState) (x : RoutedWorld), SameInputs s s' → ∃ d,
      (intentRouter env x.services (x.request s')).1 = .ok (RouteUpdate.base d) ∧
        Plain d ∧ d.target = .chitchat := by
    intro s' x hsame
    apply intentRouter_of_refused
    · show strip s'.userQuestion ≠ ""
      rw [hsame.question]
      exact hblank
    · show (PreFilter.checkSecurity env.u (strip s'.userQuestion)).isSome = true
      rw [hsame.question]
      exact hrefused
  have hpast : LeadsPast env (fun _ _ => True) s := by
    intro c x update _ _ hsame hupdate
    rcases hdecided c.state x hsame with ⟨d, hd, hplain, htarget⟩
    cases hd.symm.trans hupdate
    exact hplain.nextNode htarget c.state
  constructor
  · refine exists_run (fun c x _ huntouched => ?_)
      (fun _ _ _ hmeets hstep huntouched => untouched_step hquestion hpast hmeets hstep huntouched)
      xs (fun _ _ _ => trivial) ⟨trivial, SameInputs.refl s⟩
    refine routedStep_isSome (fun _ => ?_)
    rcases hdecided c.state x huntouched.same with ⟨d, hd, -⟩
    exact ⟨_, hd⟩
  · intro t h
    refine ⟨untouched_run hquestion hpast h, fun hlength => ?_⟩
    rcases List.length_eq_three.mp hlength with ⟨x, y, z, rfl⟩
    exact llmGenerate_of_run hquestion hpast h

/-- The condition on a run in which nobody decides. -/
def NobodyDecides (env : RouterEnv) (c : Config) (x : RoutedWorld) : Prop :=
  c.node = .intentRouter → Silenced env x.services

/-- A question the gate finds complex comes to no tool while neither the model nor
    the planner decides, even if a skill is found for it each time. No run of it
    stops. -/
theorem degraded_answered (hblank : strip s.userQuestion ≠ "")
    (hfilter : PreFilter.filter env.u s.userQuestion = none)
    (henabled : env.config.gate.enabled = true)
    (hcomplex : FormComplex env.config.gate env.config.keywords s.userQuestion)
    (xs : List RoutedWorld) :
    ((∀ x ∈ xs, Silenced env x.services) →
      ∃ t, Run (routedStep rt env) (NobodyDecides env) ⟨.questionInput, s⟩ xs t) ∧
      ∀ t, Run (routedStep rt env) (NobodyDecides env) ⟨.questionInput, s⟩ xs t →
        Untouched s t ∧ (xs.length = 3 → t.node = .llmGenerate) := by
  have hquestion : s.userQuestion ≠ "" := ne_empty_of_strip hblank
  have hgate := check_isComplex_iff.mpr ⟨hblank, henabled, hcomplex⟩
  have hdecided : ∀ (s' : AgentState) (x : RoutedWorld), SameInputs s s' →
      Silenced env x.services → ∃ update,
        (intentRouter env x.services (x.request s')).1 = .ok update ∧ PassedOver update := by
    intro s' x hsame hsilenced
    have hrequest : (x.request s').userQuestion = s.userQuestion := hsame.question
    exact intentRouter_of_silenced (x.request s') (hrequest ▸ hquestion) (hrequest ▸ hfilter)
      (hrequest ▸ hgate) hsilenced
  have hpast : LeadsPast env (NobodyDecides env) s := by
    intro c x update hsilenced hnode hsame hupdate
    rcases hdecided c.state x hsame (hsilenced hnode) with ⟨routed, hrouted, hpassed⟩
    cases hrouted.symm.trans hupdate
    exact hpassed.nextNode c.state
  constructor
  · intro hall
    refine exists_run (fun c x hsilenced huntouched => ?_)
      (fun _ _ _ hmeets hstep huntouched => untouched_step hquestion hpast hmeets hstep huntouched)
      xs (fun _ x hx _ => hall x hx) ⟨trivial, SameInputs.refl s⟩
    refine routedStep_isSome (fun hnode => ?_)
    rcases hdecided c.state x huntouched.same (hsilenced hnode) with ⟨update, hupdate, -⟩
    exact ⟨update, hupdate⟩
  · intro t h
    refine ⟨untouched_run hquestion hpast h, fun hlength => ?_⟩
    rcases List.length_eq_three.mp hlength with ⟨x, y, z, rfl⟩
    exact llmGenerate_of_run hquestion hpast h

end Main

section Sample

/-- Nothing answers in time. -/
def silentRound : RoutedWorld where
  world := default
  services := silentWorld

theorem silenced_silentWorld (env : RouterEnv) : Silenced env silentWorld where
  model := fun _ _ h => nomatch h
  planner := fun _ h => nomatch h

/-- To drop a database. -/
def wipeQuestion : AgentState := { userQuestion := "删库" }

theorem refused_answered_wipe :
    ∃ t, Run (routedStep default plainEnv) (fun _ _ => True) ⟨.questionInput, wipeQuestion⟩
      [silentRound, silentRound, silentRound] t ∧ Untouched wipeQuestion t ∧
        t.node = .llmGenerate := by
  have hall := refused_answered default plainEnv wipeQuestion (by decide) (by decide +kernel)
    [silentRound, silentRound, silentRound]
  rcases hall.1 with ⟨t, ht⟩
  exact ⟨t, ht, (hall.2 t ht).1, (hall.2 t ht).2 rfl⟩

/-- To explain something. -/
def whyQuestion : AgentState := { userQuestion := "为什么" }

theorem degraded_answered_why :
    ∃ t, Run (routedStep default plainEnv) (NobodyDecides plainEnv) ⟨.questionInput, whyQuestion⟩
      [silentRound, silentRound, silentRound] t ∧ Untouched whyQuestion t ∧
        t.node = .llmGenerate := by
  have hall := degraded_answered default plainEnv whyQuestion (by decide) (by decide +kernel) rfl
    (.reasons rfl "为什么" (by decide) (by decide +kernel))
    [silentRound, silentRound, silentRound]
  have hsilenced : ∀ x ∈ [silentRound, silentRound, silentRound],
      Silenced plainEnv x.services := by
    intro x hx
    have hround : x = silentRound := by simpa using hx
    rw [hround]
    exact silenced_silentWorld plainEnv
  rcases hall.1 hsilenced with ⟨t, ht⟩
  exact ⟨t, ht, (hall.2 t ht).1, (hall.2 t ht).2 rfl⟩

end Sample

end RouterNode

end AgenticRag
