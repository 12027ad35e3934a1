import AgenticRag.Core.SqlSubgraph

/-!
# The Bounds of an Exploration

The SQL agent may take so many steps, ask its model so often, run so many
statements and describe so many tables. The budget is looked at in one node of
the graph only, and each counter is raised in another, so it takes an
invariant that knows the node: past the guard every counter is below its
bound, and what the next two nodes add is at most one.

The counters should be those of the log: the calls of the model, the tools
that were run, the statements that were attempted and the descriptions the
server was asked for. Two things are lost. A description the server does not
give is not counted, so a server that never gives one is asked in every step
(`failing_describes_not_counted`), and what a node has done before it raises
is in no counter. `exploration_bounded` says that nothing else is.

Every round asks the model once, so the bound on its calls ends the run. The
library that runs the graph has a bound of its own, on the nodes, and a round
with a tool takes three of them. `returns_within_iff` counts the nodes of a
run by its rounds: with the default budget, ten tools do not fit.

## Main definitions

* `Counted`: The counters are those of the log.
* `Explores`: The rounds of an exploration.

## Theorems

* `exploration_bounded`: Every run ends, within its bounds, and its counters
  are those of the log as long as its steps are accounted for.
* `after_explores`, `explores_of_done`: The nodes of an exploration are those
  of its rounds.
* `returns_within_iff`, `returns_iff_seven_tools`: When there is a verdict
  within the bound on nodes.
-/

namespace AgenticRag

namespace SqlSubgraph

open Py Ordered Driven

/-- A call of the model. -/
def Event.isLlmCall : Event → Bool
  | .llmCalled => true
  | _ => false

/-- A run of a tool. -/
def Event.isToolRun : Event → Bool
  | .toolRun => true
  | _ => false

/-- A statement that is tried. -/
def Event.isSqlAttempt : Event → Bool
  | .sqlAttempted => true
  | _ => false

/-- The server was asked for a description, which is not taken from memory. -/
def Event.isDescribe : Event → Bool
  | .describeSent _ _ _ => true
  | _ => false

/-- A description was asked for and not given. -/
def Event.isUnanswered : Event → Bool
  | .describeSent _ _ answered => !answered
  | _ => false

/-- The counters of a state are those of a log. -/
structure Counted (st : State) (log : List Event) : Prop where
  steps : st.stepCount = log.countP Event.isToolRun
  llmCalls : st.llmCallCount = log.countP Event.isLlmCall
  sqlExecs : st.sqlExecCount = log.countP Event.isSqlAttempt
  describes : st.describeCount = log.countP Event.isDescribe

/-- No counter is over its bound. -/
structure Within (budget : ExplorationBudget) (st : State) : Prop where
  steps : st.stepCount ≤ budget.maxAgentSteps
  llmCalls : st.llmCallCount ≤ budget.maxLlmCalls
  sqlExecs : st.sqlExecCount ≤ budget.maxSqlExecutions
  describes : st.describeCount ≤ budget.maxDescribeCalls

/-- There is room for one more tool. -/
structure RoomForTool (budget : ExplorationBudget) (st : State) : Prop where
  steps : st.stepCount < budget.maxAgentSteps
  sqlExecs : st.sqlExecCount < budget.maxSqlExecutions
  describes : st.describeCount < budget.maxDescribeCalls

/-- No counter is over its bound, and past the guard there is room. -/
structure Guarded (budget : ExplorationBudget) (c : Config) : Prop where
  within : Within budget c.state
  beforeLlm : c.node = .agentLlm →
    RoomForTool budget c.state ∧ c.state.llmCallCount < budget.maxLlmCalls
  beforeTool : c.node = .toolExec → RoomForTool budget c.state

section Accounts

variable (u : Unicode) (parse : SqlParser) (rt : DbRuntime) (input : SqlAgentInput)

/-- An action that asks the server for a description gets one. -/
def Answered (reply : Reply) (action : AgentAction) (args : Dict) (tools : Toolset) : Prop :=
  action = .describeTable → (pyGet args "table_name" (.str "")).truthy = true →
    ∀ key table, describeLookup u rt input (actionDbId input args)
      (pyGet args "table_name" (.str "")) tools = .asks key table → reply.schema ≠ none

/-- A step after which the counters know all it did: an answer of the model can
    be taken apart, a tool does not raise, and a description that is asked for
    is given. -/
structure Accounted (reply : Reply) (c : Config) : Prop where
  read : c.node = .agentLlm → reply.llm ≠ .broken
  returns : c.node = .toolExec → ∀ action args, c.state.pendingAction = some (action, args) →
    ∃ run, dispatch u parse rt input action args reply c.tools = .ok run
  answered : c.node = .toolExec → ∀ action args, c.state.pendingAction = some (action, args) →
    Answered u rt input reply action args c.tools

end Accounts

/-- How the counters move with the events of a step: none runs ahead, and all
    keep up if and only if `all` holds. -/
structure Added (st st' : State) (events : List Event) (all : Prop) : Prop where
  steps : st'.stepCount ≤ st.stepCount + events.countP Event.isToolRun
  llmCalls : st'.llmCallCount ≤ st.llmCallCount + events.countP Event.isLlmCall
  sqlExecs : st'.sqlExecCount ≤ st.sqlExecCount + events.countP Event.isSqlAttempt
  describes : st'.describeCount ≤ st.describeCount + events.countP Event.isDescribe
  all_iff : all ↔ st'.stepCount = st.stepCount + events.countP Event.isToolRun ∧
    st'.llmCallCount = st.llmCallCount + events.countP Event.isLlmCall ∧
    st'.sqlExecCount = st.sqlExecCount + events.countP Event.isSqlAttempt ∧
    st'.describeCount = st.describeCount + events.countP Event.isDescribe

section Step

variable {u : Unicode} {parse : SqlParser} {rt : DbRuntime} {input : SqlAgentInput}
  {action : AgentAction} {args : Dict} {tools : Toolset} {run : ToolRun}

/-- A tool leaves the counters alone, other than that of the descriptions. -/
theorem record_counts (action : AgentAction) (args : Dict) (observed : Observed) (st : State) :
    (record action args observed st).stepCount = st.stepCount ∧
      (record action args observed st).llmCallCount = st.llmCallCount ∧
      (record action args observed st).sqlExecCount = st.sqlExecCount := by
  unfold record
  split <;> exact ⟨rfl, rfl, rfl⟩

theorem record_quiet {observed : Observed} (hran : ∀ sql rows, observed ≠ .ran sql rows)
    (hnew : observed ≠ .described false) (st : State) :
    record action args observed st = st := by
  unfold record
  split
  next => exact absurd rfl (hran _ _)
  next => exact absurd rfl hnew
  next => rfl

/-- A description counts when it is given. -/
theorem effect_describeCount (h : Effect u parse input action args tools run) (st : State) :
    (record action args run.observed st).describeCount +
        run.events.countP Event.isUnanswered =
      st.describeCount + run.events.countP Event.isDescribe := by
  cases h with
  | quiet observed hran hnew =>
      rw [record_quiet hran hnew]
      rfl
  | lists key names =>
      rw [record_quiet (fun _ _ h => by cases h) (fun h => by cases h)]
      rfl
  | describes key table haction =>
      rw [haction]
      rfl
  | describeFails key table =>
      rw [record_quiet (fun _ _ h => by cases h) (fun h => by cases h)]
      rfl
  | sends key text rows haction =>
      rw [haction]
      cases rows with
      | none => rfl
      | some rows => rfl

/-- A tool leaves no other mark that is counted. -/
theorem effect_events (h : Effect u parse input action args tools run) :
    run.events.countP Event.isToolRun = 0 ∧ run.events.countP Event.isLlmCall = 0 ∧
      run.events.countP Event.isSqlAttempt = 0 ∧ run.events.countP Event.isDescribe ≤ 1 := by
  have hone : ∀ e : Event, [e].countP Event.isDescribe ≤ 1 := by
    intro e
    exact List.countP_le_length
  cases h with
  | quiet observed hran hnew => exact ⟨rfl, rfl, rfl, Nat.zero_le 1⟩
  | lists key names => exact ⟨rfl, rfl, rfl, hone _⟩
  | describes key table haction => exact ⟨rfl, rfl, rfl, hone _⟩
  | describeFails key table => exact ⟨rfl, rfl, rfl, hone _⟩
  | sends key text rows haction htext hkey hvalid => exact ⟨rfl, rfl, rfl, hone _⟩

theorem counted_counts (action : AgentAction) (args : Dict) (st : State) :
    (counted action args st).stepCount = st.stepCount + 1 ∧
      (counted action args st).llmCallCount = st.llmCallCount ∧
      (counted action args st).sqlExecCount =
        st.sqlExecCount + (attempted action args).countP Event.isSqlAttempt ∧
      (counted action args st).describeCount = st.describeCount := by
  unfold counted attempted
  split
  next => exact ⟨rfl, rfl, rfl, rfl⟩
  next => exact ⟨rfl, rfl, rfl, rfl⟩

theorem attempted_events (action : AgentAction) (args : Dict) :
    (attempted action args).countP Event.isToolRun = 0 ∧
      (attempted action args).countP Event.isLlmCall = 0 ∧
      (attempted action args).countP Event.isDescribe = 0 ∧
      (attempted action args).countP Event.isUnanswered = 0 ∧
      (attempted action args).countP Event.isSqlAttempt ≤ 1 := by
  unfold attempted
  split
  next => exact ⟨rfl, rfl, rfl, rfl, Nat.le_refl 1⟩
  next => exact ⟨rfl, rfl, rfl, rfl, Nat.zero_le 1⟩

/-- How the counters move with the marks when the pending action is run. -/
structure ToolCounts (st st' : State) (events : List Event) : Prop where
  steps : st'.stepCount = st.stepCount + 1
  llmCalls : st'.llmCallCount = st.llmCallCount
  sqlExecs : st'.sqlExecCount = st.sqlExecCount + events.countP Event.isSqlAttempt
  describes : st'.describeCount + events.countP Event.isUnanswered =
    st.describeCount + events.countP Event.isDescribe
  toolRuns : events.countP Event.isToolRun = 1
  noLlmCall : events.countP Event.isLlmCall = 0
  oneAttempt : events.countP Event.isSqlAttempt ≤ 1
  oneDescribe : events.countP Event.isDescribe ≤ 1

theorem toolExecNode_counts {reply : Reply} {st st' : State} {tools' : Toolset}
    {events : List Event}
    (h : toolExecNode u parse rt input reply st tools = .ok (st', tools', events)) :
    ToolCounts st st' events := by
  rcases toolExecNode_cases h with
    ⟨_, hst, _, hevents⟩ | ⟨action, args, run, _, heffect, hst, _, hevents⟩
  · rw [hst, hevents]
    exact ⟨rfl, rfl, rfl, rfl, rfl, rfl, Nat.zero_le 1, Nat.zero_le 1⟩
  · have hrecord := record_counts action args run.observed (counted action args st)
    have hdescribe := effect_describeCount heffect (counted action args st)
    have hmarks := effect_events heffect
    have hcounted := counted_counts action args st
    have hattempted := attempted_events action args
    -- The marks of a step: one for the tool, those of the attempt, those of the tool's run.
    have hsplit : ∀ p : Event → Bool, events.countP p =
        (attempted action args).countP p + run.events.countP p + if p .toolRun then 1 else 0 := by
      intro p
      rw [hevents, List.countP_cons, List.countP_append]
    have hrun := hsplit Event.isToolRun
    have hllm := hsplit Event.isLlmCall
    have hsql := hsplit Event.isSqlAttempt
    have hdesc := hsplit Event.isDescribe
    have hopen := hsplit Event.isUnanswered
    simp only [Event.isToolRun, Event.isLlmCall, Event.isSqlAttempt, Event.isDescribe,
      Event.isUnanswered, if_true, Bool.false_eq_true, if_false] at hrun hllm hsql hdesc hopen
    rw [hst]
    refine ⟨?_, ?_, ?_, ?_, ?_, ?_, ?_, ?_⟩ <;> omega

theorem agentLlmNode_counts {reply : LlmReply} {st st' : State}
    (h : agentLlmNode reply st = some st') :
    st'.llmCallCount = st.llmCallCount + 1 ∧ st'.stepCount = st.stepCount ∧
      st'.sqlExecCount = st.sqlExecCount ∧ st'.describeCount = st.describeCount := by
  rcases agentLlmNode_frame h with ⟨_, _, _, rfl⟩
  exact ⟨rfl, rfl, rfl, rfl⟩

theorem finalizeNode_counts (st : State) :
    (finalizeNode u st).llmCallCount = st.llmCallCount ∧
      (finalizeNode u st).stepCount = st.stepCount ∧
      (finalizeNode u st).sqlExecCount = st.sqlExecCount ∧
      (finalizeNode u st).describeCount = st.describeCount := by
  rcases finalizeNode_frame (u := u) st with ⟨_, _, _, _, hst⟩
  rw [hst]
  exact ⟨rfl, rfl, rfl, rfl⟩

/-- A description is asked for and not given where the action is not
    answered. -/
theorem dispatch_unanswered {reply : Reply}
    (h : dispatch u parse rt input action args reply tools = .ok run) :
    run.events.countP Event.isUnanswered = 0 ↔ Answered u rt input reply action args tools := by
  have hother : action ≠ .describeTable →
      (run.events.countP Event.isUnanswered = 0 ↔ Answered u rt input reply action args tools) := by
    intro haction
    refine iff_of_true ?_ (fun heq => absurd heq haction)
    cases dispatch_effect h with
    | describeFails key table hdescribe => exact absurd hdescribe haction
    | _ => rfl
  by_cases haction : action = .describeTable
  · subst haction
    unfold dispatch at h
    dsimp only at h
    split_ifs at h with htable
    · unfold invokeDescribeTable at h
      split at h
      next => cases h
      next hlookup =>
        cases h
        exact iff_of_true rfl fun _ _ key table heq => by rw [hlookup] at heq; cases heq
      next hlookup =>
        cases h
        exact iff_of_true rfl fun _ _ key table heq => by rw [hlookup] at heq; cases heq
      next key table hlookup =>
        split at h
        next hschema =>
          cases h
          exact iff_of_false (by simp [Event.isUnanswered])
            fun hanswered => hanswered rfl htable key table hlookup hschema
        next schema hschema =>
          cases h
          exact iff_of_true rfl fun _ _ _ _ _ hnone => by rw [hschema] at hnone; cases hnone
        next => cases h
    · cases h
      exact iff_of_true rfl fun _ htruthy => absurd htruthy htable
  · exact hother haction

/-- A node that does nothing outside leaves the counters as they are. -/
theorem added_of_quiet {st st' : State} {all : Prop} (hall : all)
    (hsame : st'.stepCount = st.stepCount ∧ st'.llmCallCount = st.llmCallCount ∧
      st'.sqlExecCount = st.sqlExecCount ∧ st'.describeCount = st.describeCount) :
    Added st st' [] all :=
  ⟨hsame.1.le, hsame.2.1.le, hsame.2.2.1.le, hsame.2.2.2.le, iff_of_true hall hsame⟩

theorem accounted_of_ne {reply : Reply} {c : Config} (hllm : c.node ≠ .agentLlm)
    (htool : c.node ≠ .toolExec) : Accounted u parse rt input reply c :=
  ⟨fun heq => absurd heq hllm, fun heq => absurd heq htool, fun heq => absurd heq htool⟩

theorem agentLlmNode_none {reply : LlmReply} {st : State} :
    agentLlmNode reply st = none ↔ reply = .broken := by
  unfold agentLlmNode
  cases reply with
  | unparsed =>
      dsimp only
      split_ifs <;> simp
  | _ => simp

/-- Asking the model is counted, unless its answer raises. -/
theorem agentLlm_added {reply : Reply} {c : Config} (hnode : c.node = .agentLlm) :
    ∃ events, (step u parse rt input reply c).log = c.log ++ events ∧
      Added c.state (step u parse rt input reply c).state events
        (Accounted u parse rt input reply c) := by
  have htool : c.node ≠ .toolExec := by
    rw [hnode]
    decide
  refine ⟨[.llmCalled], ?_⟩
  cases hllm : agentLlmNode reply.llm c.state with
  | none =>
      have hstep : step u parse rt input reply c =
          { c with node := .raised, log := c.log ++ [.llmCalled] } := by
        unfold step
        simp only [hnode, hllm]
      have hbroken := agentLlmNode_none.mp hllm
      rw [hstep]
      refine ⟨rfl, Nat.le_refl _, Nat.le_succ _, Nat.le_refl _, Nat.le_refl _, ?_⟩
      refine iff_of_false (fun hall => hall.read hnode hbroken) ?_
      rintro ⟨-, hcalls, -⟩
      exact absurd hcalls (Nat.ne_of_lt (Nat.lt_succ_self _))
  | some st =>
      have hstep : step u parse rt input reply c =
          { c with node := routeAfterLlm st, state := st, log := c.log ++ [.llmCalled] } := by
        unfold step
        simp only [hnode, hllm]
      have hcounts := agentLlmNode_counts hllm
      have hread : reply.llm ≠ .broken := by
        intro hbroken
        rw [agentLlmNode_none.mpr hbroken] at hllm
        cases hllm
      rw [hstep]
      refine ⟨rfl, hcounts.2.1.le, hcounts.1.le, hcounts.2.2.1.le, hcounts.2.2.2.le, ?_⟩
      exact iff_of_true ⟨fun _ => hread, fun heq => absurd heq htool, fun heq => absurd heq htool⟩
        ⟨hcounts.2.1, hcounts.1, hcounts.2.2.1, hcounts.2.2.2⟩

/-- A step whose tool does not raise is accounted for unless it leaves a
    description open. -/
theorem toolExecNode_unanswered {reply : Reply} {c : Config} {st' : State} {tools' : Toolset}
    {events : List Event} (hnode : c.node = .toolExec)
    (h : toolExecNode u parse rt input reply c.state c.tools = .ok (st', tools', events)) :
    Accounted u parse rt input reply c ↔ events.countP Event.isUnanswered = 0 := by
  have hllm : c.node = .agentLlm → reply.llm ≠ .broken := by
    intro heq
    rw [hnode] at heq
    cases heq
  unfold toolExecNode at h
  split at h
  next hpending =>
    cases h
    refine iff_of_true ⟨hllm, fun _ action args heq => ?_, fun _ action args heq => ?_⟩ rfl
    all_goals
      rw [hpending] at heq
      cases heq
  next action args hpending =>
    split at h
    next => cases h
    next run hrun =>
      cases h
      have hopen := dispatch_unanswered hrun
      have hattempted := (attempted_events action args).2.2.2.1
      have hevents : (Event.toolRun :: (attempted action args ++ run.events)).countP
          Event.isUnanswered = run.events.countP Event.isUnanswered := by
        rw [List.countP_cons_of_neg Bool.false_ne_true, List.countP_append, hattempted,
          Nat.zero_add]
      rw [hevents, hopen]
      constructor
      · intro hall
        exact hall.answered hnode action args hpending
      · intro hanswered
        refine ⟨hllm, fun _ action' args' heq => ?_, fun _ action' args' heq => ?_⟩
        all_goals
          rw [hpending] at heq
          cases heq
        · exact ⟨run, hrun⟩
        · exact hanswered

/-- Running the pending action is counted, unless the tool raises or a
    description is not given. -/
theorem toolExec_added {reply : Reply} {c : Config} (hnode : c.node = .toolExec) :
    ∃ events, (step u parse rt input reply c).log = c.log ++ events ∧
      Added c.state (step u parse rt input reply c).state events
        (Accounted u parse rt input reply c) := by
  cases hexec : toolExecNode u parse rt input reply c.state c.tools with
  | error events =>
      have hstep : step u parse rt input reply c =
          { c with node := .raised, log := c.log ++ events } := by
        unfold step
        simp only [hnode, hexec]
      -- The tool of the pending action has raised, and the step is in the log alone.
      have hraised : ∃ action args events', c.state.pendingAction = some (action, args) ∧
          dispatch u parse rt input action args reply c.tools = .error events' ∧
          events = .toolRun :: (attempted action args ++ events') := by
        unfold toolExecNode at hexec
        split at hexec
        next => cases hexec
        next action args hpending =>
          split at hexec
          next events' hdispatch =>
            cases hexec
            exact ⟨action, args, events', hpending, hdispatch, rfl⟩
          next => cases hexec
      rcases hraised with ⟨action, args, events', hpending, hdispatch, hevents⟩
      have hsteps : c.state.stepCount < c.state.stepCount + events.countP Event.isToolRun := by
        rw [hevents, List.countP_cons_of_pos rfl]
        omega
      rw [hstep]
      refine ⟨events, rfl, hsteps.le, Nat.le_add_right _ _, Nat.le_add_right _ _,
        Nat.le_add_right _ _, iff_of_false ?_ ?_⟩
      · intro hall
        rcases hall.returns hnode action args hpending with ⟨run, hrun⟩
        rw [hdispatch] at hrun
        cases hrun
      · rintro ⟨hsame, -⟩
        exact absurd hsame hsteps.ne
  | ok result =>
      rcases result with ⟨st, tools, events⟩
      have hstep : step u parse rt input reply c =
          { c with node := .budgetGuard, state := st, tools := tools, log := c.log ++ events } := by
        unfold step
        simp only [hnode, hexec]
      have hcounts := toolExecNode_counts hexec
      have hdescribes := hcounts.describes
      rw [hstep]
      refine ⟨events, rfl, (hcounts.steps.trans (by rw [hcounts.toolRuns])).le,
        (hcounts.llmCalls.trans (by rw [hcounts.noLlmCall]; rfl)).le, hcounts.sqlExecs.le,
        (by dsimp only; omega), ?_⟩
      have hanswered : Accounted u parse rt input reply c ↔
          events.countP Event.isUnanswered = 0 :=
        toolExecNode_unanswered hnode hexec
      rw [hanswered]
      dsimp only
      rw [hcounts.steps, hcounts.toolRuns, hcounts.llmCalls, hcounts.noLlmCall, hcounts.sqlExecs]
      constructor
      · intro hzero
        exact ⟨rfl, rfl, rfl, by omega⟩
      · rintro ⟨-, -, -, hsame⟩
        omega

/-- How the counters move with the log in one step. -/
theorem step_added (reply : Reply) (c : Config) :
    ∃ events, (step u parse rt input reply c).log = c.log ++ events ∧
      Added c.state (step u parse rt input reply c).state events
        (Accounted u parse rt input reply c) := by
  cases hnode : c.node with
  | agentLlm => exact agentLlm_added hnode
  | toolExec => exact toolExec_added hnode
  | budgetGuard =>
      have haccounted : Accounted u parse rt input reply c :=
        accounted_of_ne (by rw [hnode]; decide) (by rw [hnode]; decide)
      refine ⟨[], ?_⟩
      unfold step
      simp only [hnode]
      split <;> exact ⟨(List.append_nil _).symm, added_of_quiet haccounted ⟨rfl, rfl, rfl, rfl⟩⟩
  | finalize =>
      have haccounted : Accounted u parse rt input reply c :=
        accounted_of_ne (by rw [hnode]; decide) (by rw [hnode]; decide)
      have hcounts := finalizeNode_counts (u := u) c.state
      refine ⟨[], ?_⟩
      unfold step
      simp only [hnode]
      exact ⟨(List.append_nil _).symm,
        added_of_quiet haccounted ⟨hcounts.2.1, hcounts.1, hcounts.2.2.1, hcounts.2.2.2⟩⟩
  | done =>
      refine ⟨[], ?_⟩
      unfold step
      simp only [hnode]
      exact ⟨(List.append_nil _).symm, added_of_quiet
        (accounted_of_ne (by rw [hnode]; decide) (by rw [hnode]; decide)) ⟨rfl, rfl, rfl, rfl⟩⟩
  | raised =>
      refine ⟨[], ?_⟩
      unfold step
      simp only [hnode]
      exact ⟨(List.append_nil _).symm, added_of_quiet
        (accounted_of_ne (by rw [hnode]; decide) (by rw [hnode]; decide)) ⟨rfl, rfl, rfl, rfl⟩⟩

theorem checkBudget_none {budget : ExplorationBudget} {timeOver : Bool} {st : State}
    (h : checkBudget budget timeOver st = none) :
    RoomForTool budget st ∧ st.llmCallCount < budget.maxLlmCalls := by
  unfold checkBudget at h
  split_ifs at h with hsteps hllm hsql hdescribe
  -- All four tests have failed, so all four counters are below.
  exact ⟨⟨by omega, by omega, by omega⟩, by omega⟩

theorem guarded_of_within {budget : ExplorationBudget} {c : Config} (h : Within budget c.state)
    (hllm : c.node ≠ .agentLlm) (htool : c.node ≠ .toolExec) : Guarded budget c :=
  ⟨h, fun heq => absurd heq hllm, fun heq => absurd heq htool⟩

theorem routeAfterLlm_cases (st : State) :
    routeAfterLlm st = .finalize ∨ routeAfterLlm st = .budgetGuard ∨
      routeAfterLlm st = .toolExec := by
  unfold routeAfterLlm
  split
  · exact .inl rfl
  · split
    · exact .inr (.inl rfl)
    · exact .inl rfl
    · exact .inl rfl
    · exact .inr (.inr rfl)

/-- The model is asked where there is room for it. -/
theorem guarded_after_llm {budget : ExplorationBudget} {reply : LlmReply} {st st' : State}
    (hst : agentLlmNode reply st = some st') (hroom : RoomForTool budget st)
    (hcalls : st.llmCallCount < budget.maxLlmCalls) {c : Config} (hstate : c.state = st')
    (hnode : c.node = routeAfterLlm st') : Guarded budget c := by
  have hcounts := agentLlmNode_counts hst
  have hsteps := hroom.steps
  have hsql := hroom.sqlExecs
  have hdescribes := hroom.describes
  refine ⟨⟨?_, ?_, ?_, ?_⟩, ?_, ?_⟩
  · rw [hstate]
    omega
  · rw [hstate]
    omega
  · rw [hstate]
    omega
  · rw [hstate]
    omega
  · intro hllm
    rw [hnode] at hllm
    rcases routeAfterLlm_cases st' with h | h | h
    all_goals
      rw [h] at hllm
      cases hllm
  · intro _
    rw [hstate]
    exact ⟨by omega, by omega, by omega⟩

/-- A tool is run where there is room for it. -/
theorem within_after_tool {budget : ExplorationBudget} {st st' : State} {events : List Event}
    (hcounts : ToolCounts st st' events) (hwithin : Within budget st)
    (hroom : RoomForTool budget st) : Within budget st' := by
  have hsteps := hroom.steps
  have hsql := hroom.sqlExecs
  have hdescribes := hroom.describes
  have hllm := hwithin.llmCalls
  -- At most one more of each, and there was room for one.
  rcases hcounts with ⟨h1, h2, h3, h4, _, _, h5, h6⟩
  exact ⟨by omega, by omega, by omega, by omega⟩

/-- One node keeps the counters within their bounds. -/
theorem move_guarded {reply : Reply} {c c' : Config} (hmove : Move u parse rt input reply c c')
    (h : Guarded input.budget c) : Guarded input.budget c' := by
  cases hmove with
  | passes hnode hroom =>
      refine ⟨h.within, fun _ => checkBudget_none hroom, ?_⟩
      intro htool
      cases htool
  | stops reason hnode hstop =>
      refine guarded_of_within ?_ (by simp) (by simp)
      exact ⟨h.within.steps, h.within.llmCalls, h.within.sqlExecs, h.within.describes⟩
  | asks st hnode hllm =>
      have hroom := h.beforeLlm hnode
      exact guarded_after_llm hllm hroom.1 hroom.2 rfl rfl
  | runs st tools events hnode hexec =>
      refine guarded_of_within ?_ (by simp) (by simp)
      exact within_after_tool (toolExecNode_counts hexec) h.within (h.beforeTool hnode)
  | raises events hnode => exact guarded_of_within h.within (by simp) (by simp)
  | closes hnode =>
      refine guarded_of_within ?_ (by simp) (by simp)
      rcases finalizeNode_frame (u := u) c.state with ⟨_, _, _, _, hst⟩
      rw [hst]
      exact ⟨h.within.steps, h.within.llmCalls, h.within.sqlExecs, h.within.describes⟩
  | rests hnode => exact h

/-- No counter runs ahead of the log. -/
structure Behind (st : State) (log : List Event) : Prop where
  steps : st.stepCount ≤ log.countP Event.isToolRun
  llmCalls : st.llmCallCount ≤ log.countP Event.isLlmCall
  sqlExecs : st.sqlExecCount ≤ log.countP Event.isSqlAttempt
  describes : st.describeCount ≤ log.countP Event.isDescribe

/-- What one step does to the counters and the log. A counter that has fallen
    behind never catches up. -/
theorem counted_added {st st' : State} {log log' events : List Event} {all : Prop}
    (h : Behind st log) (hlog : log' = log ++ events) (hadded : Added st st' events all) :
    Behind st' log' ∧ (Counted st' log' ↔ Counted st log ∧ all) := by
  have hsplit : ∀ p : Event → Bool, log'.countP p = log.countP p + events.countP p := by
    intro p
    rw [hlog, List.countP_append]
  have hsteps := hsplit Event.isToolRun
  have hllm := hsplit Event.isLlmCall
  have hsql := hsplit Event.isSqlAttempt
  have hdescribes := hsplit Event.isDescribe
  rcases h with ⟨hs, hl, hq, hd⟩
  rcases hadded with ⟨hs', hl', hq', hd', hall⟩
  rw [hall]
  refine ⟨⟨by omega, by omega, by omega, by omega⟩, ?_, ?_⟩
  · rintro ⟨hs'', hl'', hq'', hd''⟩
    exact ⟨⟨by omega, by omega, by omega, by omega⟩, by omega, by omega, by omega, by omega⟩
  · rintro ⟨⟨hs'', hl'', hq'', hd''⟩, hsame⟩
    exact ⟨by omega, by omega, by omega, by omega⟩

end Step

section Bounds

/-- The run is over. -/
def Ended (c : Config) : Prop :=
  c.node = .done ∨ c.node = .raised

/-- How many nodes are left at most: three for each call of the model that is
    left, and those on the way to the next. -/
def nodesLeft (budget : ExplorationBudget) (c : Config) : Nat :=
  3 * (budget.maxLlmCalls.toNat - c.state.llmCallCount) +
    match c.node with
    | .budgetGuard => 2
    | .agentLlm => 1
    | .toolExec => 3
    | .finalize => 1
    | .done => 0
    | .raised => 0

variable {u : Unicode} {parse : SqlParser} {rt : DbRuntime} {input : SqlAgentInput}

/-- A node that is run is one less that is left. -/
theorem nodesLeft_move {reply : Reply} {c c' : Config} (hmove : Move u parse rt input reply c c')
    (h : Guarded input.budget c) :
    Ended c ∨ nodesLeft input.budget c' < nodesLeft input.budget c := by
  cases hmove with
  | passes hnode hroom =>
      refine .inr ?_
      simp only [nodesLeft, hnode]
      omega
  | stops reason hnode hstop =>
      refine .inr ?_
      simp only [nodesLeft, hnode]
      omega
  | asks st hnode hllm =>
      refine .inr ?_
      -- The call that is made here is one of those that are left.
      have hcalls := (h.beforeLlm hnode).2
      have hcounts := agentLlmNode_counts hllm
      rcases routeAfterLlm_cases st with hroute | hroute | hroute
      all_goals
        simp only [nodesLeft, hnode, hroute]
        omega
  | runs st tools events hnode hexec =>
      refine .inr ?_
      have hcounts := (toolExecNode_counts hexec).llmCalls
      simp only [nodesLeft, hnode]
      omega
  | raises events hnode =>
      refine .inr ?_
      rcases hnode with hnode | hnode
      all_goals
        simp only [nodesLeft, hnode]
        omega
  | closes hnode =>
      refine .inr ?_
      have hcounts := (finalizeNode_counts (u := u) c.state).1
      simp only [nodesLeft, hnode]
      omega
  | rests hnode => exact .inl hnode

/-- The counters are those of the log as long as every step is accounted
    for, and never run ahead of it. -/
theorem counted_after_iff (replies : Nat → Reply) (n : Nat) :
    Counted (after u parse rt input replies n).state (after u parse rt input replies n).log ↔
      ∀ i < n, Accounted u parse rt input (replies i) (after u parse rt input replies i) := by
  have hbehind : Behind (after u parse rt input replies n).state
        (after u parse rt input replies n).log ∧
      (Counted (after u parse rt input replies n).state (after u parse rt input replies n).log ↔
        ∀ i < n, Accounted u parse rt input (replies i) (after u parse rt input replies i)) := by
    induction n with
    | zero =>
        refine ⟨⟨Nat.le_refl _, Nat.le_refl _, Nat.le_refl _, Nat.le_refl _⟩, ?_⟩
        exact iff_of_true ⟨rfl, rfl, rfl, rfl⟩ fun i hi => absurd hi (Nat.not_lt_zero i)
    | succ n ih =>
        have hsplit : (∀ i < n + 1,
              Accounted u parse rt input (replies i) (after u parse rt input replies i)) ↔
            (∀ i < n, Accounted u parse rt input (replies i) (after u parse rt input replies i)) ∧
              Accounted u parse rt input (replies n) (after u parse rt input replies n) :=
          Nat.forall_lt_succ_right
        rcases @step_added u parse rt input (replies n) (after u parse rt input replies n) with
          ⟨events, hlog, hadded⟩
        rw [hsplit, ← ih.2]
        exact counted_added ih.1 hlog hadded
  exact hbehind.2

/-- Every run ends, within its bounds. Its counters are those of the log as
    long as every step is accounted for: no node raises, and every description
    that is asked for is given. -/
theorem exploration_bounded (u : Unicode) (parse : SqlParser) (rt : DbRuntime)
    (input : SqlAgentInput) (hsteps : 0 ≤ input.budget.maxAgentSteps)
    (hllm : 0 ≤ input.budget.maxLlmCalls) (hsql : 0 ≤ input.budget.maxSqlExecutions)
    (hdescribe : 0 ≤ input.budget.maxDescribeCalls) (replies : Nat → Reply) :
    (∃ n, n ≤ 3 * input.budget.maxLlmCalls.toNat + 2 ∧ Ended (after u parse rt input replies n)) ∧
      ∀ n, Within input.budget (after u parse rt input replies n).state ∧
        (Counted (after u parse rt input replies n).state (after u parse rt input replies n).log ↔
          ∀ i < n, Accounted u parse rt input (replies i) (after u parse rt input replies i)) := by
  have hguarded : ∀ n, Guarded input.budget (after u parse rt input replies n) := by
    intro n
    induction n with
    | zero =>
        -- The run begins at the guard with all counters at zero.
        refine guarded_of_within ?_ (by simp [after, runFor, initial])
          (by simp [after, runFor, initial])
        exact ⟨hsteps, hllm, hsql, hdescribe⟩
    | succ n ih => exact move_guarded (step_moves u parse rt input _ _) ih
  refine ⟨?_, fun n => ⟨(hguarded n).within, counted_after_iff replies n⟩⟩
  exact runFor_measure (step u parse rt input) replies (initial input) Ended
    (nodesLeft input.budget)
    (fun n => nodesLeft_move (step_moves u parse rt input (replies n) _) (hguarded n))

/-- A model whose first answer cannot be read. -/
theorem exploration_bounded_default :
    (∃ n, n ≤ 3 * (10 : Int).toNat + 2 ∧
        Ended (after default (fun _ => none) {} { query := "q" } (fun _ => {}) n)) ∧
      Counted (after default (fun _ => none) {} { query := "q" } (fun _ => {}) 2).state
        (after default (fun _ => none) {} { query := "q" } (fun _ => {}) 2).log := by
  have h := exploration_bounded default (fun _ => none) {} { query := "q" } (by decide)
    (by decide) (by decide) (by decide) (fun _ => {})
  refine ⟨h.1, (h.2 2).2.mpr ?_⟩
  -- Two nodes are run: the guard, and the model.
  have hnode : ∀ i < 2, (after default (fun _ => none) {} { query := "q" } (fun _ => {}) i).node ≠
      .toolExec := by
    decide
  intro i hi
  exact ⟨fun _ hbroken => (by cases hbroken), fun htool => absurd htool (hnode i hi),
    fun htool => absurd htool (hnode i hi)⟩

/-- A server that knows a table and gives no description of it. -/
def undescribedRuntime : DbRuntime :=
  { dbTools := [("query_sales", ⟨.none, "sales"⟩), ("describe_table_sales", ⟨.none, "sales"⟩)] }

/-- A model that asks for the same description over and over, in vain. -/
def failingDescribes (n : Nat) : Config :=
  after default (fun _ => none) undescribedRuntime { query := "q", dbId := "sales" }
    (fun _ => { llm := .act .describeTable [("table_name", .str "orders")] }) n

/-- The server was asked for ten descriptions where six are allowed, and none
    was counted. -/
theorem failing_describes_not_counted :
    ¬ Counted (failingDescribes 30).state (failingDescribes 30).log ∧
      (failingDescribes 30).log.countP Event.isDescribe = 10 ∧
      (failingDescribes 30).state.describeCount = 0 ∧
      ({ query := "q", dbId := "sales" } : SqlAgentInput).budget.maxDescribeCalls = 6 := by
  have hlog : (failingDescribes 30).log.countP Event.isDescribe = 10 := by decide +kernel
  have hcount : (failingDescribes 30).state.describeCount = 0 := by decide +kernel
  refine ⟨fun h => ?_, hlog, hcount, rfl⟩
  have hdescribes := h.describes
  rw [hlog, hcount] at hdescribes
  cases hdescribes

end Bounds

section Limit

/-- A round after which the exploration goes on: a tool is run, or the model is
    asked again. -/
inductive Round where
  | tool
  | retry
  deriving DecidableEq, Repr

/-- How an exploration is closed: by the model, or by the budget. -/
inductive Close where
  | byModel
  | byBudget
  deriving DecidableEq, Repr

/-- The nodes of a round. -/
def Round.nodes : Round → Nat
  | .tool => 3
  | .retry => 2

/-- The nodes of an end. -/
def Close.nodes : Close → Nat
  | .byModel => 3
  | .byBudget => 2

/-- The nodes of an exploration. -/
def nodesOf (rounds : List Round) (close : Close) : Nat :=
  (rounds.map Round.nodes).sum + close.nodes

/-- The rounds of the exploration from a guard on, the first reply being the
    one with this number. No node raises in it. -/
inductive Explores (u : Unicode) (parse : SqlParser) (rt : DbRuntime) (input : SqlAgentInput)
    (replies : Nat → Reply) : Nat → State → Toolset → List Round → Close → Prop where
  | budget {i : Nat} {st : State} {tools : Toolset}
      (hstop : checkBudget input.budget (replies i).timeOver st ≠ none) :
      Explores u parse rt input replies i st tools [] .byBudget
  | model {i : Nat} {st st' : State} {tools : Toolset}
      (hroom : checkBudget input.budget (replies i).timeOver st = none)
      (hllm : agentLlmNode (replies (i + 1)).llm st = some st')
      (hroute : routeAfterLlm st' = .finalize) :
      Explores u parse rt input replies i st tools [] .byModel
  | retry {i : Nat} {st st' : State} {tools : Toolset} {rounds : List Round} {close : Close}
      (hroom : checkBudget input.budget (replies i).timeOver st = none)
      (hllm : agentLlmNode (replies (i + 1)).llm st = some st')
      (hroute : routeAfterLlm st' = .budgetGuard)
      (hrest : Explores u parse rt input replies (i + 2) st' tools rounds close) :
      Explores u parse rt input replies i st tools (.retry :: rounds) close
  | tool {i : Nat} {st st' st'' : State} {tools tools' : Toolset} {events : List Event}
      {rounds : List Round} {close : Close}
      (hroom : checkBudget input.budget (replies i).timeOver st = none)
      (hllm : agentLlmNode (replies (i + 1)).llm st = some st')
      (hroute : routeAfterLlm st' = .toolExec)
      (htool : toolExecNode u parse rt input (replies (i + 2)) st' tools =
        .ok (st'', tools', events))
      (hrest : Explores u parse rt input replies (i + 3) st'' tools' rounds close) :
      Explores u parse rt input replies i st tools (.tool :: rounds) close

variable {u : Unicode} {parse : SqlParser} {rt : DbRuntime} {input : SqlAgentInput}
  {replies : Nat → Reply}

theorem after_succ (n : Nat) :
    after u parse rt input replies (n + 1) =
      step u parse rt input (replies n) (after u parse rt input replies n) := rfl

theorem step_guard_none {reply : Reply} {c : Config} (hnode : c.node = .budgetGuard)
    (hroom : checkBudget input.budget reply.timeOver c.state = none) :
    step u parse rt input reply c = { c with node := .agentLlm } := by
  unfold step
  rw [hnode]
  dsimp only
  rw [hroom]

theorem step_guard_some {reply : Reply} {c : Config} {reason : StopReason}
    (hnode : c.node = .budgetGuard)
    (hstop : checkBudget input.budget reply.timeOver c.state = some reason) :
    step u parse rt input reply c =
      { c with node := .finalize, state := { c.state with budgetStop := some reason } } := by
  unfold step
  rw [hnode]
  dsimp only
  rw [hstop]

theorem step_llm_some {reply : Reply} {c : Config} {st : State} (hnode : c.node = .agentLlm)
    (hllm : agentLlmNode reply.llm c.state = some st) :
    step u parse rt input reply c =
      { c with node := routeAfterLlm st, state := st, log := c.log ++ [.llmCalled] } := by
  unfold step
  rw [hnode]
  dsimp only
  rw [hllm]

theorem step_llm_none {reply : Reply} {c : Config} (hnode : c.node = .agentLlm)
    (hllm : agentLlmNode reply.llm c.state = none) :
    (step u parse rt input reply c).node = .raised := by
  unfold step
  rw [hnode]
  dsimp only
  rw [hllm]

theorem step_tool_some {reply : Reply} {c : Config} {st : State} {tools : Toolset}
    {events : List Event} (hnode : c.node = .toolExec)
    (htool : toolExecNode u parse rt input reply c.state c.tools = .ok (st, tools, events)) :
    step u parse rt input reply c =
      { c with node := .budgetGuard, state := st, tools := tools, log := c.log ++ events } := by
  unfold step
  rw [hnode]
  dsimp only
  rw [htool]

theorem step_tool_error {reply : Reply} {c : Config} {events : List Event}
    (hnode : c.node = .toolExec)
    (htool : toolExecNode u parse rt input reply c.state c.tools = .error events) :
    (step u parse rt input reply c).node = .raised := by
  unfold step
  rw [hnode]
  dsimp only
  rw [htool]

theorem step_finalize {reply : Reply} {c : Config} (hnode : c.node = .finalize) :
    (step u parse rt input reply c).node = .done := by
  unfold step
  rw [hnode]

theorem step_ended {reply : Reply} {c : Config} (h : Ended c) :
    step u parse rt input reply c = c := by
  unfold step
  rcases h with hdone | hraised
  · rw [hdone]
  · rw [hraised]

/-- A run that is over stays as it is. -/
theorem after_ended {n m : Nat} (hnm : n ≤ m) (h : Ended (after u parse rt input replies n)) :
    after u parse rt input replies m = after u parse rt input replies n := by
  induction m, hnm using Nat.le_induction with
  | base => rfl
  | succ m _ ih =>
      rw [after_succ, ih]
      exact step_ended h

/-- From a guard that lets the run pass to what follows the model. -/
theorem after_asked {i : Nat} {st : State}
    (hnode : (after u parse rt input replies i).node = .budgetGuard)
    (hroom : checkBudget input.budget (replies i).timeOver
      (after u parse rt input replies i).state = none)
    (hllm : agentLlmNode (replies (i + 1)).llm (after u parse rt input replies i).state =
      some st) :
    after u parse rt input replies (i + 2) =
      { after u parse rt input replies i with
        node := routeAfterLlm st
        state := st
        log := (after u parse rt input replies i).log ++ [.llmCalled] } := by
  rw [after_succ, after_succ, step_guard_none hnode hroom]
  exact step_llm_some rfl hllm

/-- An exploration takes the nodes of its rounds. -/
theorem after_explores {i : Nat} {st : State} {tools : Toolset} {rounds : List Round}
    {close : Close} (h : Explores u parse rt input replies i st tools rounds close)
    (hnode : (after u parse rt input replies i).node = .budgetGuard)
    (hstate : (after u parse rt input replies i).state = st)
    (htools : (after u parse rt input replies i).tools = tools) :
    (after u parse rt input replies (i + nodesOf rounds close)).node = .done := by
  induction h with
  | budget hstop =>
      rw [← hstate] at hstop
      rcases Option.ne_none_iff_exists'.mp hstop with ⟨reason, hreason⟩
      exact step_finalize (congrArg Config.node (step_guard_some hnode hreason))
  | model hroom hllm hroute =>
      rw [← hstate] at hroom hllm
      refine step_finalize ?_
      show (after u parse rt input replies (_ + 2)).node = .finalize
      rw [after_asked hnode hroom hllm]
      exact hroute
  | @retry i st st' tools rounds close hroom hllm hroute hrest ih =>
      rw [← hstate] at hroom hllm
      have hasked := after_asked hnode hroom hllm
      have hsum : i + nodesOf (.retry :: rounds) close = i + 2 + nodesOf rounds close := by
        simp only [nodesOf, List.map_cons, List.sum_cons, Round.nodes]
        omega
      rw [hsum]
      refine ih ?_ ?_ ?_
      · rw [hasked]
        exact hroute
      · rw [hasked]
      · rw [hasked]
        exact htools
  | @tool i st st' st'' tools tools' events rounds close hroom hllm hroute htool hrest ih =>
      rw [← hstate] at hroom hllm
      have hasked := after_asked hnode hroom hllm
      have hran : after u parse rt input replies (i + 3) =
          { after u parse rt input replies (i + 2) with
            node := .budgetGuard
            state := st''
            tools := tools'
            log := (after u parse rt input replies (i + 2)).log ++ events } := by
        rw [after_succ (i + 2)]
        refine step_tool_some ?_ ?_
        · rw [hasked]
          exact hroute
        · rw [hasked]
          dsimp only
          rw [htools]
          exact htool
      have hsum : i + nodesOf (.tool :: rounds) close = i + 3 + nodesOf rounds close := by
        simp only [nodesOf, List.map_cons, List.sum_cons, Round.nodes]
        omega
      rw [hsum]
      refine ih ?_ ?_ ?_
      · rw [hran]
      · rw [hran]
      · rw [hran]

/-- The least number of nodes to the end. -/
def nodesToDone : Node → Nat
  | .budgetGuard => 2
  | .agentLlm => 2
  | .toolExec => 3
  | .finalize => 1
  | .done => 0
  | .raised => 2

theorem nodesToDone_move {reply : Reply} {c c' : Config}
    (hmove : Move u parse rt input reply c c') :
    nodesToDone c.node ≤ nodesToDone c'.node + 1 := by
  cases hmove with
  | passes hnode hroom =>
      rw [hnode]
      exact Nat.le_succ 2
  | stops reason hnode hstop =>
      rw [hnode]
      exact Nat.le_refl 2
  | asks st hnode hllm =>
      rcases routeAfterLlm_cases st with hroute | hroute | hroute
      all_goals
        simp only [hnode, hroute, nodesToDone]
        omega
  | runs st tools events hnode hexec =>
      rw [hnode]
      exact Nat.le_refl 3
  | raises events hnode =>
      rcases hnode with hnode | hnode
      · rw [hnode]
        exact Nat.le_succ 2
      · rw [hnode]
        exact Nat.le_refl 3
  | closes hnode =>
      rw [hnode]
      exact Nat.le_refl 1
  | rests hnode => exact Nat.le_succ _

theorem nodesToDone_le {i k : Nat} (hdone : (after u parse rt input replies (i + k)).node = .done) :
    nodesToDone (after u parse rt input replies i).node ≤ k := by
  have hle : ∀ j, nodesToDone (after u parse rt input replies i).node ≤
      nodesToDone (after u parse rt input replies (i + j)).node + j := by
    intro j
    induction j with
    | zero => exact Nat.le_refl _
    | succ j ih =>
        have hstep : nodesToDone (after u parse rt input replies (i + j)).node ≤
            nodesToDone (after u parse rt input replies (i + (j + 1))).node + 1 :=
          nodesToDone_move (step_moves u parse rt input (replies (i + j)) _)
        omega
  have hk := hle k
  rw [hdone] at hk
  simpa only [nodesToDone, Nat.zero_add] using hk

theorem not_raised_of_done {n m : Nat} (hnm : n ≤ m)
    (hdone : (after u parse rt input replies m).node = .done) :
    (after u parse rt input replies n).node ≠ .raised := by
  intro hraised
  rw [after_ended hnm (.inr hraised), hraised] at hdone
  cases hdone

/-- The round of a tool, with what follows it. -/
theorem explores_of_tool {i k : Nat} {st : State}
    (hnode : (after u parse rt input replies i).node = .budgetGuard)
    (hroom : checkBudget input.budget (replies i).timeOver
      (after u parse rt input replies i).state = none)
    (hllm : agentLlmNode (replies (i + 1)).llm (after u parse rt input replies i).state = some st)
    (hroute : routeAfterLlm st = .toolExec) (hk : 3 ≤ k)
    (hdone : (after u parse rt input replies (i + k)).node = .done)
    (hrest : (after u parse rt input replies (i + 3)).node = .budgetGuard →
      ∃ rounds close, Explores u parse rt input replies (i + 3)
        (after u parse rt input replies (i + 3)).state
        (after u parse rt input replies (i + 3)).tools rounds close ∧
        nodesOf rounds close ≤ k - 3) :
    ∃ rounds close, Explores u parse rt input replies i (after u parse rt input replies i).state
      (after u parse rt input replies i).tools rounds close ∧ nodesOf rounds close ≤ k := by
  have hasked := after_asked hnode hroom hllm
  have hat : (after u parse rt input replies (i + 2)).node = .toolExec := by
    rw [hasked]
    exact hroute
  cases htool : toolExecNode u parse rt input (replies (i + 2))
      (after u parse rt input replies (i + 2)).state
      (after u parse rt input replies (i + 2)).tools with
  | error events =>
      have hraised : (after u parse rt input replies (i + 3)).node = .raised :=
        step_tool_error hat htool
      exact absurd hraised (not_raised_of_done (by omega) hdone)
  | ok result =>
      rcases result with ⟨st', tools', events⟩
      have hran := step_tool_some hat htool
      rw [← after_succ] at hran
      rcases hrest (by rw [hran]) with ⟨rounds, close, hrounds, hnodes⟩
      rw [hran] at hrounds
      rw [hasked] at htool
      refine ⟨.tool :: rounds, close, .tool hroom hllm hroute htool hrounds, ?_⟩
      simp only [nodesOf, List.map_cons, List.sum_cons, Round.nodes] at hnodes ⊢
      omega

/-- A run that came to its end explored, in no more nodes than it took. -/
theorem explores_of_done (k : Nat) {i : Nat}
    (hnode : (after u parse rt input replies i).node = .budgetGuard)
    (hdone : (after u parse rt input replies (i + k)).node = .done) :
    ∃ rounds close, Explores u parse rt input replies i (after u parse rt input replies i).state
      (after u parse rt input replies i).tools rounds close ∧ nodesOf rounds close ≤ k := by
  induction k using Nat.strong_induction_on generalizing i with
  | _ k ih =>
      have htwo : 2 ≤ k := by
        have hle := nodesToDone_le hdone
        rwa [hnode] at hle
      -- The same end, seen from later on.
      have hlater : ∀ j, j ≤ k →
          (after u parse rt input replies (i + j + (k - j))).node = .done := by
        intro j hj
        rw [show i + j + (k - j) = i + k by omega]
        exact hdone
      by_cases hguard : checkBudget input.budget (replies i).timeOver
          (after u parse rt input replies i).state = none
      · cases hllm : agentLlmNode (replies (i + 1)).llm
            (after u parse rt input replies i).state with
        | none =>
            have hraised : (after u parse rt input replies (i + 2)).node = .raised := by
              rw [after_succ, after_succ, step_guard_none hnode hguard]
              exact step_llm_none rfl hllm
            exact absurd hraised (not_raised_of_done (by omega) hdone)
        | some st =>
            have hasked := after_asked hnode hguard hllm
            -- The model closes the run, has to be asked again, or asks for a tool.
            have hmore := nodesToDone_le (hlater 2 htwo)
            rw [hasked] at hmore
            rcases routeAfterLlm_cases st with hroute | hroute | hroute
            · refine ⟨[], .byModel, .model hguard hllm hroute, ?_⟩
              simp only [hroute, nodesToDone] at hmore
              show 0 + 3 ≤ k
              omega
            · rcases ih (k - 2) (by omega) (by rw [hasked]; exact hroute) (hlater 2 htwo) with
                ⟨rounds, close, hrest, hnodes⟩
              rw [hasked] at hrest
              refine ⟨.retry :: rounds, close, .retry hguard hllm hroute hrest, ?_⟩
              simp only [nodesOf, List.map_cons, List.sum_cons, Round.nodes] at hnodes ⊢
              omega
            · simp only [hroute, nodesToDone] at hmore
              exact explores_of_tool hnode hguard hllm hroute (by omega) hdone
                (fun hguard' => ih (k - 3) (by omega) hguard' (hlater 3 (by omega)))
      · exact ⟨[], .byBudget, .budget hguard, htwo⟩

/-- Where the end is reached there is a verdict. -/
theorem move_verdict {reply : Reply} {c c' : Config} (hmove : Move u parse rt input reply c c')
    (h : c.node = .done → c.state.verdict ≠ none) (hdone : c'.node = .done) :
    c'.state.verdict ≠ none := by
  cases hmove with
  | passes hnode hroom => cases hdone
  | stops reason hnode hstop => cases hdone
  | asks st hnode hllm =>
      rcases routeAfterLlm_cases st with hroute | hroute | hroute
      all_goals
        simp only [hroute, reduceCtorEq] at hdone
  | runs st tools events hnode hexec => cases hdone
  | raises events hnode => cases hdone
  | closes hnode => exact Option.some_ne_none _
  | rests hnode => exact h hdone

theorem verdict_of_done (n : Nat) (hdone : (after u parse rt input replies n).node = .done) :
    (after u parse rt input replies n).state.verdict ≠ none := by
  induction n with
  | zero => cases hdone
  | succ n ih => exact move_verdict (step_moves u parse rt input _ _) ih hdone

/-- A verdict is returned. -/
def Returns (c : Config) : Prop :=
  c.node = .done ∧ c.state.verdict ≠ none

/-- There is a verdict after so many nodes if and only if no node raises and the
    rounds take no more. -/
theorem returns_after_iff (limit : Nat) :
    Returns (after u parse rt input replies limit) ↔
      ∃ rounds close,
        Explores u parse rt input replies 0 { finalDbId := .str input.dbId } {} rounds close ∧
          nodesOf rounds close ≤ limit := by
  constructor
  · intro h
    have hdone : (after u parse rt input replies (0 + limit)).node = .done := by
      rw [Nat.zero_add]
      exact h.1
    exact explores_of_done limit rfl hdone
  · intro h
    rcases h with ⟨rounds, close, hexplores, hnodes⟩
    have hdone := after_explores hexplores rfl rfl rfl
    rw [Nat.zero_add] at hdone
    -- The run is over after the nodes of its rounds, and stays so.
    have hsame := after_ended hnodes (.inl hdone)
    have hlimit : (after u parse rt input replies limit).node = .done := by
      rw [hsame]
      exact hdone
    exact ⟨hlimit, verdict_of_done limit hlimit⟩

/-- There is a verdict within the bound on nodes if and only if no node raises
    and the rounds take no more: three nodes for a tool, two for an answer that
    is asked for again, and two or three for the end. -/
theorem returns_within_iff (u : Unicode) (parse : SqlParser) (rt : DbRuntime)
    (input : SqlAgentInput) (replies : Nat → Reply) :
    Returns (after u parse rt input replies recursionLimit) ↔
      ∃ rounds close,
        Explores u parse rt input replies 0 { finalDbId := .str input.dbId } {} rounds close ∧
          nodesOf rounds close ≤ recursionLimit :=
  returns_after_iff recursionLimit

/-- Where every answer of the model is an action, every round is a tool. -/
theorem explores_tools (hread : ∀ i, ∃ action args, (replies i).llm = .act action args) {i : Nat}
    {st : State} {tools : Toolset} {rounds : List Round} {close : Close}
    (h : Explores u parse rt input replies i st tools rounds close) :
    nodesOf rounds close = 3 * rounds.length + close.nodes := by
  induction h with
  | budget hstop => rfl
  | model hroom hllm hroute => rfl
  | @retry i st st' tools rounds close hroom hllm hroute hrest ih =>
      -- An action is never asked for again.
      rcases hread (i + 1) with ⟨action, args, hact⟩
      rw [hact] at hllm
      cases hllm
      unfold routeAfterLlm at hroute
      split_ifs at hroute
      cases action <;> cases hroute
  | tool hroom hllm hroute htool hrest ih =>
      rw [nodesOf] at ih ⊢
      rw [List.map_cons, List.sum_cons, List.length_cons, Round.nodes]
      omega

/-- Where every answer of the model is an action there is a verdict if and only
    if no node raises and at most seven tools are run. -/
theorem returns_iff_seven_tools
    (hread : ∀ i, ∃ action args, (replies i).llm = .act action args) :
    Returns (after u parse rt input replies recursionLimit) ↔
      ∃ rounds close,
        Explores u parse rt input replies 0 { finalDbId := .str input.dbId } {} rounds close ∧
          rounds.length ≤ 7 := by
  rw [returns_after_iff]
  refine exists_congr fun rounds => exists_congr fun close => and_congr_right fun hexplores => ?_
  rw [explores_tools hread hexplores, recursionLimit]
  cases close with
  | byModel =>
      rw [Close.nodes]
      omega
  | byBudget =>
      rw [Close.nodes]
      omega

/-- A model that lists the databases over and over. -/
def listingReplies : Nat → Reply := fun _ => { llm := .act .listDatabases [] }

/-- With the default budget, a model that only lists databases has not come to
    an end after as many nodes as there may be, though it would have in seven
    more. -/
theorem listing_exceeds_limit :
    ¬ Returns (after default (fun _ => none) {} { query := "q" } listingReplies recursionLimit) ∧
      Returns (after default (fun _ => none) {} { query := "q" } listingReplies
        (recursionLimit + 7)) := by
  constructor
  · intro h
    have hnode : (after default (fun _ => none) {} { query := "q" } listingReplies
        recursionLimit).node = .agentLlm := by decide
    rw [Returns, hnode] at h
    cases h.1
  · have hdone : (after default (fun _ => none) {} { query := "q" } listingReplies
        (recursionLimit + 7)).node = .done := by decide
    exact ⟨hdone, verdict_of_done _ hdone⟩

end Limit

end SqlSubgraph

end AgenticRag
