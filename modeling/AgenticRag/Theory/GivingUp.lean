import AgenticRag.Theory.Exploration
import AgenticRag.Theory.Origin

/-!
# Giving Up and Failing

How an exploration that found nothing is reported. A model that gives up says
why, and the verdict looks at the reason only if it is not empty. Without one
the run counts as finished, so rows of an earlier statement make it a success.
And the answers that cannot be read are counted over the whole run, so two of
them end it even if an answer between them was read.

Both are told from the run: `endsGivingUp` is how it ends, and `outputs` is
what the model wrote, each output by whether it could be read. The property
holds of exactly the runs that give a reason where there are rows, and in
which no output that was read comes between two that were not.

## Main definitions

* `EndsGivingUp`: The last action gives up.
* `Standing`: The invariant of a run.

## Theorems

* `verdict_of_givingUp`: The verdict on giving up.
* `parseStop_iff`: When the run ends on outputs that cannot be read.
* `soundVerdicts_iff`: When the verdicts mean what they should.
-/

namespace AgenticRag

namespace SqlSubgraph

open Py Ordered Driven

/-- Whether an output cannot be read. A call that raises has no output. -/
def LlmReply.unreadable : LlmReply → Option Bool
  | .raised _ => none
  | .broken => some false
  | .unparsed => some true
  | .act _ _ => some false

/-- What a node adds to the outputs of the model. -/
def newOutputs (reply : Reply) (c : Config) : List Bool :=
  if c.node = .agentLlm then reply.llm.unreadable.toList else []

/-- The rows the last statement that was answered handed back. -/
def keptRows (maxRows : Nat) (log : List Event) : List Val :=
  ((lastRan log).map (fun ran => ran.2.2.take maxRows)).getD []

/-- Nothing has ended the run so far. -/
structure Underway (st : State) (outs : List Bool) : Prop where
  room : st.budgetStop = none
  noError : st.llmError = ""
  notClosed : ∀ args, st.pendingAction ≠ some (.giveUp, args)
  failures : st.parseFailures = outs.count true
  retries : st.parseFailures < maxParseRetries

/-- A node of the rounds, and not of the end. -/
def Node.isRound : Node → Bool
  | .budgetGuard => true
  | .agentLlm => true
  | .toolExec => true
  | _ => false

/-- Where a run stands, given the outputs of the model. -/
structure Standing (input : SqlAgentInput) (c : Config) (outs : List Bool) : Prop where
  underway : c.node.isRound = true → Underway c.state outs
  closing : c.node = .finalize → ∀ args, c.state.pendingAction = some (.giveUp, args) →
    c.state.budgetStop = none ∧ c.state.llmError = ""
  silent : c.node ≠ .done → c.state.giveUpReason = ""
  rows : c.state.finalRows = keptRows input.budget.maxResultRows c.log
  succeeded : c.state.sqlSucceeded = true → (lastRan c.log).isSome

section Step

variable {u : Unicode} {parse : SqlParser} {rt : DbRuntime} {input : SqlAgentInput}
  {outs : List Bool}

/-- The fields that running a tool does not change. -/
def SameCourse (st st' : State) : Prop :=
  st'.budgetStop = st.budgetStop ∧ st'.llmError = st.llmError ∧
    st'.pendingAction = st.pendingAction ∧ st'.parseFailures = st.parseFailures ∧
    st'.giveUpReason = st.giveUpReason

theorem counted_sameCourse (action : AgentAction) (args : Dict) (st : State) :
    SameCourse st (counted action args st) := by
  unfold counted
  split <;> exact ⟨rfl, rfl, rfl, rfl, rfl⟩

theorem record_sameCourse (action : AgentAction) (args : Dict) (observed : Observed) (st : State) :
    SameCourse st (record action args observed st) := by
  unfold record
  split <;> exact ⟨rfl, rfl, rfl, rfl, rfl⟩

theorem SameCourse.trans {st st' st'' : State} (h : SameCourse st st')
    (h' : SameCourse st' st'') : SameCourse st st'' :=
  ⟨h'.1.trans h.1, h'.2.1.trans h.2.1, h'.2.2.1.trans h.2.2.1, h'.2.2.2.1.trans h.2.2.2.1,
    h'.2.2.2.2.trans h.2.2.2.2⟩

theorem Underway.of_sameCourse {st st' : State} (h : Underway st outs) (hsame : SameCourse st st') :
    Underway st' outs := by
  rcases hsame with ⟨hstop, herror, hpending, hfailures, -⟩
  refine ⟨hstop.trans h.room, herror.trans h.noError, ?_, hfailures.trans h.failures, ?_⟩
  · rw [hpending]
    exact h.notClosed
  · rw [hfailures]
    exact h.retries

/-- A statement succeeds only where it is answered. -/
theorem effect_succeeded {action : AgentAction} {args : Dict} {tools : Toolset} {run : ToolRun}
    (h : Effect u parse input action args tools run) (hquiet : run.events.filterMap ranOf = [])
    (st : State) : (record action args run.observed st).sqlSucceeded = st.sqlSucceeded := by
  cases h with
  | quiet observed hran hnew => rw [record_quiet hran hnew]
  | lists key names => cases action <;> rfl
  | describes key table haction =>
      rw [haction]
      rfl
  | describeFails key table => cases action <;> rfl
  | sends key text rows haction htext hkey hvalid =>
      cases rows with
      | none => cases action <;> rfl
      | some rows => cases hquiet

/-- Running the pending action keeps the course of the run, and what is kept
    of the rows is that of the last statement that was answered. -/
theorem toolExecNode_course {reply : Reply} {c : Config} {st : State} {tools' : Toolset}
    {events : List Event}
    (hexec : toolExecNode u parse rt input reply c.state c.tools = .ok (st, tools', events))
    (hrows : c.state.finalRows = keptRows input.budget.maxResultRows c.log)
    (hran : c.state.sqlSucceeded = true → (lastRan c.log).isSome) :
    SameCourse c.state st ∧
      st.finalRows = keptRows input.budget.maxResultRows (c.log ++ events) ∧
      (st.sqlSucceeded = true → (lastRan (c.log ++ events)).isSome) := by
  -- Without a pending action only the event of the node is new.
  rcases toolExecNode_cases hexec with
    ⟨_, hst, _, hevents⟩ | ⟨action, args, run, hpending, heffect, hst, _, hevents⟩
  · have hlast : lastRan (c.log ++ events) = lastRan c.log := by
      rw [hevents]
      exact lastRan_append rfl
    rw [keptRows, hlast, hst]
    exact ⟨⟨rfl, rfl, rfl, rfl, rfl⟩, hrows, hran⟩
  · have hcourse : SameCourse c.state st := by
      rw [hst]
      exact (counted_sameCourse action args c.state).trans (record_sameCourse action args _ _)
    refine ⟨hcourse, ?_⟩
    have hcounted : (counted action args c.state).sqlSucceeded = c.state.sqlSucceeded := by
      unfold counted
      split <;> rfl
    rcases effect_finals heffect (counted action args c.state) with
      ⟨hquiet, hsame⟩ | ⟨sql, rows, haction, hsent, hobserved⟩
    · -- Nothing was answered, so the last statement is what it was.
      have hlast : lastRan (c.log ++ events) = lastRan c.log := by
        refine lastRan_append ?_
        rw [hevents, List.filterMap_cons_none rfl, List.filterMap_append, attempted_ran, hquiet,
          List.append_nil]
      rw [keptRows, hlast, hst, hsame.2.1, (counted_sameFinals action args c.state).2.1,
        effect_succeeded heffect hquiet, hcounted]
      exact ⟨hrows, hran⟩
    -- A statement was answered, and its rows are what the state holds.
    · have hlast : lastRan (c.log ++ events) = some (actionDbId input args, sql, rows) := by
        rw [hevents, hsent, ← List.cons_append]
        exact lastRan_ran _ _ _ _ _
      rw [keptRows, hlast, hst, haction, hobserved]
      exact ⟨rfl, fun _ => rfl⟩

theorem parseError_ne (failures : Nat) : parseError failures ≠ "" := by
  intro h
  unfold parseError at h
  have hempty := (String.append_eq_empty_iff.mp (String.append_eq_empty_iff.mp h).1).1
  exact absurd hempty (by decide)

theorem routeAfterLlm_error {st : State} (h : st.llmError ≠ "") : routeAfterLlm st = .finalize := by
  unfold routeAfterLlm
  rw [if_pos h]

theorem routeAfterLlm_giveUp {st : State} {args : Dict}
    (h : st.pendingAction = some (.giveUp, args)) : routeAfterLlm st = .finalize := by
  unfold routeAfterLlm
  split
  · rfl
  · rw [h]

/-- What asking the model leaves while nothing has ended the run. -/
theorem agentLlmNode_course {reply : LlmReply} {st st' : State}
    (hllm : agentLlmNode reply st = some st') (h : Underway st outs) :
    ((routeAfterLlm st').isRound = true → Underway st' (outs ++ reply.unreadable.toList)) ∧
      (∀ args, st'.pendingAction = some (.giveUp, args) →
        st'.budgetStop = none ∧ st'.llmError = "") := by
  unfold agentLlmNode at hllm
  cases reply with
  | raised text =>
      cases hllm
      refine ⟨fun hround => ?_, fun args hargs => absurd hargs (h.notClosed args)⟩
      -- An exception without a text leaves no error, and the run goes on.
      by_cases htext : text = ""
      · subst htext
        rw [LlmReply.unreadable, Option.toList_none, List.append_nil]
        exact ⟨h.room, rfl, h.notClosed, h.failures, h.retries⟩
      · rw [routeAfterLlm_error htext] at hround
        cases hround
  | broken => cases hllm
  | unparsed =>
      dsimp only at hllm
      split_ifs at hllm with hmax
      · -- The retries are used up, and the error ends the run.
        cases hllm
        refine ⟨fun hround => ?_, fun args hargs => absurd hargs (h.notClosed args)⟩
        rw [routeAfterLlm_error (parseError_ne _)] at hround
        cases hround
      · cases hllm
        refine ⟨fun _ => ⟨h.room, h.noError, ?_, ?_, Nat.not_le.mp hmax⟩, fun args hargs => ?_⟩
        · intro args hargs
          cases hargs
        · rw [LlmReply.unreadable, Option.toList_some, List.count_append]
          exact congrArg (· + 1) h.failures
        · cases hargs
  | act action args =>
      cases hllm
      -- An output that is read leaves the failures as they were.
      refine ⟨fun hround => ⟨h.room, h.noError, ?_, ?_, h.retries⟩, fun _ _ => ⟨h.room, h.noError⟩⟩
      · intro args' hargs
        rw [routeAfterLlm_giveUp hargs] at hround
        cases hround
      · rw [LlmReply.unreadable, Option.toList_some, List.count_append]
        exact h.failures

/-- One node keeps the invariant. -/
theorem move_standing {reply : Reply} {c c' : Config} (hmove : Move u parse rt input reply c c')
    (h : Standing input c outs) : Standing input c' (outs ++ newOutputs reply c) := by
  have hsilent : c.node ≠ .agentLlm → outs ++ newOutputs reply c = outs := by
    intro hnode
    rw [newOutputs, if_neg hnode, List.append_nil]
  cases hmove with
  | passes hnode hroom =>
      rw [hsilent (by rw [hnode]; decide)]
      have hunder := h.underway (by rw [hnode]; rfl)
      exact ⟨fun _ => hunder, fun hfinal => absurd hfinal (by simp),
        fun _ => h.silent (by rw [hnode]; decide), h.rows, h.succeeded⟩
  | stops reason hnode hstop =>
      rw [hsilent (by rw [hnode]; decide)]
      have hunder := h.underway (by rw [hnode]; rfl)
      exact ⟨fun hround => (by cases hround),
        fun _ args hargs => absurd hargs (hunder.notClosed args),
        fun _ => h.silent (by rw [hnode]; decide), h.rows, h.succeeded⟩
  | asks st hnode hllm =>
      -- Only here is there a new output.
      rw [newOutputs, if_pos hnode]
      have hunder := h.underway (by rw [hnode]; rfl)
      rcases agentLlmNode_course hllm hunder with ⟨hround, hclosing⟩
      have hquiet : c.state.giveUpReason = "" := h.silent (by rw [hnode]; decide)
      rcases agentLlmNode_frame hllm with ⟨_, _, _, rfl⟩
      refine ⟨hround, fun _ => hclosing, fun _ => hquiet, ?_, ?_⟩
      · rw [keptRows, lastRan_append rfl]
        exact h.rows
      · rw [lastRan_append rfl]
        exact h.succeeded
  | runs st tools events hnode hexec =>
      rw [hsilent (by rw [hnode]; decide)]
      have hunder := h.underway (by rw [hnode]; rfl)
      rcases toolExecNode_course hexec h.rows h.succeeded with ⟨hsame, hrows, hran⟩
      exact ⟨fun _ => hunder.of_sameCourse hsame, fun hfinal => absurd hfinal (by simp),
        fun _ => hsame.2.2.2.2.trans (h.silent (by rw [hnode]; decide)), hrows, hran⟩
  | raises events hnode hmarks =>
      -- The run is over, and an exception leaves the state as it was.
      have hquiet := marks_ran hmarks
      refine ⟨fun hround => (by cases hround), fun hfinal => absurd hfinal (by simp), fun _ => ?_,
        ?_, ?_⟩
      · rcases hnode with hnode | hnode
        · exact h.silent (by rw [hnode]; decide)
        · exact h.silent (by rw [hnode]; decide)
      · rw [keptRows, lastRan_append hquiet]
        exact h.rows
      · rw [lastRan_append hquiet]
        exact h.succeeded
  | closes hnode =>
      rcases finalizeNode_frame (u := u) c.state with ⟨_, _, _, _, hst⟩
      refine ⟨fun hround => (by cases hround), fun hfinal => absurd hfinal (by simp),
        fun hdone => absurd rfl hdone, ?_, ?_⟩
      · rw [hst]
        exact h.rows
      · rw [hst]
        exact h.succeeded
  | rests hnode =>
      have hne : c.node ≠ .agentLlm := by
        rcases hnode with hnode | hnode <;>
          · rw [hnode]
            decide
      rw [hsilent hne]
      exact h

end Step

section Run

variable (u : Unicode) (parse : SqlParser) (rt : DbRuntime) (input : SqlAgentInput)
  (replies : Nat → Reply)

/-- The outputs of the model before a node, each by whether it cannot be
    read. -/
def outputs (n : Nat) : List Bool :=
  (List.range n).flatMap (fun i => newOutputs (replies i) (after u parse rt input replies i))

theorem outputs_succ (n : Nat) :
    outputs u parse rt input replies (n + 1) =
      outputs u parse rt input replies n ++
        newOutputs (replies n) (after u parse rt input replies n) := by
  rw [outputs, List.range_succ, List.flatMap_append]
  simp [outputs]

theorem after_standing (n : Nat) :
    Standing input (after u parse rt input replies n) (outputs u parse rt input replies n) := by
  induction n with
  | zero =>
      refine ⟨fun _ => ⟨rfl, rfl, fun args hargs => ?_, rfl, Nat.zero_lt_two⟩, fun hfinal => ?_,
        fun _ => rfl, rfl, fun hran => ?_⟩
      · cases hargs
      · cases hfinal
      · cases hran
  | succ n ih =>
      rw [outputs_succ]
      exact move_standing (step_moves u parse rt input _ _) ih

/-- The run is about to close on an action that gives up. -/
def EndsGivingUp (n : Nat) (args : Dict) : Prop :=
  (after u parse rt input replies n).node = .finalize ∧
    (after u parse rt input replies n).state.pendingAction = some (.giveUp, args)

/-- The run ends on an output that cannot be read. -/
def ParseStop (n : Nat) : Prop :=
  (after u parse rt input replies n).node = .agentLlm ∧ (replies n).llm.unreadable = some true ∧
    (after u parse rt input replies (n + 1)).node = .finalize

/-- The reason the model gives, as a text. -/
def reasonOf (args : Dict) : String := (pyGet args "reason" (.str "")).toStr u

/-- The model says there are no data. -/
def SaysNoData (args : Dict) : Prop := pyGet args "reason_type" (.str "error") = .str "no_data"

/-- What the verdicts should mean: giving up never reports data, that there
    are none is what the model said or what the last statement showed, and a
    run fails on its outputs after so many in a row that cannot be read. -/
structure SoundVerdicts : Prop where
  givingUp : ∀ n args, EndsGivingUp u parse rt input replies n args →
    (after u parse rt input replies (n + 1)).state.verdict ≠ some .dataFound
  noData : ∀ n, (after u parse rt input replies n).node = .finalize →
    (after u parse rt input replies (n + 1)).state.verdict = some .noDataConfirmed →
    (∃ args, EndsGivingUp u parse rt input replies n args ∧ SaysNoData args) ∨
      ((lastRan (after u parse rt input replies n).log).isSome ∧
        keptRows input.budget.maxResultRows (after u parse rt input replies n).log = [])
  failures : ∀ n, ParseStop u parse rt input replies n →
    List.replicate maxParseRetries true <:+ outputs u parse rt input replies (n + 1)

variable {u parse rt input replies}

theorem after_closed {n : Nat} (hnode : (after u parse rt input replies n).node = .finalize) :
    (after u parse rt input replies (n + 1)).state =
      finalizeNode u (after u parse rt input replies n).state := by
  show (step u parse rt input (replies n) (after u parse rt input replies n)).state = _
  unfold step
  rw [hnode]

/-- The verdict on giving up is that there are data where no reason is given
    and there are rows. -/
theorem verdict_of_givingUp {n : Nat} {args : Dict}
    (h : EndsGivingUp u parse rt input replies n args) :
    (after u parse rt input replies (n + 1)).state.verdict ≠ some .dataFound ↔
      reasonOf u args ≠ "" ∨ (after u parse rt input replies n).state.finalRows = [] := by
  rcases h with ⟨hnode, hpending⟩
  rcases (after_standing u parse rt input replies n).closing hnode args hpending with
    ⟨hroom, hnoError⟩
  rw [after_closed hnode]
  unfold finalizeNode verdictOf
  rw [hpending]
  simp only [hroom, hnoError, ne_eq, not_true_eq_false, if_false]
  by_cases hreason : reasonOf u args = ""
  · unfold reasonOf at hreason
    by_cases hrows : (after u parse rt input replies n).state.finalRows = []
    · simp [hreason, hrows]
      split <;> simp
    · simp [hreason, hrows, reasonOf]
  · have hgiven : ¬ (pyGet args "reason" (.str "")).toStr u = "" := hreason
    simp only [hreason, hgiven, not_false_eq_true, if_true, true_or, iff_true]
    split <;> simp

theorem finalizeNode_verdict (st : State) :
    (finalizeNode u st).verdict = some (verdictOf (finalizeNode u st)) := by
  unfold finalizeNode
  dsimp only
  split <;> rfl

theorem verdictOf_noData {st : State} (h : verdictOf st = .noDataConfirmed) :
    (st.giveUpReason ≠ "" ∧ st.giveUpNoData = true) ∨
      (st.finalRows = [] ∧ st.sqlSucceeded = true) := by
  unfold verdictOf at h
  split_ifs at h with _ _ hreason hnoData hrows hsucceeded
  · exact Or.inl ⟨hreason, hnoData⟩
  · exact Or.inr ⟨not_not.mp hrows, hsucceeded⟩

/-- A reason comes from an action that gives up. -/
theorem finalizeNode_gaveUp {st : State} (hsilent : st.giveUpReason = "")
    (hreason : (finalizeNode u st).giveUpReason ≠ "")
    (hnoData : (finalizeNode u st).giveUpNoData = true) :
    ∃ args, st.pendingAction = some (.giveUp, args) ∧ SaysNoData args := by
  unfold finalizeNode at hreason hnoData
  dsimp only at hreason hnoData
  split at hreason
  · exact absurd hsilent hreason
  next args hpending =>
    refine ⟨args, hpending, ?_⟩
    rw [hpending] at hnoData
    dsimp only at hnoData
    unfold SaysNoData
    split at hnoData
    next reasonType htype => rw [htype, eq_of_beq hnoData]
    · cases hnoData
  · exact absurd hsilent hreason

/-- That there are no data is what the model said, or what the last statement
    showed. -/
theorem noData_origin {n : Nat} (hnode : (after u parse rt input replies n).node = .finalize)
    (h : (after u parse rt input replies (n + 1)).state.verdict = some .noDataConfirmed) :
    (∃ args, EndsGivingUp u parse rt input replies n args ∧ SaysNoData args) ∨
      ((lastRan (after u parse rt input replies n).log).isSome ∧
        keptRows input.budget.maxResultRows (after u parse rt input replies n).log = []) := by
  have hstanding := after_standing u parse rt input replies n
  rw [after_closed hnode, finalizeNode_verdict] at h
  rcases verdictOf_noData (Option.some.inj h) with ⟨hreason, hnoData⟩ | ⟨hrows, hran⟩
  · rcases finalizeNode_gaveUp (hstanding.silent (by rw [hnode]; decide)) hreason hnoData with
      ⟨args, hpending, hsays⟩
    exact Or.inl ⟨args, ⟨hnode, hpending⟩, hsays⟩
  · rcases finalizeNode_frame (u := u) (after u parse rt input replies n).state with
      ⟨_, _, _, _, hst⟩
    rw [hst] at hrows hran
    refine Or.inr ⟨hstanding.succeeded hran, ?_⟩
    rw [← hstanding.rows]
    exact hrows

/-- The run ends on an output that cannot be read where too many before it
    could not. -/
theorem parseStop_iff {n : Nat} :
    ParseStop u parse rt input replies n ↔
      (after u parse rt input replies n).node = .agentLlm ∧
        (replies n).llm.unreadable = some true ∧
        maxParseRetries ≤ (outputs u parse rt input replies (n + 1)).count true := by
  unfold ParseStop
  refine and_congr_right (fun hnode => and_congr_right (fun hunread => ?_))
  have hunder := (after_standing u parse rt input replies n).underway (by rw [hnode]; rfl)
  -- Of the replies only this one is unreadable and counted.
  have hllm : (replies n).llm = .unparsed := by
    cases hreply : (replies n).llm <;> rw [hreply] at hunread <;>
      simp [LlmReply.unreadable] at hunread
  have hcount : (outputs u parse rt input replies (n + 1)).count true =
      (after u parse rt input replies n).state.parseFailures + 1 := by
    rw [outputs_succ, newOutputs, if_pos hnode, hunread, List.count_append, hunder.failures]
    rfl
  -- What the node counts is what the outputs have.
  rw [hcount]
  show (step u parse rt input (replies n) (after u parse rt input replies n)).node = _ ↔ _
  unfold step
  rw [hnode, hllm]
  dsimp only [agentLlmNode]
  by_cases hmax : maxParseRetries ≤ (after u parse rt input replies n).state.parseFailures + 1
  · rw [if_pos hmax]
    simp only [hmax, iff_true]
    exact routeAfterLlm_error (parseError_ne _)
  · rw [if_neg hmax]
    simp [hmax, routeAfterLlm, hunder.noError]

/-- No output that was read comes between two that were not. -/
def FailuresTogether (u : Unicode) (parse : SqlParser) (rt : DbRuntime) (input : SqlAgentInput)
    (replies : Nat → Reply) : Prop :=
  ∀ n, ¬ [true, false, true].Sublist (outputs u parse rt input replies n)

/-- A model that gives up says why, or no statement has handed back rows. -/
def ReasonGiven (u : Unicode) (parse : SqlParser) (rt : DbRuntime) (input : SqlAgentInput)
    (replies : Nat → Reply) : Prop :=
  ∀ n args, EndsGivingUp u parse rt input replies n args →
    reasonOf u args ≠ "" ∨
      keptRows input.budget.maxResultRows (after u parse rt input replies n).log = []

/-- The part of a list of three in another list with one element more. -/
theorem sublist_concat_cases {α : Type} {a b c x : α} {l : List α}
    (h : [a, b, c].Sublist (l ++ [x])) : [a, b, c].Sublist l ∨ ([a, b].Sublist l ∧ c = x) := by
  rcases List.sublist_append_iff.mp h with ⟨l₁, l₂, heq, h₁, h₂⟩
  rcases List.sublist_singleton.mp h₂ with rfl | rfl
  · rw [List.append_nil] at heq
    exact Or.inl (heq ▸ h₁)
  · have hsplit : [a, b] ++ [c] = l₁ ++ [x] := heq
    rcases List.append_inj' hsplit rfl with ⟨rfl, hlast⟩
    exact Or.inr ⟨h₁, List.singleton_inj.mp hlast⟩

/-- Failures with an output that was read among them, and two in a row at the
    end, are three. -/
theorem two_le_count_of_pair {l : List Bool} (hpair : [true, false].Sublist l)
    (hend : [true, true] <:+ l ++ [true]) : 2 ≤ l.count true := by
  rcases hend with ⟨before, heq⟩
  have hsplit : before ++ [true] ++ [true] = l ++ [true] := by
    rw [← heq, List.append_assoc, List.singleton_append]
  have hl := (List.append_inj' hsplit rfl).1
  subst hl
  rcases List.sublist_append_iff.mp hpair with ⟨l₁, l₂, hparts, h₁, h₂⟩
  -- The output that was read is not the last, so the failure before it is not either.
  have hmem : true ∈ before := by
    rcases List.sublist_singleton.mp h₂ with rfl | rfl
    · rw [List.append_nil] at hparts
      exact h₁.subset (hparts ▸ List.mem_cons_self)
    · have hlast : [true] ++ [false] = l₁ ++ [true] := hparts
      exact absurd (List.append_inj' hlast rfl).2 (by decide)
  have hone := List.count_pos_iff.mpr hmem
  rw [List.count_append, List.count_singleton_self]
  omega

/-- Two failures of which the second is last, with nothing between them, stand
    at the end. -/
theorem suffix_of_count {l : List Bool} (hcount : 2 ≤ (l ++ [true]).count true)
    (hnot : ¬ [true, false, true].Sublist (l ++ [true])) : [true, true] <:+ l ++ [true] := by
  rcases List.eq_nil_or_concat l with rfl | ⟨before, last, rfl⟩
  · exact absurd hcount (by decide)
  · rw [List.concat_eq_append] at hcount hnot ⊢
    cases last with
    | true =>
        refine ⟨before, ?_⟩
        rw [List.append_assoc, List.singleton_append]
    | false =>
        have hmem : true ∈ before := by
          rw [List.count_append, List.count_append] at hcount
          have hrest : [false].count true + [true].count true = 1 := rfl
          exact List.count_pos_iff.mp (by omega)
        have hsub : ([true] ++ [false] ++ [true]).Sublist (before ++ [false] ++ [true]) :=
          ((List.singleton_sublist.mpr hmem).append (List.Sublist.refl _)).append
            (List.Sublist.refl _)
        exact absurd hsub hnot

/-- Stopping on outputs in a row is a matter of where they stand. -/
theorem failures_iff_together :
    (∀ n, ParseStop u parse rt input replies n →
      List.replicate maxParseRetries true <:+ outputs u parse rt input replies (n + 1)) ↔
    FailuresTogether u parse rt input replies := by
  constructor
  · intro h n
    -- On the outputs one by one: a gap would end with a failure that stops the run.
    induction n with
    | zero =>
        intro hsub
        cases hsub
    | succ n ih =>
        intro hsub
        rw [outputs_succ, newOutputs] at hsub
        by_cases hnode : (after u parse rt input replies n).node = .agentLlm
        · have hunder := (after_standing u parse rt input replies n).underway (by rw [hnode]; rfl)
          rw [if_pos hnode] at hsub
          cases hunread : (replies n).llm.unreadable with
          | none =>
              rw [hunread, Option.toList_none, List.append_nil] at hsub
              exact ih hsub
          | some unread =>
              rw [hunread, Option.toList_some] at hsub
              rcases sublist_concat_cases hsub with hbefore | ⟨hpair, rfl⟩
              · exact ih hbefore
              · -- The run stops here, so the failures are the last two, and one too many.
                have houts : outputs u parse rt input replies (n + 1) =
                    outputs u parse rt input replies n ++ [true] := by
                  rw [outputs_succ, newOutputs, if_pos hnode, hunread]
                  rfl
                have hone := List.count_pos_iff.mpr (hpair.subset List.mem_cons_self)
                have hstop : ParseStop u parse rt input replies n := by
                  refine parseStop_iff.mpr ⟨hnode, hunread, ?_⟩
                  rw [houts, List.count_append, List.count_singleton_self]
                  exact Nat.succ_le_succ hone
                have hend := h n hstop
                rw [houts] at hend
                have htwo := two_le_count_of_pair hpair hend
                have hretries := hunder.retries
                rw [hunder.failures] at hretries
                exact absurd hretries (Nat.not_lt.mpr htwo)
        · rw [if_neg hnode, List.append_nil] at hsub
          exact ih hsub
  · intro h n hstop
    rcases parseStop_iff.mp hstop with ⟨hnode, hunread, hmax⟩
    have houts : outputs u parse rt input replies (n + 1) =
        outputs u parse rt input replies n ++ [true] := by
      rw [outputs_succ, newOutputs, if_pos hnode, hunread]
      rfl
    have htogether := h (n + 1)
    rw [houts] at hmax htogether ⊢
    exact suffix_of_count hmax htogether

/-- The verdicts of a run mean what they should exactly if a model that gives
    up says why where there are rows, and no output that was read comes between
    two that were not. -/
theorem soundVerdicts_iff (u : Unicode) (parse : SqlParser) (rt : DbRuntime)
    (input : SqlAgentInput) (replies : Nat → Reply) :
    SoundVerdicts u parse rt input replies ↔
      ReasonGiven u parse rt input replies ∧ FailuresTogether u parse rt input replies := by
  constructor
  · intro h
    refine ⟨fun n args hends => ?_, failures_iff_together.mp h.failures⟩
    have hverdict := (verdict_of_givingUp hends).mp (h.givingUp n args hends)
    rwa [(after_standing u parse rt input replies n).rows] at hverdict
  · rintro ⟨hreason, htogether⟩
    refine ⟨fun n args hends => ?_, fun n => noData_origin, failures_iff_together.mpr htogether⟩
    refine (verdict_of_givingUp hends).mpr ?_
    rw [(after_standing u parse rt input replies n).rows]
    exact hreason n args hends

end Run

section Silent

/-- A model that finds a row and gives up without a word. -/
def silentReplies : Nat → Reply
  | 1 => { llm := .act .executeSql [("sql", .str "SELECT 1")] }
  | 2 => { rows := some [.dict [("x", .int 1)]] }
  | 4 => { llm := .act .giveUp [] }
  | _ => {}

/-- A model that cannot be read, lists the databases, and cannot be read
    again. -/
def mumblingReplies : Nat → Reply
  | 3 => { llm := .act .listDatabases [] }
  | _ => {}

/-- Giving up without a word is reported as success, and two outputs that
    cannot be read end a run though one between them was. -/
theorem not_soundVerdicts_silent :
    ¬ SoundVerdicts default (fun _ => none) twoDatabases salesInput silentReplies ∧
      ¬ SoundVerdicts default (fun _ => none) twoDatabases salesInput mumblingReplies := by
  constructor
  · intro h
    have hends : EndsGivingUp default (fun _ => none) twoDatabases salesInput silentReplies 5 [] :=
      ⟨by decide +kernel, by with_unfolding_all rfl⟩
    exact h.givingUp 5 [] hends (by decide +kernel)
  · intro h
    have hstop : ParseStop default (fun _ => none) twoDatabases salesInput mumblingReplies 6 :=
      ⟨by decide, rfl, by decide⟩
    have hend := h.failures 6 hstop
    have houts : outputs default (fun _ => none) twoDatabases salesInput mumblingReplies 7 =
        [true, false, true] := by decide
    rw [houts] at hend
    exact absurd hend (by decide)

end Silent

end SqlSubgraph

end AgenticRag
