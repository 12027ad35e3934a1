import AgenticRag.Core.React
import AgenticRag.Lib.Driven

/-!
# The Budget of the ReAct Loop

The budget is checked at the head of a pass and nowhere else. A pass asks the
model once, carries out one action at most and takes one step at most, so a
count that was below its limit at the head is at most at the limit when the
pass ends. Every pass that is not the last uses up a call of the model, and
that ends the loop (`loop_within_budget`).

`pass_cases` says once what a pass can do. What is proved of the loop here and
elsewhere is read off it.

## Main definitions

* `Reaches`: A pass gets an action to the guard.
* `Within`: The counts of a loop are within their limits, and are what was done.

## Theorems

* `within_pass`: A pass keeps the counts.
* `pass_falls`: A pass ends the loop or uses up a call.
* `loop_within_budget`: What holds of every run.
-/

namespace AgenticRag

namespace React

open Py Skills Driven

section Passes

variable (x : Setup) (t : Turn) (l : Loop)

/-- A pass gets an action to the guard: the checks at its head let it through,
    and the model writes an action that does not end the loop. -/
structure Reaches (action : ReactAction) : Prop where
  running : l.ended = none
  proceeds : stopped x t l = none
  written : reasonStep x t = .ok action
  not_finish : action.type ≠ "finish"
  not_ask : action.type ≠ "ask_clarification"

/-- The decisions that are not carried out. -/
def Refused (r : PolicyResult) : Prop := r.decision = .deny ∨ r.decision = .needsApproval

/-- What carrying out an action does to a loop. -/
theorem execute_spec (action : ReactAction) :
    (execute x t l action).events = l.events ++ [.executed action] ∧
      ((execute x t l action).budget = incrementToolCall l.budget action.type ∧
          (execute x t l action).ended.isSome ∨
        (execute x t l action).budget =
          incrementStep (incrementToolCall l.budget action.type)) := by
  rw [execute]
  cases t.observed with
  | error e => exact ⟨rfl, .inl ⟨rfl, rfl⟩⟩
  | ok o => exact ⟨rfl, .inr rfl⟩

/-- No action that is read off a text has the flag. -/
theorem stop_of_coerceToAction {u : Unicode} {v : Val} {action : ReactAction}
    (h : coerceToAction u v = some action) : action.stop = false := by
  cases v with
  | dict parsed =>
      simp only [coerceToAction] at h
      split_ifs at h
      · cases h
        rfl
  | _ => cases h

theorem stop_of_reasonStep {action : ReactAction} (h : reasonStep x t = .ok action) :
    action.stop = false := by
  rcases exists_of_bind_ok h with ⟨text, -, h⟩
  rcases exists_of_bind_ok h with ⟨parsed, -, h⟩
  have hread : ∀ v, ((coerceToAction x.unicode v).getD
      (finishAction "Action 字段缺失，强制结束")).stop = false := by
    intro v
    cases hcoerce : coerceToAction x.unicode v with
    | none => rfl
    | some a => exact stop_of_coerceToAction hcoerce
  cases parsed with
  | none =>
      cases h
      rfl
  | some v =>
      cases v <;> cases h <;> first | rfl | exact hread _

/-- A pass that gets an action to the guard is decided there. -/
theorem pass_of_reaches {action : ReactAction} (h : Reaches x t l action) :
    pass x t l = policyStep x t (asked l) action := by
  have hends : ¬ (action.type = "finish" ∨ action.stop = true) := by
    rw [stop_of_reasonStep x t h.written]
    exact fun hor => hor.elim h.not_finish (fun hstop => by cases hstop)
  simp only [pass, h.running, h.proceeds, h.written, act, if_neg hends, if_neg h.not_ask,
    Option.isSome_none, Bool.false_eq_true, if_false]

/-- The loop tells two decisions apart and carries out the rest. -/
theorem policyStep_cases {action : ReactAction} {r : PolicyResult}
    (h : judge x action = .ok r) :
    (Refused r ∧ (policyStep x t l action).budget = incrementStep l.budget ∧
      (policyStep x t l action).events = l.events ++ [.judged action r]) ∨
    (¬ Refused r ∧ policyStep x t l action =
      execute x t { l with events := l.events ++ [.judged action r] }
        { action with arguments := executedArguments r action }) := by
  simp only [policyStep, h, Refused]
  cases r.decision with
  | deny => exact .inl ⟨.inl rfl, rfl, rfl⟩
  | needsApproval => exact .inl ⟨.inr rfl, rfl, rfl⟩
  | allow | needsClarification | rewriteArguments => exact .inr ⟨by simp, rfl⟩

/-- What a pass can do: nothing, end at its head, end without an action to
    judge, have an action refused, or carry one out. -/
theorem pass_cases :
    (l.ended.isSome ∧ pass x t l = l) ∨
    (l.ended = none ∧ (pass x t l).ended.isSome ∧ (pass x t l).budget = l.budget ∧
      (pass x t l).events = l.events) ∨
    (l.ended = none ∧ stopped x t l = none ∧ (pass x t l).ended.isSome ∧
      (pass x t l).budget = incrementLlmCall l.budget ∧
      (pass x t l).events = l.events ++ [.reasoned]) ∨
    (∃ action r, Reaches x t l action ∧ judge x action = .ok r ∧ Refused r ∧
      (pass x t l).budget = incrementStep (incrementLlmCall l.budget) ∧
      (pass x t l).events = l.events ++ [.reasoned, .judged action r]) ∨
    (∃ action r, Reaches x t l action ∧ judge x action = .ok r ∧ ¬ Refused r ∧
      ((pass x t l).budget = incrementToolCall (incrementLlmCall l.budget) action.type ∧
          (pass x t l).ended.isSome ∨
        (pass x t l).budget =
          incrementStep (incrementToolCall (incrementLlmCall l.budget) action.type)) ∧
      (pass x t l).events = l.events ++ [.reasoned, .judged action r,
        .executed { action with arguments := executedArguments r action }]) := by
  by_cases hend : l.ended.isSome = true
  · exact .inl ⟨hend, by rw [pass, if_pos hend]⟩
  have hrun : l.ended = none := Option.not_isSome_iff_eq_none.mp hend
  rw [pass, if_neg hend]
  cases hstop : stopped x t l with
  | some reason => exact .inr (.inl ⟨hrun, rfl, rfl, rfl⟩)
  | none =>
      cases hreason : reasonStep x t with
      | error e => exact .inr (.inr (.inl ⟨hrun, rfl, rfl, rfl, rfl⟩))
      -- Every action but the two that end the loop gets to the guard.
      | ok action =>
          simp only [act]
          split_ifs with hfinish hask hslice
          · exact .inr (.inr (.inl ⟨hrun, trivial, rfl, rfl, rfl⟩))
          · exact .inr (.inr (.inl ⟨hrun, trivial, rfl, rfl, rfl⟩))
          · exact .inr (.inr (.inl ⟨hrun, trivial, rfl, rfl, rfl⟩))
          · have hreaches : Reaches x t l action :=
              ⟨hrun, hstop, hreason, fun h => hfinish (.inl h), hask⟩
            cases hjudge : judge x action with
            | error e =>
                rw [policyStep, hjudge]
                exact .inr (.inr (.inl ⟨hrun, trivial, rfl, rfl, rfl⟩))
            | ok r =>
                rcases policyStep_cases x t (asked l) hjudge with ⟨href, hb, he⟩ | ⟨href, heq⟩
                · refine .inr (.inr (.inr (.inl ⟨action, r, hreaches, hjudge, href, hb, ?_⟩)))
                  exact he.trans (List.append_assoc _ _ _)
                · refine .inr (.inr (.inr (.inr ⟨action, r, hreaches, hjudge, href, ?_⟩)))
                  rcases execute_spec x t
                    { asked l with events := (asked l).events ++ [.judged action r] }
                    { action with arguments := executedArguments r action } with ⟨he, hb⟩
                  rw [heq]
                  exact ⟨hb, he.trans (by simp [asked])⟩

end Passes

section Counting

/-- An action was carried out. -/
def Event.isExecuted : Event → Bool
  | .executed _ => true
  | _ => false

/-- A database query was carried out. -/
def Event.isDbQuery : Event → Bool
  | .executed action => action.type = "db_query"
  | _ => false

/-- The model was asked. -/
def Event.isReasoned : Event → Bool
  | .reasoned => true
  | _ => false

/-- The counts of a loop are within their limits, and they are the numbers of
    what was done. -/
structure Within (l : Loop) : Prop where
  llm_le : l.budget.llmCallCount ≤ l.budget.maxLlmCalls
  step_le : l.budget.stepCount ≤ l.budget.maxSteps
  tool_le : l.budget.toolCallCount ≤ l.budget.maxToolCalls
  db_le : l.budget.dbQueryCount ≤ l.budget.maxDbQueries
  llm_eq : l.budget.llmCallCount = (l.events.countP Event.isReasoned : Nat)
  tool_eq : l.budget.toolCallCount = (l.events.countP Event.isExecuted : Nat)
  db_eq : l.budget.dbQueryCount = (l.events.countP Event.isDbQuery : Nat)

/-- The limits that a loop which proceeds has not reached. -/
theorem lt_of_canProceed {b : ReactBudget} {now : ℚ} (h : canProceed b now = none) :
    b.stepCount < b.maxSteps ∧ b.toolCallCount < b.maxToolCalls ∧
      b.dbQueryCount < b.maxDbQueries ∧ b.llmCallCount < b.maxLlmCalls := by
  rw [canProceed] at h
  split_ifs at h
  omega

variable {x : Setup} {t : Turn} {l : Loop}

theorem lt_of_stopped (h : stopped x t l = none) :
    l.budget.stepCount < l.budget.maxSteps ∧ l.budget.toolCallCount < l.budget.maxToolCalls ∧
      l.budget.dbQueryCount < l.budget.maxDbQueries ∧
      l.budget.llmCallCount < l.budget.maxLlmCalls := by
  rw [stopped] at h
  split at h
  · cases h
  next hnone => exact lt_of_canProceed (Option.not_isSome_iff_eq_none.mp hnone)

/-- A pass keeps the counts. Each was below its limit at the head of the pass
    and grows by one at most. -/
theorem within_pass (h : Within l) : Within (pass x t l) := by
  rcases h with ⟨hllm, hstep, htool, hdb, hllmEq, htoolEq, hdbEq⟩
  rcases pass_cases x t l with ⟨-, heq⟩ | ⟨-, -, hb, he⟩ | ⟨-, hproceed, -, hb, he⟩ |
    ⟨action, r, hreach, -, -, hb, he⟩ | ⟨action, r, hreach, -, -, hb, he⟩
  · rw [heq]
    exact ⟨hllm, hstep, htool, hdb, hllmEq, htoolEq, hdbEq⟩
  · constructor <;> rw [hb]
    all_goals first | assumption | (rw [he]; assumption)
  · rcases lt_of_stopped hproceed with ⟨hs, ht, hd, hl⟩
    constructor <;> simp [hb, he, incrementLlmCall, Event.isReasoned, Event.isExecuted,
      Event.isDbQuery] <;> omega
  -- A refusal is a step, and no call of a tool.
  · rcases lt_of_stopped hreach.proceeds with ⟨hs, ht, hd, hl⟩
    constructor <;> simp [hb, he, incrementLlmCall, incrementStep, Event.isReasoned,
      Event.isExecuted, Event.isDbQuery, List.countP_cons] <;> omega
  · rcases lt_of_stopped hreach.proceeds with ⟨hs, ht, hd, hl⟩
    -- Only a database query counts towards the third limit.
    by_cases hquery : action.type = "db_query"
    · rcases hb with ⟨hb, -⟩ | hb <;>
        constructor <;> simp [hb, he, incrementLlmCall, incrementStep, incrementToolCall, hquery,
          Event.isReasoned, Event.isExecuted, Event.isDbQuery, List.countP_cons] <;> omega
    · rcases hb with ⟨hb, -⟩ | hb <;>
        constructor <;> simp [hb, he, incrementLlmCall, incrementStep, incrementToolCall, hquery,
          Event.isReasoned, Event.isExecuted, Event.isDbQuery, List.countP_cons] <;> omega

/-- What a loop may still spend on the model, and the pass it ends in. -/
def remaining (l : Loop) : Nat :=
  if l.ended.isSome then 0 else (l.budget.maxLlmCalls - l.budget.llmCallCount).toNat + 1

/-- A pass of a loop that is running ends it or uses up a call of the model. -/
theorem pass_falls (x : Setup) (t : Turn) (l : Loop) :
    l.ended.isSome = true ∨ remaining (pass x t l) < remaining l := by
  by_cases hended : l.ended.isSome = true
  · exact .inl hended
  refine .inr ?_
  rw [remaining, remaining, if_neg hended]
  split
  · exact Nat.succ_pos _
  next hgoes =>
    rcases pass_cases x t l with ⟨hsome, -⟩ | ⟨-, hsome, -⟩ | ⟨-, -, hsome, -⟩ |
      ⟨action, r, hreach, -, -, hb, -⟩ | ⟨action, r, hreach, -, -, hb, -⟩
    · exact absurd hsome hended
    · exact absurd hsome hgoes
    · exact absurd hsome hgoes
    -- The loop goes on, one call of the model later.
    · have hl := (lt_of_stopped hreach.proceeds).2.2.2
      simp only [hb, incrementStep, incrementLlmCall]
      omega
    · have hl := (lt_of_stopped hreach.proceeds).2.2.2
      rcases hb with ⟨-, hsome⟩ | hb
      · exact absurd hsome hgoes
      · simp only [hb, incrementStep, incrementToolCall, incrementLlmCall]
        omega

/-- The counts of a new budget are zero. -/
theorem counts_of_build {deadlineTs : ℚ} {cfg : Dict} {b : ReactBudget}
    (h : buildBudgetFromConfig deadlineTs cfg = .ok b) :
    b.stepCount = 0 ∧ b.toolCallCount = 0 ∧ b.dbQueryCount = 0 ∧ b.llmCallCount = 0 := by
  rcases exists_of_bind_ok h with ⟨maxSteps, -, h⟩
  rcases exists_of_bind_ok h with ⟨maxToolCalls, -, h⟩
  rcases exists_of_bind_ok h with ⟨maxDbQueries, -, h⟩
  rcases exists_of_bind_ok h with ⟨maxLlmCalls, -, h⟩
  rcases exists_of_bind_ok h with ⟨tokenBudget, -, h⟩
  cases h
  exact ⟨rfl, rfl, rfl, rfl⟩

/-- Every run of a new loop whose limits are not negative: it ends after at most
    one pass more than the model may be called, and at every point the counts
    are within their limits and are what was done. -/
theorem loop_within_budget (x : Setup) (deadlineTs : ℚ) (cfg : Dict) (b : ReactBudget)
    (h : buildBudgetFromConfig deadlineTs cfg = .ok b) (hsteps : 0 ≤ b.maxSteps)
    (htools : 0 ≤ b.maxToolCalls) (hqueries : 0 ≤ b.maxDbQueries) (hcalls : 0 ≤ b.maxLlmCalls)
    (ω : Nat → Turn) :
    (∃ n : Nat, (n : Int) ≤ b.maxLlmCalls + 1 ∧
      (runFor (pass x) ω { budget := b } n).ended.isSome = true) ∧
    ∀ n, Within (runFor (pass x) ω { budget := b } n) := by
  rcases counts_of_build h with ⟨hstep, htool, hdb, hllm⟩
  constructor
  · rcases runFor_measure (pass x) ω { budget := b } (fun l => l.ended.isSome = true) remaining
      (fun n => pass_falls x (ω n) _) with ⟨n, hn, hfinal⟩
    refine ⟨n, ?_, hfinal⟩
    simp only [remaining, Option.isSome_none, Bool.false_eq_true, if_false, hllm] at hn
    omega
  · intro n
    induction n with
    | zero =>
        constructor <;> simp only [runFor, hstep, htool, hdb, hllm, List.countP_nil, Nat.cast_zero]
        all_goals assumption
    | succ n ih => exact within_pass ih

/-- A setup with the defaults. -/
def plainSetup : Setup where
  unicode := default
  casefold := String.toLower
  modelValidate := fun _ => none
  readFloat := fun _ => none
  decodeDepth := 10
  signature := fun actionType _ => actionType
  guard := { allowedTools := defaultAllowedTools, toolPolicies := .dict [] }

/-- The default limits, with a model that always fails. -/
theorem loop_within_budget_default :
    (∃ n : Nat, (n : Int) ≤ 5 + 1 ∧
      (runFor (pass plainSetup) (fun _ => ⟨0, .error .runtimeError, .error .runtimeError⟩)
        { budget := {} } n).ended.isSome = true) ∧
    ∀ n, Within (runFor (pass plainSetup) (fun _ => ⟨0, .error .runtimeError, .error .runtimeError⟩)
      { budget := {} } n) :=
  loop_within_budget plainSetup 0 [] {} rfl (by decide) (by decide) (by decide) (by decide) _

end Counting

end React

end AgenticRag
