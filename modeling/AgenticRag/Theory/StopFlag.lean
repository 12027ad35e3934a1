import AgenticRag.Theory.LoopBudget

/-!
# The Stop Flag

The model is asked for an object with an action and a flag that says whether to stop.
The loop tests the flag, but on the record the object is turned into, and this has no
place for it: whatever the object says, the flag is lost on the way
(`stop_of_coerceToAction`).

So an object that says to stop ends the loop where the loop would have ended anyway:
where the type of the action does so, where the guard fails, or where it refuses the
action for the third time (`stop_honoured_iff`).

## Main definitions

* `SaysStop`: The object says that the loop is to stop.
* `EndsAnyway`: What ends the loop without the flag.

## Theorems

* `coerceToAction_eq`: The action that is read off an object.
* `stop_honoured_iff`: When the flag is honoured.
-/

namespace AgenticRag

namespace React

open Py Skills Ordered

section Objects

variable (parsed : Dict)

/-- The section of the action, empty in the flat layout. -/
def actionSection : Dict :=
  match pyGet parsed "action" .none with
  | .dict d => d
  | _ => []

/-- The value is true. -/
def isTrue : Option Val → Bool
  | some (.bool b) => b
  | _ => false

/-- The flag is set in the object, or in the section of the action. -/
def SaysStop : Prop :=
  isTrue (parsed.lookup "stop") ∨ isTrue ((actionSection parsed).lookup "stop")

/-- The type of action an object names, in either layout. -/
def namedType : String :=
  match firstOf [pyGet (actionSection parsed) "type" .none, pyGet parsed "type" .none,
      pyGet parsed "action_type" .none, pyGet parsed "tool_name" .none] with
  | .str s => strip s
  | _ => ""

/-- The summary of an object, cut if it is a text. -/
def namedThought : Val :=
  match firstOf [pyGet parsed "thought_summary" .none, pyGet parsed "thought" .none,
      pyGet parsed "reasoning" .none] with
  | .str s => .str (take s 200)
  | v => v

/-- The action an object names. -/
def namedAction (u : Unicode) : ReactAction where
  type := namedType parsed
  toolName := pyGet (actionSection parsed) "tool_name" (.str (namedType parsed))
  purpose := (firstOf [pyGet (actionSection parsed) "purpose" .none,
    pyGet parsed "purpose" .none]).toStr u
  arguments := actionArguments parsed (actionSection parsed)
  thoughtSummary := (namedThought parsed).toStr u

theorem namedAction_type (u : Unicode) : (namedAction parsed u).type = namedType parsed :=
  rfl

theorem coerceToAction_eq (u : Unicode) : coerceToAction u (.dict parsed) =
    if namedType parsed = "" then none else some (namedAction parsed u) :=
  rfl

end Objects

section Stopping

variable (x : Setup) (t : Turn) (l : Loop) (parsed : Dict)

/-- Where the object says to stop, the pass ends the loop and carries out nothing. -/
def StopHonoured : Prop :=
  SaysStop parsed → (pass x t l).ended.isSome = true ∧
    (pass x t l).events.countP Event.isExecuted = l.events.countP Event.isExecuted

/-- The loop ends without the flag: the type of the action ends it, the guard fails, or
    it denies the action and has denied two among the last four failures. -/
def EndsAnyway : Prop :=
  namedType parsed = "" ∨ namedType parsed = "finish" ∨ namedType parsed = "ask_clarification" ∨
    (∃ e, judge x (namedAction parsed x.unicode) = .error e) ∨
    ∃ r, judge x (namedAction parsed x.unicode) = .ok r ∧ r.decision = .deny ∧
      2 ≤ (l.failures.drop (l.failures.length - 4)).count .policy

variable {x t l parsed}

/-- The refusals among the last five failures, the new one included. -/
theorem count_refusals (failures : List FailureStep) :
    ((failures ++ [FailureStep.policy]).drop ((failures ++ [FailureStep.policy]).length - 5)).count
      .policy = (failures.drop (failures.length - 4)).count .policy + 1 := by
  have hlength : (failures ++ [FailureStep.policy]).length - 5 = failures.length - 4 := by
    rw [List.length_append, List.length_singleton]
    omega
  rw [hlength, List.drop_append_of_le_length (Nat.sub_le _ _), List.count_append]
  rfl

/-- What the pass does with the action an object names. -/
theorem pass_of_object {text : String} (hrunning : l.ended = none) (hgoes : stopped x t l = none)
    (hllm : t.llm = .ok text)
    (hjson : extractJson x.readFloat x.decodeDepth text = .ok (some (.dict parsed))) :
    pass x t l = act x t (asked l) ((coerceToAction x.unicode (.dict parsed)).getD
      (finishAction "Action 字段缺失，强制结束")) := by
  have hreason : reasonStep x t = .ok ((coerceToAction x.unicode (.dict parsed)).getD
      (finishAction "Action 字段缺失，强制结束")) := by
    rw [reasonStep, hllm]
    change parseLlmOutput x.unicode x.readFloat x.decodeDepth text = _
    rw [parseLlmOutput, hjson]
    rfl
  simp only [pass, hrunning, hgoes, hreason, Option.isSome_none, Bool.false_eq_true, if_false]

/-- A refusal that may be the last ends the loop if it is the third. -/
theorem refuse_ended (l : Loop) (final : Bool) : (refuse l final).ended.isSome = true ↔
    final = true ∧ 2 ≤ (l.failures.drop (l.failures.length - 4)).count .policy := by
  rw [refuse, count_refusals]
  dsimp only
  split_ifs with hthree
  · exact iff_of_true rfl ⟨hthree.1, by omega⟩
  · exact iff_of_false (fun h => by cases h) (fun h => hthree ⟨h.1, by omega⟩)

/-- A decision of the guard ends the loop and carries out nothing where it is the third
    refusal. -/
theorem policyStep_ends_iff {action : ReactAction} {r : PolicyResult}
    (hjudge : judge x action = .ok r) :
    ((policyStep x t l action).ended.isSome = true ∧
      (policyStep x t l action).events.countP Event.isExecuted =
        l.events.countP Event.isExecuted) ↔
      r.decision = .deny ∧ 2 ≤ (l.failures.drop (l.failures.length - 4)).count .policy := by
  rcases policyStep_cases x t l hjudge with ⟨hrefused, -, he⟩ | ⟨hrefused, heq⟩
  · have hcount : (policyStep x t l action).events.countP Event.isExecuted =
        l.events.countP Event.isExecuted := by
      rw [he, List.countP_append]
      rfl
    rw [and_iff_left hcount]
    rcases hrefused with hdecision | hdecision
    · simp only [policyStep, hjudge, hdecision, refuse_ended, true_and]
    · simp only [policyStep, hjudge, hdecision, refuse_ended, Bool.false_eq_true, false_and,
        reduceCtorEq]
  -- Whatever is not refused is carried out.
  · have hcount : (policyStep x t l action).events.countP Event.isExecuted =
        l.events.countP Event.isExecuted + 1 := by
      rw [heq, (execute_spec x t _ _).1, List.countP_append, List.countP_append]
      rfl
    refine iff_of_false (fun h => ?_) (fun h => hrefused (.inl h.1))
    rw [hcount] at h
    exact absurd h.2 (Nat.succ_ne_self _)

/-- The pass ends the loop and carries out nothing where the loop ends without the flag. -/
theorem pass_ends_iff {text : String} (hrunning : l.ended = none) (hgoes : stopped x t l = none)
    (hllm : t.llm = .ok text)
    (hjson : extractJson x.readFloat x.decodeDepth text = .ok (some (.dict parsed))) :
    ((pass x t l).ended.isSome = true ∧
      (pass x t l).events.countP Event.isExecuted = l.events.countP Event.isExecuted) ↔
      EndsAnyway x l parsed := by
  have hquiet : (asked l).events.countP Event.isExecuted =
      l.events.countP Event.isExecuted := by
    rw [asked, List.countP_append]
    rfl
  rw [pass_of_object hrunning hgoes hllm hjson, coerceToAction_eq]
  by_cases hnone : namedType parsed = ""
  · rw [if_pos hnone]
    exact iff_of_true ⟨rfl, hquiet⟩ (.inl hnone)
  rw [if_neg hnone, Option.getD_some, act, namedAction_type]
  by_cases hfinish : namedType parsed = "finish"
  · rw [if_pos (.inl hfinish)]
    exact iff_of_true ⟨rfl, hquiet⟩ (.inr (.inl hfinish))
  rw [if_neg (fun h => h.elim hfinish (fun hstop => by cases hstop))]
  by_cases hask : namedType parsed = "ask_clarification"
  · rw [if_pos hask]
    refine iff_of_true ?_ (.inr (.inr (.inl hask)))
    -- The loop ends here also where the question cannot be cut.
    split_ifs
    · exact ⟨rfl, hquiet⟩
    · exact ⟨rfl, hquiet⟩
  rw [if_neg hask]
  cases hjudge : judge x (namedAction parsed x.unicode) with
  | error e =>
      rw [policyStep, hjudge]
      exact iff_of_true ⟨rfl, hquiet⟩ (.inr (.inr (.inr (.inl ⟨e, hjudge⟩))))
  | ok r =>
      rw [← hquiet, policyStep_ends_iff hjudge]
      simp only [EndsAnyway, hnone, hfinish, hask, hjudge, false_or, reduceCtorEq, exists_false,
        Except.ok.injEq, exists_eq_left']
      rfl

/-- Every pass in which the model writes an object: where the object says to stop, the
    loop ends without carrying out an action if and only if it ends without the flag. -/
theorem stop_honoured_iff {text : String} (hrunning : l.ended = none)
    (hgoes : stopped x t l = none) (hllm : t.llm = .ok text)
    (hjson : extractJson x.readFloat x.decodeDepth text = .ok (some (.dict parsed))) :
    StopHonoured x t l parsed ↔ (SaysStop parsed → EndsAnyway x l parsed) :=
  imp_congr_right (fun _ => pass_ends_iff hrunning hgoes hllm hjson)

/-- An object that says to stop and names a retrieval. -/
def stopText : String :=
  "\x7b\"stop\":true,\"action\":\x7b\"type\":\"rag_search\",\"purpose\":\"p\"\x7d\x7d"

/-- A turn that asks to stop. -/
def stopTurn : Turn := ⟨0, .ok stopText, .ok { success := true }⟩

/-- What is read is an object that says to stop at its top. -/
def readsStop : Option Val → Bool
  | some (.dict parsed) => isTrue (parsed.lookup "stop")
  | _ => false

theorem saysStop_of_readsStop {v : Option Val} (h : readsStop v = true) :
    ∃ parsed, v = some (.dict parsed) ∧ SaysStop parsed := by
  rcases v with - | v
  · cases h
  · cases v with
    | dict parsed => exact ⟨parsed, rfl, .inl h⟩
    | _ => cases h

theorem reads_stopText :
    ∃ parsed, extractJson plainSetup.readFloat plainSetup.decodeDepth stopText =
      .ok (some (.dict parsed)) ∧ SaysStop parsed := by
  have hreads : (extractJson plainSetup.readFloat plainSetup.decodeDepth stopText).toOption.any
      readsStop = true := by decide +kernel
  rcases exists_of_any hreads with ⟨v, hv, hstop⟩
  rcases saysStop_of_readsStop hstop with ⟨parsed, rfl, hsays⟩
  exact ⟨parsed, hv, hsays⟩

theorem stop_honoured_iff_retrieval :
    ∃ parsed, SaysStop parsed ∧ (StopHonoured plainSetup stopTurn { budget := {} } parsed ↔
      (SaysStop parsed → EndsAnyway plainSetup { budget := {} } parsed)) := by
  rcases reads_stopText with ⟨parsed, hread, hsays⟩
  exact ⟨parsed, hsays, stop_honoured_iff rfl (by decide +kernel) rfl hread⟩

/-- The object says to stop, the retrieval is carried out, and the loop goes on. -/
theorem stop_flag_lost :
    ∃ parsed, extractJson plainSetup.readFloat plainSetup.decodeDepth stopText =
        .ok (some (.dict parsed)) ∧ SaysStop parsed ∧
      (pass plainSetup stopTurn { budget := {} }).ended = none ∧
      (pass plainSetup stopTurn { budget := {} }).events.countP Event.isExecuted = 1 := by
  rcases reads_stopText with ⟨parsed, hread, hsays⟩
  exact ⟨parsed, hread, hsays, by decide +kernel, by decide +kernel⟩

end Stopping

end React

end AgenticRag
