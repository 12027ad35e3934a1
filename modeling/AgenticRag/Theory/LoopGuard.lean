import AgenticRag.Lib.Trailing
import AgenticRag.Theory.LoopBudget
import Mathlib.Data.Finset.Card

/-!
# What the Loop Guard Counts

The guard of the ReAct loop keeps two counters and changes them with every tool that
was carried out with success. They summarise the executions of the run so far, and
what they stand for is said here of the executions themselves (`sameActions`,
`declines`): the first is one more than the number of executions in a row, at the end,
that repeat the action before and bring too little that is new, the second the number
of retrievals in a row that score clearly less than the one before, which did so
too.

Two things are the guard's own. Too little that is new is fewer ids than a setting
says, which need not be one, and a retrieval without a score is passed over by the
second counter, neither raising it nor setting it back.

## Main definitions

* `Execution`: A tool that was carried out with success.
* `Tracks`: A guard that has counted some executions.

## Theorems

* `tracks_concat`: One more execution.
* `guard_counts`: What holds of every run.
-/

namespace AgenticRag

namespace React

open Py Skills Driven Trailing

section History

/-- The ids evidence has that it did not have before. -/
def newIds (before after : List EvidenceRef) : Finset String :=
  (evidenceIds after).toFinset \ (evidenceIds before).toFinset

/-- A tool that was carried out with success: what it is and is compared by, how many
    new ids it brought, and how it scored. -/
structure Execution where
  actionType : String
  signature : String
  gain : Nat
  score : Option ℚ

variable (x : Setup) (t : Turn) (l : Loop)

/-- The action a pass carries out. -/
def carriedOut : Option ReactAction :=
  if l.ended.isSome ∨ (stopped x t l).isSome then none
  else
    match reasonStep x t with
    | .error _ => none
    | .ok action =>
        if (action.type = "finish" ∨ action.stop) ∨ action.type = "ask_clarification" then none
        else
          match judge x action with
          | .error _ => none
          | .ok r =>
              if r.decision = .deny ∨ r.decision = .needsApproval then none
              else some { action with arguments := executedArguments r action }

/-- What the observation of an action comes to, if it is a success. -/
def executionOf (evidence : List EvidenceRef) (action : ReactAction) :
    Except Exc Observed → Option Execution
  | .error _ => none
  | .ok o =>
      if o.success then
        some {
          actionType := action.type
          signature := x.signature action.type action.arguments
          gain := (newIds evidence (mergeEvidence evidence o.evidences)).card
          score := rerankScore action.type o }
      else none

/-- The successful execution of a pass. -/
def execution : Option Execution :=
  (carriedOut x t l).bind (fun action => executionOf x l.evidence action t.observed)

/-- The successful executions of a run, in order. -/
def executions (ω : Nat → Turn) : Nat → List Execution
  | 0 => []
  | n + 1 => executions ω n ++ (execution x (ω n) (runFor (pass x) ω l n)).toList

variable (cfg : LoopGuardConfig)

/-- An execution repeats the one before and brings too little that is new. -/
def repeats (p : Execution × Execution) : Bool :=
  decide (p.2.signature = p.1.signature ∧ (p.2.gain : Int) < cfg.minEvidenceGain)

/-- None, or one and those that repeat the one before, at the end. -/
def sameActions (history : List Execution) : Nat :=
  if history = [] then 0 else trailing (repeats cfg) (pairs history) + 1

/-- The retrievals that have a score, with what they brought. -/
def scoredOf (history : List Execution) : List (ℚ × Nat) :=
  history.filterMap (fun e => e.score.map (fun s => (s, e.gain)))

/-- The score has dropped twice, clearly both times, and little was found, or it is
    low. -/
def drops (p : (ℚ × Nat) × (ℚ × Nat) × (ℚ × Nat)) : Bool :=
  decide (p.2.2.1 < p.2.1.1 ∧ p.2.1.1 < p.1.1 ∧ cfg.minRerankDrop ≤ p.1.1 - p.2.1.1 ∧
    cfg.minRerankDrop ≤ p.2.1.1 - p.2.2.1 ∧
    ((p.2.2.2 : Int) < cfg.minEvidenceGain ∨ p.2.2.1 < cfg.absoluteQualityFloor))

/-- The retrievals with a score that drop, at the end. -/
def declines (history : List Execution) : Nat :=
  trailing (drops cfg) (triples (scoredOf history))

/-- A guard that has counted some executions. -/
structure Tracks (history : List Execution) (g : LoopGuardState) : Prop where
  signature : g.actionSignature = ((history.getLast?.map Execution.signature).getD "")
  same : g.sameActionCount = sameActions cfg history
  scores : g.rerankScoreHistory = (scoredOf history).map Prod.fst
  declines : g.rerankDropCount = declines cfg history

end History

section Counting

variable {cfg : LoopGuardConfig} {g : LoopGuardState} {history : List Execution}

theorem card_newIds (before after : List EvidenceRef) : (newIds before after).card =
    ((evidenceIds after).dedup.filter (· ∉ evidenceIds before)).length := by
  rw [← List.toFinset_card_of_nodup ((List.nodup_dedup _).filter _)]
  refine congrArg Finset.card (Finset.ext (fun id => ?_))
  simp [newIds]

theorem updateLoopGuard_signature (actionType signature : String) (before after : List EvidenceRef)
    (score : Option ℚ) :
    (updateLoopGuard cfg g actionType signature before after score).actionSignature = signature := by
  unfold updateLoopGuard
  cases score with
  | none => rfl
  | some s => dsimp only; split_ifs <;> rfl

theorem updateLoopGuard_same (actionType signature : String) (before after : List EvidenceRef)
    (score : Option ℚ) :
    (updateLoopGuard cfg g actionType signature before after score).sameActionCount =
      if signature = g.actionSignature ∧
          ((newIds before after).card : Int) < cfg.minEvidenceGain then
        g.sameActionCount + 1
      else 1 := by
  rw [card_newIds]
  unfold updateLoopGuard
  cases score with
  | none => rfl
  | some s => dsimp only; split_ifs <;> rfl

/-- Without a score the second counter stays. -/
theorem updateLoopGuard_unscored (actionType signature : String)
    (before after : List EvidenceRef) :
    (updateLoopGuard cfg g actionType signature before after none).rerankScoreHistory =
        g.rerankScoreHistory ∧
      (updateLoopGuard cfg g actionType signature before after none).rerankDropCount =
        g.rerankDropCount :=
  ⟨rfl, rfl⟩

theorem updateLoopGuard_scored (signature : String) (before after : List EvidenceRef) (s : ℚ) :
    (updateLoopGuard cfg g "rag_search" signature before after (some s)).rerankScoreHistory =
        g.rerankScoreHistory ++ [s] ∧
      (updateLoopGuard cfg g "rag_search" signature before after (some s)).rerankDropCount =
        rerankDrops cfg (g.rerankScoreHistory ++ [s]) (newIds before after).card s
          g.rerankDropCount := by
  rw [card_newIds]
  exact ⟨rfl, rfl⟩

theorem scoredOf_concat (e : Execution) : scoredOf (history ++ [e]) =
    scoredOf history ++ (e.score.map (fun s => (s, e.gain))).toList := by
  rw [scoredOf, List.filterMap_append]
  cases hscore : e.score <;> simp [scoredOf, hscore]

/-- The first counter after one more execution. -/
theorem sameActions_concat (e : Execution) : sameActions cfg (history ++ [e]) =
    if e.signature = ((history.getLast?.map Execution.signature).getD "") ∧
        (e.gain : Int) < cfg.minEvidenceGain then sameActions cfg history + 1
    else 1 := by
  have hne : history ++ [e] ≠ [] := List.append_ne_nil_of_right_ne_nil _ (List.cons_ne_nil _ _)
  rw [sameActions, if_neg hne]
  rcases List.eq_nil_or_concat' history with rfl | ⟨before, last, rfl⟩
  · -- The first execution is counted whatever it is compared with.
    split_ifs <;> rfl
  · have hpairs : pairs (before ++ [last] ++ [e]) = pairs (before ++ [last]) ++ [(last, e)] := by
      rw [List.append_assoc]
      exact pairs_concat before last e
    have hsome : before ++ [last] ≠ [] :=
      List.append_ne_nil_of_right_ne_nil _ (List.cons_ne_nil _ _)
    rw [hpairs, trailing_concat, sameActions, if_neg hsome, List.getLast?_append,
      List.getLast?_singleton]
    by_cases hrepeats : repeats cfg (last, e) = true
    · rw [if_pos hrepeats]
      exact (if_pos (of_decide_eq_true hrepeats)).symm
    · rw [if_neg hrepeats]
      exact (if_neg (fun h => hrepeats (decide_eq_true h))).symm

/-- The second counter after one more retrieval with a score. -/
theorem rerankDrops_concat (scored : List (ℚ × Nat)) (score : ℚ) (gain : Nat) :
    rerankDrops cfg (scored.map Prod.fst ++ [score]) gain score
        (trailing (drops cfg) (triples scored)) =
      trailing (drops cfg) (triples (scored ++ [(score, gain)])) := by
  rcases List.eq_nil_or_concat' scored with rfl | ⟨rest, b, rfl⟩
  · rfl
  rcases List.eq_nil_or_concat' rest with rfl | ⟨rest, a, rfl⟩
  · rfl
  have htriples : triples (rest ++ [a] ++ [b] ++ [(score, gain)]) =
      triples (rest ++ [a] ++ [b]) ++ [(a, b, (score, gain))] := by
    rw [List.append_assoc, List.append_assoc, List.append_assoc rest]
    exact triples_concat rest a b (score, gain)
  have hreverse : ((rest ++ [a] ++ [b]).map Prod.fst ++ [score]).reverse =
      score :: b.1 :: a.1 :: (rest.map Prod.fst).reverse := by
    simp
  rw [htriples, trailing_concat, rerankDrops, hreverse]
  by_cases hdrops : drops cfg (a, b, (score, gain)) = true
  · rw [if_pos hdrops]
    exact if_pos (of_decide_eq_true hdrops)
  · rw [if_neg hdrops]
    exact if_neg (fun h => hdrops (decide_eq_true h))

/-- The guard counts one more execution. -/
theorem tracks_concat (h : Tracks cfg history g) {actionType signature : String}
    {before after : List EvidenceRef} {score : Option ℚ}
    (hscore : score.isSome = true → actionType = "rag_search") :
    Tracks cfg (history ++ [⟨actionType, signature, (newIds before after).card, score⟩])
      (updateLoopGuard cfg g actionType signature before after score) := by
  refine ⟨?_, ?_, ?_, ?_⟩
  · rw [updateLoopGuard_signature, List.getLast?_append, List.getLast?_singleton]
    rfl
  · rw [updateLoopGuard_same, sameActions_concat, h.signature, h.same]
  · cases score with
    | none =>
        rw [(updateLoopGuard_unscored _ _ _ _).1, scoredOf_concat, h.scores]
        exact congrArg (List.map Prod.fst) (List.append_nil _).symm
    | some s =>
        rw [hscore rfl, (updateLoopGuard_scored _ _ _ _).1, scoredOf_concat, h.scores,
          List.map_append]
        rfl
  · cases score with
    | none =>
        rw [(updateLoopGuard_unscored _ _ _ _).2, h.declines, declines, declines, scoredOf_concat]
        exact congrArg (fun l => trailing (drops cfg) (triples l)) (List.append_nil _).symm
    | some s =>
        rw [hscore rfl, (updateLoopGuard_scored _ _ _ _).2, h.scores, h.declines, declines,
          rerankDrops_concat, declines, scoredOf_concat]
        rfl

end Counting

section Passes

variable {x : Setup} {t : Turn} {l : Loop}

theorem rerankScore_isSome {actionType : String} {o : Observed}
    (h : (rerankScore actionType o).isSome = true) : actionType = "rag_search" := by
  by_contra hne
  rw [rerankScore, if_neg hne] at h
  cases h

/-- An action that ends the loop does nothing else. -/
theorem act_of_ends {action : ReactAction}
    (hends : (action.type = "finish" ∨ action.stop = true) ∨ action.type = "ask_clarification") :
    (act x t l action).loopGuard = l.loopGuard ∧ (act x t l action).events = l.events := by
  unfold act
  split_ifs with hfinish hask
  · exact ⟨rfl, rfl⟩
  · exact ⟨rfl, rfl⟩
  · exact ⟨rfl, rfl⟩
  · exact absurd hends (not_or.mpr ⟨hfinish, hask⟩)

/-- A refusal leaves the guard alone, and the tools. -/
theorem policyStep_of_refused {action : ReactAction} {r : PolicyResult}
    (hjudge : judge x action = .ok r) (hrefused : Refused r) :
    (policyStep x t l action).loopGuard = l.loopGuard ∧
      (policyStep x t l action).events.countP Event.isExecuted =
        l.events.countP Event.isExecuted := by
  have hjudged : (l.events ++ [Event.judged action r]).countP Event.isExecuted =
      l.events.countP Event.isExecuted :=
    List.countP_append.trans (Nat.add_zero _)
  rw [policyStep, hjudge]
  rcases hrefused with hdeny | happroval
  · simp only [hdeny]
    exact ⟨rfl, hjudged⟩
  · simp only [happroval]
    exact ⟨rfl, hjudged⟩

/-- A pass carries out no action and leaves evidence and guard alone, or it carries one
    out and does nothing else to them. -/
theorem carriedOut_cases :
    (carriedOut x t l = none ∧ (pass x t l).loopGuard = l.loopGuard ∧
      (pass x t l).events.countP Event.isExecuted = l.events.countP Event.isExecuted) ∨
    ∃ action l', carriedOut x t l = some action ∧ pass x t l = execute x t l' action ∧
      l'.loopGuard = l.loopGuard ∧ l'.evidence = l.evidence ∧
      l'.events.countP Event.isExecuted = l.events.countP Event.isExecuted := by
  unfold carriedOut pass
  by_cases hend : l.ended.isSome = true
  · rw [if_pos (.inl hend), if_pos hend]
    exact .inl ⟨rfl, rfl, rfl⟩
  rw [if_neg hend]
  cases hstop : stopped x t l with
  | some reason =>
      rw [if_pos (.inr rfl)]
      exact .inl ⟨rfl, rfl, rfl⟩
  | none =>
      have hgoes : ¬ (l.ended.isSome = true ∨ (none : Option FinishReason).isSome = true) :=
        fun h => h.elim hend (fun h => by cases h)
      rw [if_neg hgoes]
      have hasked : (asked l).events.countP Event.isExecuted = l.events.countP Event.isExecuted :=
        List.countP_append.trans (Nat.add_zero _)
      cases reasonStep x t with
      | error e => exact .inl ⟨rfl, rfl, hasked⟩
      | ok action =>
          dsimp only
          by_cases hends : (action.type = "finish" ∨ action.stop = true) ∨
              action.type = "ask_clarification"
          · rw [if_pos hends, (act_of_ends hends).1, (act_of_ends hends).2]
            exact .inl ⟨rfl, rfl, hasked⟩
          rw [if_neg hends, act, if_neg (fun h => hends (.inl h)),
            if_neg (fun h => hends (.inr h))]
          cases hjudge : judge x action with
          | error e =>
              rw [policyStep, hjudge]
              exact .inl ⟨rfl, rfl, hasked⟩
          | ok r =>
              dsimp only
              by_cases hrefused : r.decision = .deny ∨ r.decision = .needsApproval
              · have hquiet := policyStep_of_refused (t := t) (l := asked l) hjudge hrefused
                rw [if_pos hrefused]
                exact .inl ⟨rfl, hquiet.1, hquiet.2.trans hasked⟩
              · rw [if_neg hrefused]
                rcases policyStep_cases x t (asked l) hjudge with ⟨href, -⟩ | ⟨-, heq⟩
                · exact absurd href hrefused
                · exact .inr ⟨_, _, rfl, heq, rfl, rfl, List.countP_append.trans hasked⟩

/-- A pass counts what it has carried out with success, and nothing else. -/
theorem loopGuard_pass {history : List Execution}
    (h : Tracks x.loopGuardConfig history l.loopGuard) :
    Tracks x.loopGuardConfig (history ++ (execution x t l).toList) (pass x t l).loopGuard := by
  rcases @carriedOut_cases x t l with
    ⟨hnone, hguard, -⟩ | ⟨action, l', hsome, hpass, hguard, hevidence, -⟩
  · rw [execution, hnone, hguard]
    exact (List.append_nil history).symm ▸ h
  · rw [execution, hsome, hpass, execute, Option.bind_some]
    cases t.observed with
    | error e =>
        dsimp only
        rw [hguard]
        exact (List.append_nil history).symm ▸ h
    | ok o =>
        dsimp only [executionOf]
        rw [hguard, hevidence]
        split_ifs with hsuccess
        · exact tracks_concat h rerankScore_isSome
        · exact (List.append_nil history).symm ▸ h

/-- Behind its head a pass does not end for what the guard counts. -/
theorem act_ended_ne (hrunning : l.ended = none) (action : ReactAction) {reason : FinishReason}
    (hreason : reason = .sameActionLoop ∨ reason = .rerankDeclining) :
    (act x t l action).ended ≠ some (.finished reason) := by
  have hne : ∀ r, r ≠ .sameActionLoop → r ≠ .rerankDeclining →
      some (Ending.finished r) ≠ some (.finished reason) := by
    rintro r hsame hdecline heq
    cases heq
    exact hreason.elim hsame hdecline
  have hraised : ∀ e, some (Ending.raised e) ≠ some (.finished reason) := fun e h => by cases h
  have hnone : (none : Option Ending) ≠ some (.finished reason) := fun h => by cases h
  unfold act
  split_ifs
  · exact hne _ (by decide) (by decide)
  · exact hne _ (by decide) (by decide)
  · exact hraised _
  · unfold policyStep
    cases judge x action with
    | error e => exact hraised e
    | ok r =>
        have hrefuse : ∀ final, (refuse { l with events := l.events ++ [.judged action r] }
            final).ended ≠ some (.finished reason) := by
          intro final
          dsimp only [refuse]
          split_ifs
          · exact hne _ (by decide) (by decide)
          · exact hnone
        have hexecute : ∀ a, (execute x t { l with events := l.events ++ [.judged action r] }
            a).ended ≠ some (.finished reason) := by
          intro a
          dsimp only [execute]
          cases t.observed with
          | error e => exact hraised e
          | ok o =>
              dsimp only
              rw [hrunning]
              exact hnone
        dsimp only
        cases r.decision with
        | deny => exact hrefuse true
        | needsApproval => exact hrefuse false
        | allow | needsClarification | rewriteArguments => exact hexecute _

theorem ended_iff_stopped (hrunning : l.ended = none) {reason : FinishReason}
    (hreason : reason = .sameActionLoop ∨ reason = .rerankDeclining) :
    (pass x t l).ended = some (.finished reason) ↔ stopped x t l = some reason := by
  have hend : ¬ l.ended.isSome = true := by rw [hrunning]; decide
  rw [pass, if_neg hend]
  cases hstop : stopped x t l with
  | some r =>
      dsimp only
      constructor
      · intro h
        cases h
        rfl
      · intro h
        cases h
        rfl
  | none =>
      refine iff_of_false ?_ (fun h => by cases h)
      cases reasonStep x t with
      | error e =>
          intro h
          cases h
          rcases hreason with h | h <;> cases h
      | ok action => exact act_ended_ne (l := asked l) hrunning action hreason

theorem stopped_sameActionLoop_iff : stopped x t l = some .sameActionLoop ↔
    canProceed l.budget t.now = none ∧
      x.loopGuardConfig.sameActionLimit ≤ l.loopGuard.sameActionCount := by
  unfold stopped checkLoopGuardTermination
  cases canProceed l.budget t.now with
  | some v => simp
  | none =>
      simp only [Option.isSome_none, Bool.false_eq_true, if_false, true_and]
      split_ifs <;> simp_all

theorem stopped_rerankDeclining_iff : stopped x t l = some .rerankDeclining ↔
    canProceed l.budget t.now = none ∧
      ¬ x.loopGuardConfig.sameActionLimit ≤ l.loopGuard.sameActionCount ∧
      x.loopGuardConfig.rerankDropLimit ≤ l.loopGuard.rerankDropCount := by
  unfold stopped checkLoopGuardTermination
  cases canProceed l.budget t.now with
  | some v => simp
  | none =>
      simp only [Option.isSome_none, Bool.false_eq_true, if_false, true_and]
      split_ifs <;> simp_all

end Passes

section Runs

variable (x : Setup) (b : ReactBudget) (ω : Nat → Turn)

/-- A new guard has counted nothing. -/
theorem tracks_runFor (n : Nat) : Tracks x.loopGuardConfig (executions x { budget := b } ω n)
    (runFor (pass x) ω { budget := b } n).loopGuard := by
  induction n with
  | zero => exact ⟨rfl, rfl, rfl, rfl⟩
  | succ n ih => exact loopGuard_pass ih

/-- At every point of a run the counters say what the executions so far come to, and a
    loop that is running ends for one of them just when the budget allows another step
    and the limit is reached. -/
theorem guard_counts (n : Nat) :
    (runFor (pass x) ω { budget := b } n).loopGuard.sameActionCount =
        sameActions x.loopGuardConfig (executions x { budget := b } ω n) ∧
      (runFor (pass x) ω { budget := b } n).loopGuard.rerankDropCount =
        declines x.loopGuardConfig (executions x { budget := b } ω n) ∧
      ((runFor (pass x) ω { budget := b } n).ended = none →
        ((runFor (pass x) ω { budget := b } (n + 1)).ended = some (.finished .sameActionLoop) ↔
          canProceed (runFor (pass x) ω { budget := b } n).budget (ω n).now = none ∧
            x.loopGuardConfig.sameActionLimit ≤
              sameActions x.loopGuardConfig (executions x { budget := b } ω n)) ∧
        ((runFor (pass x) ω { budget := b } (n + 1)).ended = some (.finished .rerankDeclining) ↔
          canProceed (runFor (pass x) ω { budget := b } n).budget (ω n).now = none ∧
            ¬ x.loopGuardConfig.sameActionLimit ≤
              sameActions x.loopGuardConfig (executions x { budget := b } ω n) ∧
            x.loopGuardConfig.rerankDropLimit ≤
              declines x.loopGuardConfig (executions x { budget := b } ω n))) := by
  have htracks := tracks_runFor x b ω n
  refine ⟨htracks.same, htracks.declines, fun hrunning => ⟨?_, ?_⟩⟩
  · rw [← htracks.same, ← stopped_sameActionLoop_iff]
    exact ended_iff_stopped hrunning (.inl rfl)
  · rw [← htracks.same, ← htracks.declines, ← stopped_rerankDeclining_iff]
    exact ended_iff_stopped hrunning (.inr rfl)

end Runs

section Literally

/-- Two drops in a row, and nothing new at all, or a low score. A retrieval without a
    score is none. -/
def dropsLiterally (cfg : LoopGuardConfig) (p : Execution × Execution × Execution) : Bool :=
  match p.1.score, p.2.1.score, p.2.2.score with
  | some a, some b, some c =>
      decide (c < b ∧ b < a ∧ cfg.minRerankDrop ≤ a - b ∧ cfg.minRerankDrop ≤ b - c ∧
        (p.2.2.gain = 0 ∨ c < cfg.absoluteQualityFloor))
  | _, _, _ => false

/-- The retrievals that drop, at the end, with all retrievals taken into account. -/
def declinesLiterally (cfg : LoopGuardConfig) (history : List Execution) : Nat :=
  trailing (dropsLiterally cfg)
    (triples (history.filter (fun e => e.actionType = "rag_search")))

/-- A retrieval with one id and a score. -/
def retrieval (id : String) (score : Option ℚ) : Turn where
  now := 0
  llm := .ok "\x7b\"type\":\"rag_search\",\"arguments\":\x7b\"query\":\"q\"\x7d\x7d"
  observed := .ok { success := true, rerankTopScore := score, evidences := [⟨id, 0⟩] }

/-- Each retrieval brings one new id, where two are asked for. -/
def falling : Nat → Turn
  | 0 => retrieval "e0" (some (9 / 10))
  | 1 => retrieval "e1" (some (7 / 10))
  | _ => retrieval "e2" (some (5 / 10))

/-- The same id all the time, the last time without a score. -/
def fallingSilent : Nat → Turn
  | 0 => retrieval "e" (some (9 / 10))
  | 1 => retrieval "e" (some (7 / 10))
  | 2 => retrieval "e" (some (5 / 10))
  | _ => retrieval "e" none

/-- Two new pieces are asked for. -/
def askingTwo : Setup :=
  { plainSetup with loopGuardConfig := { sameActionLimit := 9, minEvidenceGain := 2 } }

/-- Repetition is allowed. -/
def patient : Setup := { plainSetup with loopGuardConfig := { sameActionLimit := 9 } }

theorem declines_not_literal :
    (runFor (pass askingTwo) falling { budget := {} } 3).loopGuard.rerankDropCount = 1 ∧
      declinesLiterally askingTwo.loopGuardConfig
        (executions askingTwo { budget := {} } falling 3) = 0 ∧
      (runFor (pass patient) fallingSilent { budget := {} } 4).loopGuard.rerankDropCount = 1 ∧
      declinesLiterally patient.loopGuardConfig
        (executions patient { budget := {} } fallingSilent 4) = 0 := by
  decide +kernel

end Literally

end React

end AgenticRag
