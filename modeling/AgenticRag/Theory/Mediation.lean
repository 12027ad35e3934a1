import AgenticRag.Theory.LoopBudget

/-!
# What the Guard Lets Through

Two properties of the guard in front of the tools. The first is that no tool is
called without its leave. The loop refuses an action on two of the five
decisions and carries it out on the others, so one decision is missed: a
retrieval whose query is blank needs clarification, and is carried out all the
same (`unclear_action_executed`). That is the only way around the guard
(`mediated_iff`).

The second is that what the guard has checked is what the tool is called with.
The guard and the executor read the same arguments, but in another order and
with other defaults (`other_text_executed`). They agree exactly if the text is
given under one name only, or twice the same, and what the arguments leave to
the request is allowed (`checked_is_executed_iff`).

## Main definitions

* `Mediated`: Every action that is carried out was let through.
* `CheckedDb`, `CheckedRag`: What is called is what was checked.

## Theorems

* `needsClarification_iff`: When the guard asks for clarification.
* `mediated_iff`: When every action of a run was let through.
* `checked_is_executed_iff`: When what was checked is what is called.
-/

namespace AgenticRag

namespace React

open Py Skills Structured Driven

section Checks

variable {u : Unicode} {g : PolicyGuard} {args : Dict} {r : PolicyResult}

theorem not_refused_of_allow (h : r.decision = .allow) : ¬ Refused r := by
  rintro (hdeny | happroval)
  · rw [h] at hdeny
    cases hdeny
  · rw [h] at happroval
    cases happroval

theorem not_refused_of_needsClarification (h : r.decision = .needsClarification) :
    ¬ Refused r := by
  rintro (hdeny | happroval)
  · rw [h] at hdeny
    cases hdeny
  · rw [h] at happroval
    cases happroval

/-- What the check of a database query comes to: it refuses, or it lets the
    arguments through, and a database they name is on the list. -/
theorem evaluateDbQuery_cases (h : g.evaluateDbQuery u args = .ok r) :
    Refused r ∨ (r.decision = .allow ∧ r.sanitizedArguments = args ∧
      ∃ dbPolicy, g.toolPolicy "db_query" = .ok dbPolicy ∧
        ∀ allowed, enforcedIds (pyGet dbPolicy "allowed_db_ids" .none) = some allowed →
          (pyGet args "db_id" (.str "")).truthy = true →
          allowed.any (pyEq (pyGet args "db_id" (.str ""))) = true) := by
  rcases exists_of_bind_ok h with ⟨sql, -, h⟩
  simp only at h
  split at h
  · cases h
    exact .inl (.inl rfl)
  · rcases exists_of_bind_ok h with ⟨dbPolicy, hpolicy, h⟩
    split at h
    · cases h
      exact .inl (.inl rfl)
    · split_ifs at h
      · cases h
        exact .inl (.inr rfl)
      · split at h
        next allowed hids =>
          split_ifs at h with hmissing
          · cases h
            exact .inl (.inl rfl)
          · cases h
            refine .inr ⟨rfl, rfl, dbPolicy, hpolicy, ?_⟩
            intro allowed' hids' htruthy
            rw [hids, Option.some.injEq] at hids'
            subst hids'
            exact by_contra fun hno => hmissing ⟨htruthy, hno⟩
        next hids =>
          cases h
          refine .inr ⟨rfl, rfl, dbPolicy, hpolicy, ?_⟩
          intro allowed' hids'
          rw [hids] at hids'
          cases hids'

/-- The check of a web search refuses or lets the arguments through. -/
theorem evaluateWebSearch_cases (h : g.evaluateWebSearch u args = .ok r) :
    Refused r ∨ r.decision = .allow := by
  rcases exists_of_bind_ok h with ⟨query, -, h⟩
  split_ifs at h
  · cases h
    exact .inl (.inl rfl)
  · split at h
    · cases h
      exact .inl (.inl rfl)
    · rcases exists_of_bind_ok h with ⟨webPolicy, -, h⟩
      split at h
      · simp only at h
        split at h
        · cases h
          exact .inl (.inl rfl)
        · cases h
          exact .inr rfl
      · cases h
        exact .inr rfl

/-- What the check of a retrieval comes to: a blank query needs clarification,
    and else it refuses, or it lets the arguments through, and the knowledge
    bases they name are on the list. -/
theorem evaluateRagSearch_cases (h : g.evaluateRagSearch u args = .ok r) :
    (stripText (pyOr (pyGet args "query" .none) (.str "")) = .ok "" ∧
      r.decision = .needsClarification) ∨
    (∃ query, stripText (pyOr (pyGet args "query" .none) (.str "")) = .ok query ∧ query ≠ "" ∧
      (Refused r ∨ (r.decision = .allow ∧ r.sanitizedArguments = args ∧
        ∃ ragPolicy, g.toolPolicy "rag_search" = .ok ragPolicy ∧
          ∀ allowed, enforcedIds (pyGet ragPolicy "allowed_kb_ids" .none) = some allowed →
            (pyGet args "kb_ids" (.list [])).truthy = true →
            ∃ kbs, pyIter (pyGet args "kb_ids" (.list [])) = .ok kbs ∧
              ∀ kb ∈ kbs, allowed.any (pyEq kb) = true))) := by
  rcases exists_of_bind_ok h with ⟨query, hquery, h⟩
  split_ifs at h with hblank
  · cases h
    exact .inl ⟨hblank ▸ hquery, rfl⟩
  · refine .inr ⟨query, hquery, hblank, ?_⟩
    rcases exists_of_bind_ok h with ⟨ragPolicy, hpolicy, h⟩
    simp only at h
    split at h
    next allowed hids =>
      split_ifs at h with htruthy
      · rcases exists_of_bind_ok h with ⟨kbs, hkbs, h⟩
        split at h
        · cases h
          exact .inl (.inl rfl)
        next hfound =>
          cases h
          refine .inr ⟨rfl, rfl, ragPolicy, hpolicy, ?_⟩
          intro allowed' hids' _
          rw [hids, Option.some.injEq] at hids'
          subst hids'
          refine ⟨kbs, hkbs, fun kb hkb => ?_⟩
          -- Nothing was found off the list, so all are on it.
          have hno := List.find?_eq_none.mp hfound kb hkb
          simpa using hno
      · cases h
        refine .inr ⟨rfl, rfl, ragPolicy, hpolicy, ?_⟩
        intro allowed' _ htruthy'
        exact absurd htruthy' htruthy
    next hids =>
      cases h
      refine .inr ⟨rfl, rfl, ragPolicy, hpolicy, ?_⟩
      intro allowed' hids'
      rw [hids] at hids'
      cases hids'

/-- A blank query needs clarification, whatever else is configured. -/
theorem evaluateRagSearch_blank
    (h : stripText (pyOr (pyGet args "query" .none) (.str "")) = .ok "") :
    ∃ r, g.evaluateRagSearch u args = .ok r ∧ r.decision = .needsClarification := by
  rw [PolicyGuard.evaluateRagSearch, h]
  exact ⟨_, rfl, rfl⟩

end Checks

section Clarification

variable (x : Setup)

/-- A retrieval that the skills and the list of tools allow, but whose query is
    missing or blank. -/
structure Blank (action : ReactAction) : Prop where
  is_rag : action.type = "rag_search"
  skills : evaluateSkillPolicy x.unicode x.casefold x.modelValidate (policyContext x action)
    "rag_search" = .ok none
  listed : pyIn (.str "rag_search") x.guard.allowedTools = .ok true
  blank : stripText (pyOr (pyGet action.arguments "query" .none) (.str "")) = .ok ""

/-- The rules of the skills only ever deny. -/
theorem evaluateSkillPolicy_deny {u : Unicode} {casefold : String → String}
    {modelValidate : Val → Option ResolvedSkillSet} {ctx : PolicyContext} {actionType : String}
    {r : PolicyResult} (h : evaluateSkillPolicy u casefold modelValidate ctx actionType =
      .ok (some r)) : r.decision = .deny := by
  rw [evaluateSkillPolicy] at h
  split at h
  · cases h
  · rcases exists_of_bind_ok h with ⟨code, -, h⟩
    split at h
    · cases h
    · cases h
      rfl

/-- What the guard comes to, after the skills and the list of tools. -/
theorem judge_cases {action : ReactAction} {r : PolicyResult} (h : judge x action = .ok r) :
    Refused r ∨ (evaluateSkillPolicy x.unicode x.casefold x.modelValidate (policyContext x action)
        action.type = .ok none ∧
      (((action.type = "finish" ∨ action.type = "ask_clarification") ∧ r.decision = .allow) ∨
        (pyIn (.str action.type) x.guard.allowedTools = .ok true ∧
          ((action.type = "db_query" ∧ x.guard.evaluateDbQuery x.unicode action.arguments = .ok r) ∨
            (action.type = "web_search" ∧
              x.guard.evaluateWebSearch x.unicode action.arguments = .ok r) ∨
            (action.type = "rag_search" ∧
              x.guard.evaluateRagSearch x.unicode action.arguments = .ok r) ∨
            (action.type ≠ "db_query" ∧ action.type ≠ "rag_search" ∧ r.decision = .allow))))) := by
  rw [judge, PolicyGuard.evaluate] at h
  -- Both names in the context are the type of the action.
  have htype : (if (policyContext x action).actionType = "" then (policyContext x action).toolName
      else (policyContext x action).actionType) = action.type := ite_self _
  simp only [htype] at h
  rcases exists_of_bind_ok h with ⟨denial, hskills, h⟩
  split at h
  next result =>
    cases h
    exact .inl (.inl (evaluateSkillPolicy_deny hskills))
  · by_cases hends : action.type = "finish" ∨ action.type = "ask_clarification"
    · rw [if_pos hends] at h
      cases h
      exact .inr ⟨hskills, .inl ⟨hends, rfl⟩⟩
    · rw [if_neg hends] at h
      rcases exists_of_bind_ok h with ⟨listed, hlisted, h⟩
      split_ifs at h with hyes hdb hweb hrag
      · exact .inr ⟨hskills, .inr ⟨hyes ▸ hlisted, .inl ⟨hdb, h⟩⟩⟩
      · exact .inr ⟨hskills, .inr ⟨hyes ▸ hlisted, .inr (.inl ⟨hweb, h⟩)⟩⟩
      · exact .inr ⟨hskills, .inr ⟨hyes ▸ hlisted, .inr (.inr (.inl ⟨hrag, h⟩))⟩⟩
      · cases h
        exact .inr ⟨hskills, .inr ⟨hyes ▸ hlisted, .inr (.inr (.inr ⟨hdb, hrag, rfl⟩))⟩⟩
      · cases h
        exact .inl (.inl rfl)

/-- When the guard asks for clarification: for a blank retrieval, and never
    else. -/
theorem needsClarification_iff (action : ReactAction) :
    (∃ r, judge x action = .ok r ∧ r.decision = .needsClarification) ↔ Blank x action := by
  constructor
  · rintro ⟨r, hjudge, hdec⟩
    have hnot : ¬ Refused r := not_refused_of_needsClarification hdec
    rcases (judge_cases x hjudge).resolve_left hnot with ⟨hskills, ⟨-, hallow⟩ | ⟨hlisted, hchecks⟩⟩
    · rw [hdec] at hallow
      cases hallow
    · rcases hchecks with ⟨-, hdb⟩ | ⟨-, hweb⟩ | ⟨hrag, h⟩ | ⟨-, -, hallow⟩
      · rcases evaluateDbQuery_cases hdb with href | ⟨hallow, -⟩
        · exact absurd href hnot
        · rw [hdec] at hallow
          cases hallow
      · rcases evaluateWebSearch_cases hweb with href | hallow
        · exact absurd href hnot
        · rw [hdec] at hallow
          cases hallow
      · rcases evaluateRagSearch_cases h with ⟨hblank, -⟩ | ⟨query, -, -, href | ⟨hallow, -⟩⟩
        · rw [hrag] at hskills hlisted
          exact ⟨hrag, hskills, hlisted, hblank⟩
        · exact absurd href hnot
        · rw [hdec] at hallow
          cases hallow
      · rw [hdec] at hallow
        cases hallow
  · rintro ⟨hrag, hskills, hlisted, hblank⟩
    rcases evaluateRagSearch_blank (u := x.unicode) (g := x.guard) hblank with ⟨r, hr, hdec⟩
    refine ⟨r, ?_, hdec⟩
    have htype : (if (policyContext x action).actionType = "" then
        (policyContext x action).toolName else (policyContext x action).actionType) =
          "rag_search" := (ite_self _).trans hrag
    have hno : ¬ ("rag_search" = "finish" ∨ "rag_search" = "ask_clarification") := by decide
    rw [judge, PolicyGuard.evaluate]
    simp only [htype, hskills, bind, Except.bind]
    rw [if_neg hno, hlisted]
    exact hr

end Clarification

section Runs

variable (x : Setup)

/-- Every action that is carried out was judged right before, and let
    through. -/
def Mediated (events : List Event) : Prop :=
  ∀ before action after, events = before ++ .executed action :: after →
    ∃ before' judged r, before = before' ++ [.judged judged r] ∧
      action = { judged with arguments := executedArguments r judged } ∧
      (r.decision = .allow ∨ r.decision = .rewriteArguments)

theorem mediated_append {events more : List Event} (h : Mediated events)
    (hmore : ∀ before action after, more = before ++ .executed action :: after →
      ∃ before' judged r, before = before' ++ [.judged judged r] ∧
        action = { judged with arguments := executedArguments r judged } ∧
        (r.decision = .allow ∨ r.decision = .rewriteArguments)) : Mediated (events ++ more) := by
  intro before action after hsplit
  rcases List.append_eq_append_iff.mp hsplit with ⟨inner, rfl, hinner⟩ | ⟨inner, rfl, hinner⟩
  · rcases hmore inner action after hinner with ⟨before', judged, r, rfl, hrest⟩
    exact ⟨events ++ before', judged, r, (List.append_assoc _ _ _).symm, hrest⟩
  · cases inner with
    | nil =>
        rcases hmore [] action after hinner.symm with ⟨before', judged, r, hnil, -⟩
        exact absurd hnil.symm (List.append_ne_nil_of_right_ne_nil _ (List.cons_ne_nil _ _))
    | cons e inner =>
        rw [List.cons_append, List.cons.injEq] at hinner
        rcases hinner with ⟨rfl, -⟩
        exact h before action inner rfl

/-- What a pass adds lets nothing through that the guard did not, unless a blank
    retrieval comes before it. -/
theorem mediated_pass {t : Turn} {l : Loop} (h : Mediated l.events)
    (hclear : ∀ action, Reaches x t l action → ¬ Blank x action) :
    Mediated (pass x t l).events := by
  rcases pass_cases x t l with ⟨-, heq⟩ | ⟨-, -, -, he⟩ | ⟨-, -, -, -, he⟩ |
    ⟨action, r, -, -, -, -, he⟩ | ⟨action, r, hreach, hjudge, href, -, he⟩
  · rw [heq]
    exact h
  · rw [he]
    exact h
  · rw [he]
    refine mediated_append h fun before action after hsplit => ?_
    have hmem : Event.executed action ∈ [Event.reasoned] := by rw [hsplit]; simp
    simp at hmem
  · rw [he]
    refine mediated_append h fun before action' after hsplit => ?_
    have hmem : Event.executed action' ∈ [Event.reasoned, Event.judged action r] := by
      rw [hsplit]
      simp
    simp at hmem
  · rw [he]
    refine mediated_append h fun before action' after hsplit => ?_
    -- The action is the last of the three events, behind its judgement.
    rcases before with _ | ⟨e, _ | ⟨e', _ | ⟨e'', rest⟩⟩⟩ <;> simp at hsplit
    rcases hsplit with ⟨rfl, rfl, rfl, -⟩
    refine ⟨[.reasoned], action, r, rfl, rfl, ?_⟩
    have hnot := hclear action hreach
    rw [← needsClarification_iff] at hnot
    simp only [Refused, not_or] at href
    cases hdec : r.decision with
    | allow => exact .inl rfl
    | rewriteArguments => exact .inr rfl
    | deny => exact absurd hdec href.1
    | needsApproval => exact absurd hdec href.2
    -- The one decision that is carried out without having been let through.
    | needsClarification => exact absurd ⟨r, hjudge, hdec⟩ hnot

/-- A blank retrieval that comes before the guard is carried out, right behind
    the judgement that asks for clarification. -/
theorem not_mediated_of_blank {t : Turn} {l : Loop} {action : ReactAction}
    (hreach : Reaches x t l action) (hblank : Blank x action) :
    ¬ Mediated (pass x t l).events := by
  intro hlet
  rcases (needsClarification_iff x action).mpr hblank with ⟨r, hjudge, hdec⟩
  have hnot : ¬ Refused r := not_refused_of_needsClarification hdec
  rw [pass_of_reaches x _ _ hreach] at hlet
  rcases policyStep_cases x t (asked l) hjudge with ⟨href, -⟩ | ⟨-, heq⟩
  · exact hnot href
  · rw [heq, (execute_spec x _ _ _).1] at hlet
    rcases hlet _ _ [] rfl with ⟨before', judged, r', hbefore, -, hdec'⟩
    have hlast := List.append_inj_right' hbefore rfl
    simp only [List.cons.injEq, Event.judged.injEq, and_true] at hlast
    rw [← hlast.2, hdec] at hdec'
    rcases hdec' with h | h <;> cases h

/-- Every action of a run was let through exactly if the run has no blank
    retrieval come before the guard. -/
theorem mediated_iff (b : ReactBudget) (ω : Nat → Turn) :
    (∀ n, Mediated (runFor (pass x) ω { budget := b } n).events) ↔
      ∀ n action, Reaches x (ω n) (runFor (pass x) ω { budget := b } n) action →
        ¬ Blank x action := by
  constructor
  · intro hall n action hreach hblank
    exact not_mediated_of_blank x hreach hblank (hall (n + 1))
  · intro hclear n
    induction n with
    | zero =>
        intro before action after hsplit
        exact absurd hsplit.symm (List.append_ne_nil_of_right_ne_nil _ (List.cons_ne_nil _ _))
    | succ n ih => exact mediated_pass x ih (hclear n)

/-- A retrieval without a query. -/
def blankTurn : Turn where
  now := 0
  llm := .ok "\x7b\"type\":\"rag_search\"\x7d"
  observed := .ok { success := true }

/-- It is carried out in the first pass. -/
theorem unclear_action_executed :
    ¬ ∀ n, Mediated (runFor (pass plainSetup) (fun _ => blankTurn) { budget := {} } n).events := by
  intro h
  -- One pass is enough.
  have hfirst := h 1
  rw [runFor, runFor] at hfirst
  have hparsed : (reasonStep plainSetup blankTurn).toOption.any
      (fun a => a.type == "rag_search" && a.arguments.isEmpty) = true := by decide +kernel
  rcases exists_of_any hparsed with ⟨action, haction, hread⟩
  simp only [Bool.and_eq_true, beq_iff_eq, List.isEmpty_iff] at hread
  rcases hread with ⟨htype, hargs⟩
  have hreach : Reaches plainSetup blankTurn { budget := {} } action := by
    refine ⟨rfl, rfl, haction, ?_, ?_⟩
    · rw [htype]
      decide
    · rw [htype]
      decide
  have hblank : Blank plainSetup action := by
    refine ⟨htype, rfl, by decide +kernel, ?_⟩
    rw [hargs]
    decide +kernel
  exact not_mediated_of_blank plainSetup hreach hblank hfirst

end Runs

section Agreement

variable (x : Setup) (args : Dict)

/-- The ids a list of the configuration allows, where it is enforced. -/
def allowedIds (tool key : String) : Option (List Val) :=
  match x.guard.toolPolicy tool with
  | .ok policy => enforcedIds (pyGet policy key .none)
  | .error _ => none

/-- What a database query is run with is what was checked: its text, and a
    database that is on the list if there is one. -/
structure CheckedDb : Prop where
  text : usedSql args = checkedSql args
  db : ∀ allowed, allowedIds x "db_query" "allowed_db_ids" = some allowed →
    allowed.any (pyEq (usedDbId x.request args)) = true

/-- What a retrieval is run with is what was checked: its query, and knowledge
    bases that are on the list if there is one. -/
structure CheckedRag : Prop where
  query : usedRagQuery args = pyOr (pyGet args "query" .none) (.str "")
  kbs : ∀ allowed, allowedIds x "rag_search" "allowed_kb_ids" = some allowed →
    ∃ kbs, pyIter (usedKbIds x.request args) = .ok kbs ∧
      ∀ kb ∈ kbs, allowed.any (pyEq kb) = true

/-- The text of a query is given once, or twice the same, and a database that is
    left to the request is on the list. -/
def DbAgrees : Prop :=
  ((pyGet args "sql" .none).truthy = false ∨ (pyGet args "query" .none).truthy = false ∨
      pyGet args "sql" .none = pyGet args "query" .none) ∧
    ((pyGet args "db_id" .none).truthy = true ∨
      ∀ allowed, allowedIds x "db_query" "allowed_db_ids" = some allowed →
        allowed.any (pyEq (.str x.request.dbId)) = true)

/-- Knowledge bases that are left to the request are on the list. -/
def RagAgrees : Prop :=
  (pyGet args "kb_ids" .none).truthy = true ∨
    ∀ allowed, allowedIds x "rag_search" "allowed_kb_ids" = some allowed →
      ∀ kb ∈ x.request.kbIds, allowed.any (pyEq (.str kb)) = true

variable {args}

/-- The two orders pick the same text exactly if it does not matter which. -/
theorem usedSql_eq_checkedSql :
    usedSql args = checkedSql args ↔
      (pyGet args "sql" .none).truthy = false ∨ (pyGet args "query" .none).truthy = false ∨
        pyGet args "sql" .none = pyGet args "query" .none := by
  rw [usedSql, checkedSql]
  cases hsql : (pyGet args "sql" .none).truthy with
  | false => cases hquery : (pyGet args "query" .none).truthy <;> simp [pyOr, hsql, hquery]
  | true =>
      cases hquery : (pyGet args "query" .none).truthy with
      | false => simp [pyOr, hsql, hquery]
      | true => simp [pyOr, hsql, hquery, eq_comm]

/-- A default that is empty does not matter for what is given. -/
theorem pyGet_of_truthy {key : String} (default : Val)
    (h : (pyGet args key .none).truthy = true) : pyGet args key default = pyGet args key .none := by
  cases hl : args.lookup key with
  | none =>
      rw [pyGet, hl] at h
      cases h
  | some v => simp [pyGet, hl]

/-- An action that is let through is carried out with the arguments it was
    checked with. -/
theorem executedArguments_of_sanitized {r : PolicyResult} {action : ReactAction}
    (h : r.sanitizedArguments = action.arguments) :
    executedArguments r action = action.arguments := by
  rw [executedArguments, h]
  exact ite_self _

theorem toolPolicy_of_allowedIds {tool key : String} {policy : Dict}
    (h : x.guard.toolPolicy tool = .ok policy) :
    allowedIds x tool key = enforcedIds (pyGet policy key .none) := by
  rw [allowedIds, h]

/-- A database query that is let through is run with what was checked exactly
    if the arguments and the request agree. -/
theorem checkedDb_iff {r : PolicyResult} {action : ReactAction} (hallow : r.decision = .allow)
    (h : x.guard.evaluateDbQuery x.unicode action.arguments = .ok r) :
    CheckedDb x (executedArguments r action) ↔ DbAgrees x action.arguments := by
  have hnot : ¬ Refused r := not_refused_of_allow hallow
  rcases (evaluateDbQuery_cases h).resolve_left hnot with ⟨-, hargs, policy, hpolicy, hlisted⟩
  rw [executedArguments_of_sanitized hargs]
  -- A database the arguments name was found on the list.
  have hnamed : (pyGet action.arguments "db_id" .none).truthy = true →
      ∀ allowed, allowedIds x "db_query" "allowed_db_ids" = some allowed →
        allowed.any (pyEq (pyGet action.arguments "db_id" .none)) = true := by
    intro htruthy allowed hids
    rw [toolPolicy_of_allowedIds x hpolicy] at hids
    have hdefault := pyGet_of_truthy (.str "") htruthy
    have hon := hlisted allowed hids (by rw [hdefault]; exact htruthy)
    rwa [hdefault] at hon
  constructor
  · rintro ⟨htext, hdb⟩
    refine ⟨usedSql_eq_checkedSql.mp htext, ?_⟩
    by_cases htruthy : (pyGet action.arguments "db_id" .none).truthy = true
    · exact .inl htruthy
    · refine .inr fun allowed hids => ?_
      have hon := hdb allowed hids
      rwa [usedDbId, pyOr, if_neg htruthy] at hon
  · rintro ⟨htext, hdb⟩
    refine ⟨usedSql_eq_checkedSql.mpr htext, fun allowed hids => ?_⟩
    -- The arguments go before the request.
    rw [usedDbId, pyOr]
    split
    next htruthy => exact hnamed htruthy allowed hids
    next htruthy => exact hdb.resolve_left htruthy allowed hids

/-- A retrieval that is let through is run with what was checked exactly if what
    it leaves to the request is allowed. -/
theorem checkedRag_iff {r : PolicyResult} {action : ReactAction} (hallow : r.decision = .allow)
    (h : x.guard.evaluateRagSearch x.unicode action.arguments = .ok r) :
    CheckedRag x (executedArguments r action) ↔ RagAgrees x action.arguments := by
  have hnot : ¬ Refused r := not_refused_of_allow hallow
  rcases evaluateRagSearch_cases h with ⟨-, hdec⟩ | ⟨query, hquery, hne, href | hpass⟩
  · rw [hallow] at hdec
    cases hdec
  · exact absurd href hnot
  rcases hpass with ⟨-, hargs, policy, hpolicy, hlisted⟩
  rw [executedArguments_of_sanitized hargs]
  -- The query is not blank, so it is the one that is used.
  have hused : usedRagQuery action.arguments =
      pyOr (pyGet action.arguments "query" .none) (.str "") := by
    have htruthy : (pyGet action.arguments "query" .none).truthy = true := by
      by_contra hfalse
      rw [pyOr, if_neg hfalse] at hquery
      exact hne (Except.ok.inj hquery).symm
    simp [usedRagQuery, pyOr, htruthy]
  have hnamed : (pyGet action.arguments "kb_ids" .none).truthy = true →
      ∀ allowed, allowedIds x "rag_search" "allowed_kb_ids" = some allowed →
        ∃ kbs, pyIter (pyGet action.arguments "kb_ids" .none) = .ok kbs ∧
          ∀ kb ∈ kbs, allowed.any (pyEq kb) = true := by
    intro htruthy allowed hids
    rw [toolPolicy_of_allowedIds x hpolicy] at hids
    have hdefault := pyGet_of_truthy (.list []) htruthy
    have hon := hlisted allowed hids (by rw [hdefault]; exact htruthy)
    rwa [hdefault] at hon
  have hrequest : pyIter (pyStrs x.request.kbIds) = .ok (x.request.kbIds.map .str) := rfl
  constructor
  · rintro ⟨-, hkbs⟩
    by_cases htruthy : (pyGet action.arguments "kb_ids" .none).truthy = true
    · exact .inl htruthy
    · refine .inr fun allowed hids kb hkb => ?_
      rcases hkbs allowed hids with ⟨kbs, hiter, hall⟩
      rw [usedKbIds, pyOr, if_neg htruthy, hrequest] at hiter
      cases hiter
      exact hall (.str kb) (List.mem_map_of_mem hkb)
  · intro hagree
    refine ⟨hused, fun allowed hids => ?_⟩
    rw [usedKbIds, pyOr]
    split
    next htruthy => exact hnamed htruthy allowed hids
    next htruthy =>
      refine ⟨_, hrequest, fun kb hkb => ?_⟩
      rcases List.mem_map.mp hkb with ⟨kbId, hmem, rfl⟩
      exact hagree.resolve_left htruthy allowed hids kbId hmem

/-- An action the guard allows is carried out with what the guard has checked
    exactly if its arguments and the request agree. -/
theorem checked_is_executed_iff (action : ReactAction) (r : PolicyResult)
    (hjudge : judge x action = .ok r) (hallow : r.decision = .allow) :
    (action.type = "db_query" →
      (CheckedDb x (executedArguments r action) ↔ DbAgrees x action.arguments)) ∧
    (action.type = "rag_search" →
      (CheckedRag x (executedArguments r action) ↔ RagAgrees x action.arguments)) := by
  have hnot : ¬ Refused r := not_refused_of_allow hallow
  rcases (judge_cases x hjudge).resolve_left hnot with ⟨-, hchecks⟩
  constructor
  · intro htype
    rcases hchecks with ⟨hends | hends, -⟩ | ⟨-, ⟨-, h⟩ | ⟨hweb, -⟩ | ⟨hrag, -⟩ | ⟨hother, -⟩⟩
    · rw [htype] at hends
      exact absurd hends (by decide)
    · rw [htype] at hends
      exact absurd hends (by decide)
    · exact checkedDb_iff x hallow h
    · rw [htype] at hweb
      exact absurd hweb (by decide)
    · rw [htype] at hrag
      exact absurd hrag (by decide)
    · exact absurd htype hother
  · intro htype
    rcases hchecks with ⟨hends | hends, -⟩ | ⟨-, ⟨hdb, -⟩ | ⟨hweb, -⟩ | ⟨-, h⟩ | ⟨-, hother, -⟩⟩
    · rw [htype] at hends
      exact absurd hends (by decide)
    · rw [htype] at hends
      exact absurd hends (by decide)
    · rw [htype] at hdb
      exact absurd hdb (by decide)
    · rw [htype] at hweb
      exact absurd hweb (by decide)
    · exact checkedRag_iff x hallow h
    · exact absurd htype hother

/-- A query of one text. -/
def oneText : ReactAction where
  type := "db_query"
  toolName := .str "db_query"
  arguments := [("sql", .str "show tables")]

/-- A query of two. -/
def twoTexts : ReactAction where
  type := "db_query"
  toolName := .str "db_query"
  arguments := [("sql", .str "show tables"), ("query", .str "drop table t")]

/-- The query of one text is allowed, and is run with what was checked. -/
theorem checked_is_executed_iff_oneText :
    ∃ r, judge plainSetup oneText = .ok r ∧ r.decision = .allow ∧
      (oneText.type = "db_query" →
        (CheckedDb plainSetup (executedArguments r oneText) ↔
          DbAgrees plainSetup oneText.arguments)) ∧
      (oneText.type = "rag_search" →
        (CheckedRag plainSetup (executedArguments r oneText) ↔
          RagAgrees plainSetup oneText.arguments)) := by
  have hallowed : (judge plainSetup oneText).toOption.any
      (fun r => r.decision == .allow) = true := by decide +kernel
  rcases exists_of_any hallowed with ⟨r, hjudge, hdecision⟩
  have hallow := beq_iff_eq.mp hdecision
  exact ⟨r, hjudge, hallow, checked_is_executed_iff plainSetup oneText r hjudge hallow⟩

/-- Of the query of two texts the guard looks at the first, and the tool is
    called with the second. -/
theorem other_text_executed :
    ∃ r, judge plainSetup twoTexts = .ok r ∧ r.decision = .allow ∧
      ¬ CheckedDb plainSetup (executedArguments r twoTexts) := by
  have hallowed : (judge plainSetup twoTexts).toOption.any (fun r => r.decision == .allow &&
      (usedSql (executedArguments r twoTexts)).toStr default == "drop table t" &&
      (checkedSql (executedArguments r twoTexts)).toStr default == "show tables") = true := by
    decide +kernel
  rcases exists_of_any hallowed with ⟨r, hjudge, htexts⟩
  simp only [Bool.and_eq_true, beq_iff_eq] at htexts
  rcases htexts with ⟨⟨hallow, hused⟩, hchecked⟩
  refine ⟨r, hjudge, hallow, fun h => ?_⟩
  rw [h.text, hchecked] at hused
  exact absurd hused (by decide)

end Agreement

end React

end AgenticRag
