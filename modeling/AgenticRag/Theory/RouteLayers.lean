import AgenticRag.Core.RouterNode

/-!
# Which Layer Decides

The layers in front of the model, by what they do with a question. The gate asks
the matcher of regular expressions, and what comes out is counting: long
stretches, separators and question marks, and words that are there or not
(`check_isComplex_iff`). The rules are sure of a question for a word about the
world outside, for one about what is new, and for a strong form. The number of
the other words makes no difference (`route_confident_iff`).

Together they say which questions a model sees (`model_asked_iff`). The breaker
may still keep one from it.

## Main definitions

* `FormComplex`: What makes a question complex, read off its text.
* `Conclusive`: What makes the rules sure.

## Theorems

* `weakDecision_confidence_le`: Words alone never make the rules sure.
* `route_confident_iff`: When the rules are sure.
* `model_asked_iff`: When the model is asked.
-/

namespace AgenticRag

namespace RouterNode

open Py Ordered Plan LlmRouting ComplexityGate

section Gate

variable (config : GateConfig) (keywords : RuleKeywords) (query : String)

/-- What makes a question complex, read off its text. -/
inductive FormComplex : Prop where
  | long (hon : config.longQuery.enabled = true) (w : List Char) (hw : w <:+: query.toList)
      (hlength : config.longQuery.least ≤ w.length) (hline : '\n' ∉ w)
  | clauses (hon : config.multiClause.enabled = true)
      (hcount : config.multiClause.least ≤ query.toList.countP isClauseEnd)
  | questions (hon : config.multiQuestion.enabled = true)
      (hcount : config.multiQuestion.least ≤ query.toList.countP isQuestionMark)
  | reasons (hon : config.reasoningEnabled = true) (marker : String)
      (hmarker : marker ∈ config.reasoningMarkers) (hcontains : contains query marker = true)
  | tools (hon : config.multiToolEnabled = true) (db rag : String)
      (hdb : db ∈ keywords.dbBias.take 15) (hrag : rag ∈ keywords.ragBias.take 15)
      (hcontainsDb : contains query db = true) (hcontainsRag : contains query rag = true)
  | steps (hon : config.progressiveEnabled = true) (r : Regex)
      (hr : r ∈ config.progressivePatterns) (hfound : found r query = true)

variable {config keywords query}

theorem any_signal (name : String) (enabled : Bool) (r : Regex) :
    (signal name enabled r).any (fun entry => entry.2 query) = (enabled && found r query) := by
  cases enabled with
  | false => rfl
  | true =>
      rw [signal, if_pos rfl, List.any_cons, List.any_nil, Bool.or_false]
      rfl

theorem any_signalOf (name : String) (enabled : Bool) (rs : List Regex) :
    (signalOf name enabled rs).any (fun entry => entry.2 query) =
      (enabled && rs.any (fun r => found r query)) := by
  cases rs with
  | nil => rw [signalOf, List.any_nil, List.any_nil, Bool.and_false]
  | cons r rs => rw [signalOf, any_signal, found_alts]

theorem multiTool_eq (dbWords ragWords : List String) : multiTool dbWords ragWords query =
    ((dbWords.take 15).any (contains query) && (ragWords.take 15).any (contains query)) := by
  unfold multiTool
  cases dbWords.take 15 with
  | nil => rw [List.any_nil, Bool.false_and]
  | cons db dbs =>
      cases ragWords.take 15 with
      | nil => rw [List.any_nil, Bool.and_false]
      | cons rag rags => rw [← found_words, ← found_words]

/-- The signal for two tools is left out only where it would not be given. -/
theorem any_multiTool : (if config.multiToolEnabled = true ∧ keywords.dbBias ≠ [] ∧
      keywords.ragBias ≠ [] then
        [("multi_tool", multiTool keywords.dbBias keywords.ragBias)] else []).any
      (fun entry => entry.2 query) =
    (config.multiToolEnabled && ((keywords.dbBias.take 15).any (contains query) &&
      (keywords.ragBias.take 15).any (contains query))) := by
  split_ifs with h
  · rw [List.any_cons, List.any_nil, Bool.or_false, h.1, Bool.true_and]
    exact multiTool_eq _ _
  · rw [List.any_nil]
    cases hon : config.multiToolEnabled with
    | false => rfl
    | true =>
        by_cases hdb : keywords.dbBias = []
        · rw [hdb]
          rfl
        · have hrag : keywords.ragBias = [] := by
            by_contra hrag
            exact h ⟨hon, hdb, hrag⟩
          rw [hrag, List.take_nil, List.any_nil, Bool.and_false, Bool.and_false]

theorem found_long_iff (n : Nat) : found (.rep dot n none) query = true ↔
    ∃ w, w <:+: query.toList ∧ n ≤ w.length ∧ '\n' ∉ w := by
  rw [dot, found_rep_sat]
  refine exists_congr (fun w => and_congr_right (fun _ => and_congr_right (fun _ => ?_)))
  constructor
  · intro hall hmem
    exact absurd (hall '\n' hmem) (by decide)
  · intro hnot c hc
    rw [bne_iff_ne]
    rintro rfl
    exact hnot hc

/-- The gate counts. -/
theorem check_isComplex_iff : (check config keywords query).isComplex = true ↔
    strip query ≠ "" ∧ config.enabled = true ∧ FormComplex config keywords query := by
  by_cases hblank : strip query = ""
  · rw [check, if_pos hblank]
    exact ⟨fun h => absurd h Bool.false_ne_true, fun h => absurd hblank h.1⟩
  have hany : (check config keywords query).isComplex =
      (signals config keywords).any (fun entry => entry.2 query) := by
    rw [check, if_neg hblank]
    dsimp only
    rw [List.isEmpty_map, Bool.eq_iff_iff, Bool.not_eq_true', List.isEmpty_eq_false_iff,
      List.any_eq_true, ne_eq, List.filter_eq_nil_iff]
    push Not
    exact Iff.rfl
  rw [hany, signals]
  cases hon : config.enabled with
  | false =>
      rw [if_pos (by decide), List.any_nil]
      exact ⟨fun h => absurd h Bool.false_ne_true, fun h => absurd h.2.1 Bool.false_ne_true⟩
  | true =>
      rw [if_neg (by decide)]
      simp only [List.any_append, any_signal, any_signalOf, any_multiTool, found_counted,
        List.any_map, Bool.or_eq_true, Bool.and_eq_true, found_long_iff, List.any_eq_true,
        decide_eq_true_eq, Function.comp_apply, found_lit]
      refine Iff.trans ?_ (and_iff_right hblank).symm
      refine Iff.trans ?_ (and_iff_right trivial).symm
      constructor
      · rintro (⟨hon, w, hw, hlength, hline⟩ | ⟨hon, hcount⟩ | ⟨hon, hcount⟩ |
          ⟨hon, marker, hmarker, hcontains⟩ | ⟨hon, ⟨db, hdb, hcdb⟩, rag, hrag, hcrag⟩ |
          ⟨hon, r, hr, hfound⟩)
        · exact .long hon w hw hlength hline
        · exact .clauses hon hcount
        · exact .questions hon hcount
        · exact .reasons hon marker hmarker hcontains
        · exact .tools hon db rag hdb hrag hcdb hcrag
        · exact .steps hon r hr hfound
      · intro h
        cases h with
        | long hon w hw hlength hline => exact .inl ⟨hon, w, hw, hlength, hline⟩
        | clauses hon hcount => exact .inr (.inl ⟨hon, hcount⟩)
        | questions hon hcount => exact .inr (.inr (.inl ⟨hon, hcount⟩))
        | reasons hon marker hmarker hcontains =>
            exact .inr (.inr (.inr (.inl ⟨hon, marker, hmarker, hcontains⟩)))
        | tools hon db rag hdb hrag hcdb hcrag =>
            exact .inr (.inr (.inr (.inr (.inl ⟨hon, ⟨db, hdb, hcdb⟩, rag, hrag, hcrag⟩))))
        | steps hon r hr hfound =>
            exact .inr (.inr (.inr (.inr (.inr ⟨hon, r, hr, hfound⟩))))

end Gate

section Rules

variable {u : Unicode} {keywords : RuleKeywords} {query : String}

/-- What makes the rules sure of a question. -/
def Conclusive (u : Unicode) (keywords : RuleKeywords) (query : String) : Prop :=
  RuleRouter.externalScope keywords (u.lower query) = true ∨
    RuleRouter.detectFreshness keywords (u.lower query) = true ∨
    (RuleRouter.matchStrongPattern query).isSome = true

/-- Words alone never make the rules sure, however many there are. -/
theorem weakDecision_confidence_le (queryLower : String) :
    (RuleRouter.weakDecision keywords queryLower).confidence ≤ 11 / 20 := by
  unfold RuleRouter.weakDecision
  dsimp only
  split_ifs
  · exact min_le_right _ _
  · exact min_le_right _ _
  · exact min_le_right _ _
  · exact min_le_right _ _
  · exact min_le_right _ _
  · show (1 / 2 : ℚ) ≤ 11 / 20
    norm_num

/-- The rules are sure of a question or they are not, and nothing is in
    between. -/
theorem route_confidence (u : Unicode) (keywords : RuleKeywords) (hblank : strip query ≠ "") :
    (Conclusive u keywords query ∧ 3 / 4 ≤ (RuleRouter.route u keywords query).confidence) ∨
      (¬ Conclusive u keywords query ∧
        (RuleRouter.route u keywords query).confidence ≤ 11 / 20) := by
  rw [RuleRouter.route, if_neg hblank]
  dsimp only
  split_ifs with hboth hexternal hfresh
  · refine .inl ⟨.inl hboth.1, ?_⟩
    show (3 / 4 : ℚ) ≤ 17 / 20
    norm_num
  · refine .inl ⟨.inl hexternal, ?_⟩
    show (3 / 4 : ℚ) ≤ 4 / 5
    norm_num
  · exact .inl ⟨.inr (.inl hfresh), le_refl (3 / 4 : ℚ)⟩
  · cases hstrong : RuleRouter.matchStrongPattern query with
    | some entry =>
        refine .inl ⟨.inr (.inr (by rw [hstrong]; rfl)), ?_⟩
        show (3 / 4 : ℚ) ≤ 4 / 5
        norm_num
    | none =>
        refine .inr ⟨?_, weakDecision_confidence_le _⟩
        rintro (h | h | h)
        · exact hexternal h
        · exact hfresh h
        · rw [hstrong] at h
          cases h

/-- For a threshold between the two, the rules decide what they are sure of. -/
theorem route_confident_iff {threshold : ℚ} (hlow : 11 / 20 < threshold)
    (hhigh : threshold ≤ 3 / 4) :
    threshold ≤ (RuleRouter.route u keywords query).confidence ↔
      strip query ≠ "" ∧ Conclusive u keywords query := by
  by_cases hblank : strip query = ""
  · have hdefault : (RuleRouter.route u keywords query).confidence = 1 / 2 := by
      rw [RuleRouter.route, if_pos hblank]
      rfl
    rw [hdefault]
    refine ⟨fun h => absurd (lt_of_lt_of_le hlow h) (by norm_num), fun h => absurd hblank h.1⟩
  · rcases route_confidence u keywords hblank with ⟨hsure, hconfidence⟩ | ⟨hunsure, hconfidence⟩
    · exact ⟨fun _ => ⟨hblank, hsure⟩, fun _ => hhigh.trans hconfidence⟩
    · refine ⟨fun h => absurd (h.trans hconfidence) (not_le.mpr hlow), fun h => absurd h.2 hunsure⟩

end Rules

section Asked

variable {env : RouterEnv} {request : RouterRequest}

/-- The last layer asks for nothing but skills. -/
theorem finalizeRoute_calls (x : Skills.Retrievers) (request : RouterRequest)
    (d : Plan.RouteDecision) :
    (finalizeRoute env x request d).2 =
      if d.target = .chitchat ∨ flag d "directive" = true then [] else [.resolver] := by
  unfold finalizeRoute
  split_ifs
  · rfl
  · dsimp only
    cases hit (resolveSkill env x request d) with
    | none => rfl
    | some set =>
        dsimp only
        split <;> rfl

theorem not_mem_finalizeRoute (x : Skills.Retrievers) (request : RouterRequest)
    (d : Plan.RouteDecision) {call : RouterCall} (hcall : call ≠ .resolver) :
    call ∉ (finalizeRoute env x request d).2 := by
  rw [finalizeRoute_calls]
  split_ifs
  · exact List.not_mem_nil
  · rwa [List.mem_singleton]

/-- What the layers behind the model come to. -/
inductive AfterModel (env : RouterEnv) (x : RouterWorld) (request : RouterRequest)
    (d : Plan.RouteDecision) : Except Exc RouteUpdate × List RouterCall → Prop where
  | unclear (hclear : flag d "needs_clarification" = true) :
      AfterModel env x request d (.ok (RouteUpdate.base d), [])
  | simple (hclear : flag d "needs_clarification" = false) (hsimple : d.complexity ≠ .complex) :
      AfterModel env x request d (.ok (finalizeRoute env x.secondRetrievers request d).1,
        (finalizeRoute env x.secondRetrievers request d).2)
  | skill (hclear : flag d "needs_clarification" = false) (hcomplex : d.complexity = .complex)
      (set : Skills.ResolvedSkillSet)
      (hhit : hit (resolveSkill env x.firstRetrievers request d) = some set) :
      AfterModel env x request d (.ok (finalizeRoute env x.secondRetrievers request d).1,
        .resolver :: (finalizeRoute env x.secondRetrievers request d).2)
  | raised (hclear : flag d "needs_clarification" = false) (hcomplex : d.complexity = .complex)
      (hhit : hit (resolveSkill env x.firstRetrievers request d) = none) (e : Exc)
      (hplan : plan env.lax env.repair x.now x.planReply d = .error e) :
      AfterModel env x request d (.error e, [.resolver, .planner])
  | planned (hclear : flag d "needs_clarification" = false) (hcomplex : d.complexity = .complex)
      (hhit : hit (resolveSkill env x.firstRetrievers request d) = none)
      (p : Plan.RouteDecision) (hplan : plan env.lax env.repair x.now x.planReply d = .ok p) :
      AfterModel env x request d
        (.ok { (finalizeRoute env x.secondRetrievers request p).1 with
          skillResolution := (resolveSkill env x.firstRetrievers request d).or
            (finalizeRoute env x.secondRetrievers request p).1.skillResolution },
          .resolver :: .planner :: (finalizeRoute env x.secondRetrievers request p).2)

theorem afterModel_spec (env : RouterEnv) (x : RouterWorld) (request : RouterRequest)
    (d : Plan.RouteDecision) : AfterModel env x request d (afterModel env x request d) := by
  rw [afterModel]
  cases hclear : flag d "needs_clarification" with
  | true => exact .unclear hclear
  | false =>
      rw [if_neg Bool.false_ne_true]
      by_cases hcomplex : d.complexity = .complex
      · rw [if_neg (not_not.mpr hcomplex), complexRound]
        cases hhit : hit (resolveSkill env x.firstRetrievers request d) with
        | some set => exact .skill hclear hcomplex set hhit
        | none =>
            cases hplan : plan env.lax env.repair x.now x.planReply d with
            | error e => exact .raised hclear hcomplex hhit e hplan
            | ok p => exact .planned hclear hcomplex hhit p hplan
      · rw [if_pos hcomplex]
        exact .simple hclear hcomplex

/-- Behind the model it is not asked again. -/
theorem model_not_mem_afterModel (x : RouterWorld) (d : Plan.RouteDecision) :
    RouterCall.model ∉ (afterModel env x request d).2 := by
  have hlast : ∀ d, RouterCall.model ∉ (finalizeRoute env x.secondRetrievers request d).2 :=
    fun d => not_mem_finalizeRoute _ _ _ (by decide)
  have hround := afterModel_spec env x request d
  generalize afterModel env x request d = out at hround ⊢
  cases hround with
  | unclear => exact List.not_mem_nil
  | simple => exact hlast d
  | skill => exact List.not_mem_cons_of_ne_of_not_mem (by decide) (hlast d)
  | raised _ _ _ e _ =>
      show RouterCall.model ∉ [RouterCall.resolver, RouterCall.planner]
      decide
  | planned _ _ _ p _ =>
      exact List.not_mem_cons_of_ne_of_not_mem (by decide)
        (List.not_mem_cons_of_ne_of_not_mem (by decide) (hlast p))

theorem route_contacted (x : RouterWorld) (rule : Plan.RouteDecision) :
    (x.router.route env.repair env.floatOfText (x.call rule)).contacted =
      (x.router.circuitBreaker.canExecute x.start).1 := by
  unfold LLMRouter.route
  rw [RouterWorld.call]
  dsimp only
  rcases x.router.circuitBreaker.canExecute x.start with ⟨_ | _, breaker⟩
  · rfl
  · dsimp only
    cases callLlm env.repair x.reply with
    | timeout => rfl
    | failed e => rfl
    | returned llmResult =>
        dsimp only
        split <;> rfl

/-- Past the rules the model is asked where the breaker lets it be. -/
theorem model_mem_fromModel (x : RouterWorld) (rule : Plan.RouteDecision)
    (gate : ComplexityResult) : RouterCall.model ∈ (fromModel env x request rule gate).2 ↔
      (x.router.circuitBreaker.canExecute x.start).1 = true := by
  have hasked : RouterCall.model ∈ (if (x.router.circuitBreaker.canExecute x.start).1 = true
      then [RouterCall.model] else []) ↔ (x.router.circuitBreaker.canExecute x.start).1 = true := by
    split_ifs with h
    · exact iff_of_true (List.mem_singleton_self _) h
    · exact iff_of_false List.not_mem_nil h
  rw [fromModel]
  dsimp only
  rw [route_contacted]
  cases (x.router.route env.repair env.floatOfText (x.call rule)).decision with
  | error e => exact hasked
  | ok decision =>
      dsimp only
      rw [List.mem_append, or_iff_left (model_not_mem_afterModel x _)]
      exact hasked

/-- The model is asked about a question that the filter leaves, and that is complex
    or not one the rules are sure of, unless the breaker keeps it from being
    asked. -/
theorem model_asked_iff (env : RouterEnv) (hlow : 11 / 20 < env.config.ruleToLlm)
    (hhigh : env.config.ruleToLlm ≤ 3 / 4) (x : RouterWorld) (request : RouterRequest) :
    RouterCall.model ∈ (intentRouter env x request).2 ↔
      request.userQuestion ≠ "" ∧ PreFilter.filter env.u request.userQuestion = none ∧
        (strip request.userQuestion = "" ∨
          (env.config.gate.enabled = true ∧
            FormComplex env.config.gate env.config.keywords request.userQuestion) ∨
          ¬ Conclusive env.u env.config.keywords request.userQuestion) ∧
        (x.router.circuitBreaker.canExecute x.start).1 = true := by
  rw [intentRouter]
  by_cases hempty : request.userQuestion = ""
  · rw [if_pos hempty]
    exact iff_of_false List.not_mem_nil (fun h => h.1 hempty)
  rw [if_neg hempty, and_iff_right hempty, beforeModel]
  cases PreFilter.filter env.u request.userQuestion with
  | some d =>
      refine iff_of_false (not_mem_finalizeRoute _ _ _ (by decide)) (fun h => ?_)
      cases h.1
  | none =>
      rw [and_iff_right rfl]
      dsimp only
      by_cases hcomplex : (check env.config.gate env.config.keywords
        request.userQuestion).isComplex = true
      · rw [if_pos hcomplex]
        refine (model_mem_fromModel x _ _).trans (and_iff_right ?_).symm
        exact .inr (.inl (check_isComplex_iff.mp hcomplex).2)
      · rw [if_neg hcomplex]
        by_cases hsure : env.config.ruleToLlm ≤
            (RuleRouter.route env.u env.config.keywords request.userQuestion).confidence
        · rw [if_pos hsure]
          refine iff_of_false (not_mem_finalizeRoute _ _ _ (by decide)) ?_
          rcases (route_confident_iff hlow hhigh).mp hsure with ⟨hblank, hconclusive⟩
          rintro ⟨h | h | h, -⟩
          · exact hblank h
          · exact hcomplex (check_isComplex_iff.mpr ⟨hblank, h⟩)
          · exact h hconclusive
        · rw [if_neg hsure]
          refine (model_mem_fromModel x _ _).trans (and_iff_right ?_).symm
          by_cases hblank : strip request.userQuestion = ""
          · exact .inl hblank
          · exact .inr (.inr (fun h => hsure ((route_confident_iff hlow hhigh).mpr ⟨hblank, h⟩)))

end Asked

section Sample

/-- Skills that plans are made from without further fields. -/
def plainFields : PlanFields where
  report := fun s => { toReportSkill := s }
  data := fun s => { toDataSkill := s }
  retrieval := fun s => { toRetrievalSkill := s }
  report_eq := fun _ => rfl
  data_eq := fun _ => rfl
  retrieval_eq := fun _ => rfl

/-- A router with the settings of the source and without skills. -/
def plainEnv : RouterEnv where
  u := { (default : Unicode) with upper := id, lower := id }
  casefold := id
  lax := { intOfText := fun _ => none, boolOfText := fun _ => none }
  floatOfText := fun _ => none
  floatRepr := fun _ => ""
  repair := fun _ => .error .valueError
  fields := plainFields

/-- A round in which no model answers in time. -/
def silentWorld : RouterWorld where
  reply := .timeout
  planReply := .timeout

theorem model_asked_iff_why :
    RouterCall.model ∈ (intentRouter plainEnv silentWorld { userQuestion := "why" }).2 := by
  refine (model_asked_iff plainEnv ?_ ?_ silentWorld { userQuestion := "why" }).mpr
    ⟨by decide, by decide +kernel, .inr (.inr ?_), rfl⟩
  · show (11 / 20 : ℚ) < 7 / 10
    norm_num
  · show (7 / 10 : ℚ) ≤ 3 / 4
    norm_num
  · unfold Conclusive
    decide +kernel

end Sample

end RouterNode

end AgenticRag
