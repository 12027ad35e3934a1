import AgenticRag.Core.HallucinationDetector
import AgenticRag.Theory.Delivery

/-!
# The Gate of the Local Verifier

What the local gateway lets through when an answer is sent to it as a whole.

The score of an answer is a mean, so it is bounded claim by claim. A contradicted claim
caps it (`answerScore_le_half`). A claim that is left open costs the answer at least four
tenths of its share, whatever the model says (`answerScore_le_open`), and six tenths of
it without a model (`answerScore_silent`): nobody was asked whether the claim is
supported, and the default says that it is. The node compares the score after rounding,
which is what `dispose_reply` says of it.

From this follow the edges of the graph. As long as the rules contradict a claim of every
answer there is, the run is withheld in the end (`contradicted_never_delivered`), by an
induction on the attempts that are left. Without a model an answer of which up to two
thirds are left open is delivered as it is (`delivered_without_model_iff`).

## Main definitions

* `verdictOn`: What the rule layer says of a claim.
* `Silent`: There is no model to ask.

## Theorems

* `passed_supported`: What a pass takes.
* `action_recomputed_iff`: When node and component agree.
* `contradicted_listed_iff`: When the component lists a contradicted claim.
-/

namespace AgenticRag

namespace HallucinationDetector

open Py Ordered Driven

section Members

/-- A claim of an answer comes with its defaults. -/
theorem eq_of_mem_boundClaims {maxClaimLength : Nat} {seen raws : List String} {c : Claim}
    (h : c ∈ boundClaims maxClaimLength seen raws) : ∃ raw ∈ raws,
      c = { text := take (cleanClaimText raw) maxClaimLength } := by
  induction raws generalizing seen with
  | nil => cases h
  | cons raw rest ih =>
      have hlater : (∃ raw' ∈ rest, c = { text := take (cleanClaimText raw') maxClaimLength }) →
          ∃ raw' ∈ raw :: rest, c = { text := take (cleanClaimText raw') maxClaimLength } :=
        fun ⟨raw', hmem, heq⟩ => ⟨raw', List.mem_cons_of_mem raw hmem, heq⟩
      unfold boundClaims at h
      dsimp only at h
      split_ifs at h
      · exact hlater (ih h)
      · exact hlater (ih h)
      · rcases List.mem_cons.mp h with rfl | h
        · exact ⟨raw, List.mem_cons_self, rfl⟩
        · exact hlater (ih h)

theorem eq_of_mem_decomposeClaims {p : HallucinationDetectorParam} {answer : String} {c : Claim}
    (h : c ∈ decomposeClaims p answer) : ∃ raw ∈ mergeNumericalClaims (rawClaims answer),
      c = { text := take (cleanClaimText raw) p.maxClaimLength.toNat } := by
  unfold decomposeClaims at h
  split_ifs at h
  · cases h
  · exact eq_of_mem_boundClaims h

end Members

section Rounding

/-- Rounding reaches an even number from half below it on. -/
theorem le_roundHalfEven_iff {x : ℚ} (hx : 0 ≤ x) {k : Nat} (hk : k % 2 = 0) :
    k ≤ roundHalfEven x ↔ (k : ℚ) - 1 / 2 ≤ x := by
  have hfloor : ((⌊x⌋.toNat : Nat) : ℚ) = ⌊x⌋ := by
    exact_mod_cast Int.toNat_of_nonneg (Int.floor_nonneg.mpr hx)
  have hlow : ((⌊x⌋.toNat : Nat) : ℚ) ≤ x := hfloor ▸ Int.floor_le x
  have hhigh : x < (⌊x⌋.toNat : Nat) + 1 := by
    rw [hfloor]
    exact Int.lt_floor_add_one x
  unfold roundHalfEven
  generalize ⌊x⌋.toNat = n at hlow hhigh
  dsimp only
  split_ifs with hbelow habove heven
  · refine ⟨fun h => ?_, fun h => Nat.lt_succ_iff.mp ?_⟩
    · have hle : (k : ℚ) ≤ n := by exact_mod_cast h
      linarith
    · have hlt : (k : ℚ) < ((n + 1 : Nat) : ℚ) := by push_cast; linarith
      exact_mod_cast hlt
  · refine ⟨fun h => ?_, fun h => Nat.lt_succ_iff.mp ?_⟩
    · have hle : (k : ℚ) ≤ ((n + 1 : Nat) : ℚ) := by exact_mod_cast h
      push_cast at hle
      linarith
    · have hlt : (k : ℚ) < ((n + 1 + 1 : Nat) : ℚ) := by push_cast; linarith
      exact_mod_cast hlt
  · -- Half way from an even number the next number is odd.
    refine ⟨fun h => ?_, fun h => ?_⟩
    · have hle : (k : ℚ) ≤ n := by exact_mod_cast h
      linarith
    · have hle : (k : ℚ) ≤ ((n + 1 : Nat) : ℚ) := by push_cast; linarith
      have hle' : k ≤ n + 1 := by exact_mod_cast hle
      omega
  · refine ⟨fun h => ?_, fun h => ?_⟩
    · have hle : (k : ℚ) ≤ ((n + 1 : Nat) : ℚ) := by exact_mod_cast h
      push_cast at hle
      linarith
    · have hle : (k : ℚ) ≤ ((n + 1 : Nat) : ℚ) := by push_cast; linarith
      exact_mod_cast hle

/-- A rounded score reaches a threshold from half of the last digit below it on. -/
theorem le_round4_iff {q : ℚ} (hq : 0 ≤ q) {k : Nat} (hk : k % 2 = 0) :
    (k : ℚ) / 10000 ≤ Report.round4 q ↔ (k : ℚ) / 10000 - 1 / 20000 ≤ q := by
  have hround := le_roundHalfEven_iff (mul_nonneg hq (by norm_num : (0 : ℚ) ≤ 10000)) hk
  rw [Report.round4, if_neg (not_lt.mpr hq), abs_of_nonneg hq]
  have hcast : (k : ℚ) / 10000 ≤ (roundHalfEven (q * 10000) : ℚ) / 10000 ↔
      k ≤ roundHalfEven (q * 10000) := by
    rw [div_le_div_iff_of_pos_right (by norm_num)]
    exact Nat.cast_le
  rw [hcast, hround]
  constructor <;> intro h <;> linarith

end Rounding

section Scores

variable (p : HallucinationDetectorParam) (env : Services) (docs : List RetrievedDoc) (c : Claim)

/-- The model changes the two opinions and the evidence at most. -/
theorem llmVerifyClaim_some {context : String} {claim claim' : Claim}
    (h : llmVerifyClaim p env context claim = some claim') : ∃ nli llm evidence,
      claim' = { claim with nliResult := nli, llmResult := llm, evidence := evidence } := by
  unfold llmVerifyClaim at h
  dsimp only at h
  by_cases hname : p.llmId = ""
  · rw [if_pos hname] at h
    exact ⟨_, _, _, (Option.some.inj h).symm⟩
  by_cases hconfig : ¬ env.modelConfig p.llmId
  · rw [if_neg hname, if_pos hconfig] at h
    exact ⟨_, _, _, (Option.some.inj h).symm⟩
  by_cases hbundle : ¬ env.bundle
  · rw [if_neg hname, if_neg hconfig, if_pos hbundle] at h
    cases h
  rw [if_neg hname, if_neg hconfig, if_neg hbundle] at h
  cases hchat : env.chat (buildVerificationPrompt context claim.text) with
  | none =>
      rw [hchat] at h
      exact ⟨_, _, _, (Option.some.inj h).symm⟩
  | some answer =>
      rw [hchat] at h
      exact ⟨_, _, _, (Option.some.inj h).symm⟩

theorem modelChecked_eq (context : String) (claim : Claim) : ∃ nli llm evidence,
    modelChecked p env context claim =
      { claim with nliResult := nli, llmResult := llm, evidence := evidence } := by
  unfold modelChecked
  by_cases hasked : p.useLlm ∨ p.useNli
  · rw [if_pos hasked]
    cases hmodel : llmVerifyClaim p env context claim with
    | some claim' => exact llmVerifyClaim_some p env hmodel
    | none =>
        by_cases hopen : claim.ruleResult = .notSupported
        · exact ⟨_, _, _, if_pos hopen⟩
        · exact ⟨_, _, _, if_neg hopen⟩
  · exact ⟨_, _, _, if_neg hasked⟩

/-- What the rule layer says of a claim. -/
def verdictOn : RuleResult := (ruleChecked env docs c).ruleResult

/-- A verified claim is contradicted, or supported by something that could be checked,
    or left to the model. -/
theorem verifyClaim_cases :
    (verdictOn env docs c = .contradicted ∧ (verifyClaim p env docs c).score = 0) ∨
      (verdictOn env docs c = .supported ∧ (verifyClaim p env docs c).score = 1) ∨
      (verdictOn env docs c ≠ .contradicted ∧ (verifyClaim p env docs c).score =
        claimScore p (modelChecked p env (buildContext docs) (ruleChecked env docs c))) := by
  unfold verifyClaim
  dsimp only
  by_cases hcontra : (ruleChecked env docs c).ruleResult = .contradicted
  · exact .inl ⟨hcontra, by rw [if_pos hcontra]⟩
  rw [if_neg hcontra]
  by_cases hskip : (ruleChecked env docs c).ruleResult = .supported ∧
      p.skipLlmWhenRuleSupported ∧ ¬ (ruleChecked env docs c).ruleEntities.isEmpty
  · exact .inr (.inl ⟨hskip.1, by rw [if_pos hskip]⟩)
  · exact .inr (.inr ⟨hcontra, by rw [if_neg hskip]⟩)

/-- Verifying changes neither the text nor what the rule layer said. -/
theorem verifyClaim_frame : (verifyClaim p env docs c).text = c.text ∧
    (verifyClaim p env docs c).ruleResult = verdictOn env docs c := by
  unfold verifyClaim
  dsimp only
  rcases modelChecked_eq p env (buildContext docs) (ruleChecked env docs c) with
    ⟨nli, llm, evidence, heq⟩
  rw [heq]
  split_ifs <;> exact ⟨rfl, rfl⟩

theorem weight_verifyClaim : (verifyClaim p env docs c).weight = c.weight := by
  rw [Claim.weight, Claim.weight, (verifyClaim_frame p env docs c).1]

end Scores

section Means

variable (env : Services) (docs : List RetrievedDoc)

/-- The weight of the claims of a list, and of those of a verdict. -/
def totalWeight (claims : List Claim) : Nat := (claims.map Claim.weight).sum

/-- The weight of the claims of a verdict. -/
def weightOf (verdict : RuleResult) (claims : List Claim) : Nat :=
  totalWeight (claims.filter (fun c => verdictOn env docs c = verdict))

/-- The score of the claims, before it is rounded. -/
def answerScore (p : HallucinationDetectorParam) (claims : List Claim) : ℚ :=
  (aggregateScores p (verifyClaims p env docs claims)).1

/-- A sum in which each claim counts as much as it is long. -/
def weighted (f : Claim → ℚ) (claims : List Claim) : ℚ :=
  (claims.map (fun c => f c * (c.weight : ℚ))).sum

theorem weight_pos (c : Claim) : 0 < c.weight :=
  Nat.lt_of_lt_of_le Nat.zero_lt_one (le_max_left _ _)

theorem totalWeight_pos {claims : List Claim} (hne : claims ≠ []) : 0 < totalWeight claims := by
  rcases List.exists_cons_of_ne_nil hne with ⟨c, rest, rfl⟩
  exact Nat.add_pos_left (weight_pos c) _

theorem weighted_le {f g : Claim → ℚ} {claims : List Claim} (h : ∀ c ∈ claims, f c ≤ g c) :
    weighted f claims ≤ weighted g claims :=
  List.sum_le_sum (fun c hc => mul_le_mul_of_nonneg_right (h c hc) (Nat.cast_nonneg _))

theorem weighted_congr {f g : Claim → ℚ} {claims : List Claim} (h : ∀ c ∈ claims, f c = g c) :
    weighted f claims = weighted g claims :=
  le_antisymm (weighted_le (fun c hc => (h c hc).le)) (weighted_le (fun c hc => (h c hc).ge))

/-- What is lost where the claims of a verdict score less than one. -/
theorem weighted_verdict (verdict : RuleResult) (a : ℚ) (claims : List Claim) :
    weighted (fun c => if verdictOn env docs c = verdict then a else 1) claims =
      totalWeight claims - (1 - a) * weightOf env docs verdict claims := by
  induction claims with
  | nil => simp [weighted, totalWeight, weightOf]
  | cons c rest ih =>
      simp only [weighted, totalWeight, weightOf, List.map_cons, List.sum_cons] at ih ⊢
      rw [ih]
      by_cases hc : verdictOn env docs c = verdict
      · rw [if_pos hc, List.filter_cons, if_pos (decide_eq_true hc), List.map_cons, List.sum_cons]
        push_cast
        ring
      · rw [if_neg hc, List.filter_cons, if_neg (by simpa using hc)]
        push_cast
        ring

variable (p : HallucinationDetectorParam) {claims : List Claim}

/-- The score is the mean of the scores, capped by a contradiction. -/
theorem answerScore_eq (hne : claims ≠ []) :
    answerScore env docs p claims =
      if ∃ c ∈ claims, verdictOn env docs c = .contradicted then
        min (weighted (fun c => (verifyClaim p env docs c).score) claims / totalWeight claims)
          (1 / 2)
      else weighted (fun c => (verifyClaim p env docs c).score) claims / totalWeight claims := by
  have hweights : (verifyClaims p env docs claims).map Claim.weight = claims.map Claim.weight := by
    rw [verifyClaims, List.map_map]
    exact List.map_congr_left (fun c _ => weight_verifyClaim p env docs c)
  have hscores : ((verifyClaims p env docs claims).map (fun c => c.score * (c.weight : ℚ))).sum =
      weighted (fun c => (verifyClaim p env docs c).score) claims := by
    rw [verifyClaims, List.map_map, weighted]
    refine congrArg List.sum (List.map_congr_left (fun c _ => ?_))
    rw [Function.comp_apply, weight_verifyClaim]
  have hcontra : (verifyClaims p env docs claims).any (fun c => c.ruleResult = .contradicted) =
      true ↔ ∃ c ∈ claims, verdictOn env docs c = .contradicted := by
    rw [List.any_eq_true]
    constructor
    · rintro ⟨v, hv, hresult⟩
      rcases List.mem_map.mp hv with ⟨c, hc, rfl⟩
      refine ⟨c, hc, ?_⟩
      rw [← (verifyClaim_frame p env docs c).2]
      exact of_decide_eq_true hresult
    · rintro ⟨c, hc, hverdict⟩
      refine ⟨_, List.mem_map_of_mem hc, decide_eq_true ?_⟩
      rw [(verifyClaim_frame p env docs c).2, hverdict]
  have hnil : (verifyClaims p env docs claims).isEmpty = false := by
    rw [verifyClaims, List.isEmpty_map]
    exact List.isEmpty_eq_false_iff.mpr hne
  rw [answerScore, aggregateScores, hnil, if_neg Bool.false_ne_true]
  dsimp only
  rw [hweights, hscores, ← totalWeight]
  exact if_congr hcontra rfl rfl

/-- A contradicted claim caps the score of the answer. -/
theorem answerScore_le_half (hcontra : ∃ c ∈ claims, verdictOn env docs c = .contradicted) :
    answerScore env docs p claims ≤ 1 / 2 := by
  rcases hcontra with ⟨c, hc, hverdict⟩
  rw [answerScore_eq env docs p (List.ne_nil_of_mem hc), if_pos ⟨c, hc, hverdict⟩]
  exact min_le_right _ _

end Means

section Defaults

theorem nliScore_mem (r : NliResult) : 0 ≤ nliScore r ∧ nliScore r ≤ 1 := by
  cases r <;> norm_num [nliScore]

theorem llmScore_mem (r : RuleResult) : 0 ≤ llmScore r ∧ llmScore r ≤ 1 := by
  cases r <;> norm_num [llmScore]

theorem ruleScore_mem (r : RuleResult) : 0 ≤ ruleScore r ∧ ruleScore r ≤ 1 := by
  cases r <;> norm_num [ruleScore]

/-- What the gateway sets the component up with. -/
def gatewayParam (llmId : String) : HallucinationDetectorParam := { llmId := llmId }

variable (env : Services) (docs : List RetrievedDoc) (llmId : String) (c : Claim)

theorem claimScore_gateway (claim : Claim) : claimScore (gatewayParam llmId) claim =
    4 / 10 * ruleScore claim.ruleResult + 4 / 10 * nliScore claim.nliResult +
      2 / 10 * llmScore claim.llmResult :=
  rfl

/-- The model can give a claim the rules leave open no more than six tenths. -/
theorem verifyClaim_score_mem :
    0 ≤ (verifyClaim (gatewayParam llmId) env docs c).score ∧
      (verifyClaim (gatewayParam llmId) env docs c).score ≤
        if verdictOn env docs c = .notSupported then 6 / 10 else 1 := by
  rcases verifyClaim_cases (gatewayParam llmId) env docs c with
    ⟨hverdict, hscore⟩ | ⟨hverdict, hscore⟩ | ⟨-, hscore⟩
  · rw [hscore, hverdict, if_neg (by decide)]
    exact ⟨le_rfl, zero_le_one⟩
  · rw [hscore, hverdict, if_neg (by decide)]
    exact ⟨zero_le_one, le_rfl⟩
  · rcases modelChecked_eq (gatewayParam llmId) env (buildContext docs)
      (ruleChecked env docs c) with ⟨nli, llm, evidence, heq⟩
    rw [hscore, heq, claimScore_gateway, verdictOn]
    dsimp only
    have hnli := nliScore_mem nli
    have hllm := llmScore_mem llm
    have hrule := ruleScore_mem (ruleChecked env docs c).ruleResult
    refine ⟨by linarith, ?_⟩
    split_ifs with hopen
    · rw [hopen, ruleScore]
      linarith
    · linarith

/-- The score of an answer lies between zero and one. -/
theorem answerScore_nonneg (claims : List Claim) :
    0 ≤ answerScore env docs (gatewayParam llmId) claims := by
  by_cases hne : claims = []
  · subst hne
    exact zero_le_one
  have hsum : 0 ≤ weighted (fun c => (verifyClaim (gatewayParam llmId) env docs c).score)
      claims := by
    refine List.sum_nonneg (fun q hq => ?_)
    rcases List.mem_map.mp hq with ⟨c, -, rfl⟩
    exact mul_nonneg (verifyClaim_score_mem env docs llmId c).1 (Nat.cast_nonneg _)
  rw [answerScore_eq env docs _ hne]
  have hmean := div_nonneg hsum (Nat.cast_nonneg (α := ℚ) (totalWeight claims))
  split_ifs
  · exact le_min hmean (by norm_num)
  · exact hmean

/-- What the rule layer leaves open keeps the score down, whatever the model says. -/
theorem answerScore_le_open {claims : List Claim} (hne : claims ≠ []) :
    answerScore env docs (gatewayParam llmId) claims * totalWeight claims ≤
      totalWeight claims - 4 / 10 * weightOf env docs .notSupported claims := by
  have hpos : (0 : ℚ) < totalWeight claims := by exact_mod_cast totalWeight_pos hne
  have hmean : answerScore env docs (gatewayParam llmId) claims ≤
      weighted (fun c => (verifyClaim (gatewayParam llmId) env docs c).score) claims /
        totalWeight claims := by
    rw [answerScore_eq env docs _ hne]
    split_ifs
    · exact min_le_left _ _
    · exact le_rfl
  have hbound := weighted_le (fun c (_ : c ∈ claims) => (verifyClaim_score_mem env docs llmId c).2)
  rw [weighted_verdict] at hbound
  rw [le_div_iff₀ hpos] at hmean
  linarith

end Defaults

section Silence

/-- There is no model to ask, or its calls fail. -/
def Silent (env : Services) (llmId : String) : Prop :=
  llmId = "" ∨ env.modelConfig llmId = false ∨ env.bundle = true ∧ ∀ prompt, env.chat prompt = none

variable {env : Services} {llmId : String}

theorem llmVerifyClaim_silent (h : Silent env llmId) (context : String) (claim : Claim) :
    llmVerifyClaim (gatewayParam llmId) env context claim =
      some { claim with nliResult := ruleToNli claim.ruleResult } := by
  have hname : (gatewayParam llmId).llmId = llmId := rfl
  unfold llmVerifyClaim
  rw [hname]
  dsimp only
  by_cases hempty : llmId = ""
  · rw [if_pos hempty]
  rw [if_neg hempty]
  rcases h with h | h | ⟨hbundle, hchat⟩
  · exact absurd h hempty
  · rw [if_pos (by rw [h]; exact Bool.false_ne_true)]
  · by_cases hconfig : ¬ env.modelConfig llmId
    · rw [if_pos hconfig]
    · rw [if_neg hconfig, if_neg (not_not.mpr hbundle), hchat]

/-- Without a model a claim that is left open scores four tenths, because the opinion on
    support keeps its default. -/
theorem verifyClaim_silent (h : Silent env llmId) (docs : List RetrievedDoc) {c : Claim}
    (hdefault : c.llmResult = .supported) (hverdict : verdictOn env docs c ≠ .contradicted) :
    (verifyClaim (gatewayParam llmId) env docs c).score =
      if verdictOn env docs c = .notSupported then 4 / 10 else 1 := by
  rcases verifyClaim_cases (gatewayParam llmId) env docs c with
    ⟨hcontra, -⟩ | ⟨hsupported, hscore⟩ | ⟨-, hscore⟩
  · exact absurd hcontra hverdict
  · rw [hscore, hsupported, if_neg (by decide)]
  · have hmodel : modelChecked (gatewayParam llmId) env (buildContext docs)
        (ruleChecked env docs c) =
        { ruleChecked env docs c with nliResult := ruleToNli (verdictOn env docs c) } := by
      rw [modelChecked, if_pos (.inl rfl), llmVerifyClaim_silent h]
      rfl
    have hllm : (ruleChecked env docs c).llmResult = .supported := hdefault
    rw [hscore, hmodel, claimScore_gateway]
    dsimp only
    rw [hllm, ← verdictOn]
    cases hresult : verdictOn env docs c with
    | supported =>
        rw [if_neg (by decide)]
        norm_num [ruleScore, nliScore, llmScore, ruleToNli]
    | notSupported =>
        rw [if_pos rfl]
        norm_num [ruleScore, nliScore, llmScore, ruleToNli]
    | contradicted => exact absurd hresult hverdict

theorem answerScore_silent (h : Silent env llmId) (docs : List RetrievedDoc) {claims : List Claim}
    (hne : claims ≠ []) (hdefault : ∀ c ∈ claims, c.llmResult = .supported)
    (hverdict : ∀ c ∈ claims, verdictOn env docs c ≠ .contradicted) :
    answerScore env docs (gatewayParam llmId) claims * totalWeight claims =
      totalWeight claims - 6 / 10 * weightOf env docs .notSupported claims := by
  have hpos : (0 : ℚ) < totalWeight claims := by exact_mod_cast totalWeight_pos hne
  have hnone : ¬ ∃ c ∈ claims, verdictOn env docs c = .contradicted :=
    fun ⟨c, hc, hcontra⟩ => hverdict c hc hcontra
  have hscores := weighted_congr (fun c hc =>
    verifyClaim_silent h docs (hdefault c hc) (hverdict c hc))
  rw [weighted_verdict] at hscores
  rw [answerScore_eq env docs _ hne, if_neg hnone, hscores, div_mul_cancel₀ _ hpos.ne']
  norm_num

end Silence

section Gate

theorem disposal_action (p : HallucinationDetectorParam) (answer query : String)
    (claims : List Claim) (q : ℚ) (docs : List RetrievedDoc) :
    (disposal p answer query claims q docs).action =
      if p.passThreshold ≤ q then .pass
      else if p.filterThreshold ≤ q then .filter
      else if p.regenerateThreshold ≤ q ∧ p.enableRegeneration then .regenerate
      else .refuse := by
  unfold disposal
  split_ifs <;> rfl

variable (rt : Runtime) (env : Services) (defaultModel : String → Option String) (s : AgentState)
  (w : VerifierWorld)

/-- The answer is sent to the gateway as a whole. -/
structure AsksGateway (w : VerifierWorld) (s : AgentState) : Prop where
  answer : s.generatedAnswer ≠ ""
  evidence : s.evidence ≠ []
  feature : w.featureEnabled = true
  whole : s.currentEnforcement = .enforced → s.answerAst ≠ none ∧ s.claims = []

/-- The claims of the answer of a state, and the evidence as the gateway gets it. -/
def answerClaims (s : AgentState) : List Claim := decomposeClaims {} s.generatedAnswer

/-- The documents of a state. -/
def evidenceDocs (s : AgentState) : List RetrievedDoc := contextDocs s.evidenceContext

/-- The score of the answer of a state, before it is rounded. -/
def rawScore (env : Services) (defaultModel : String → Option String) (s : AgentState) : ℚ :=
  answerScore env (evidenceDocs s) (gatewayParam (resolveTenantLlmId defaultModel s.tenantId))
    (answerClaims s)

theorem rawScore_nonneg : 0 ≤ rawScore env defaultModel s :=
  answerScore_nonneg env _ _ _

/-- What the gateway answers the node. -/
def reply (env : Services) (defaultModel : String → Option String) (s : AgentState) :
    FaithfulnessResult :=
  verifyFaithfulness env defaultModel s.generatedAnswer s.evidenceContext s.userQuestion s.tenantId

/-- An answer without claims scores one. -/
theorem rawScore_of_nil (h : answerClaims s = []) : rawScore env defaultModel s = 1 := by
  rw [rawScore, h]
  rfl

theorem reply_score :
    (reply env defaultModel s).faithfulnessScore = Report.round4 (rawScore env defaultModel s) := by
  unfold reply verifyFaithfulness
  dsimp only
  by_cases hnil : (answerClaims s).isEmpty
  · rw [rawScore_of_nil env defaultModel s (List.isEmpty_iff.mp hnil)]
    refine (congrArg FaithfulnessResult.faithfulnessScore (if_pos hnil)).trans ?_
    decide +kernel
  · exact congrArg FaithfulnessResult.faithfulnessScore (if_neg hnil)

theorem reply_action : (reply env defaultModel s).action =
    if 85 / 100 ≤ rawScore env defaultModel s then .pass
    else if 6 / 10 ≤ rawScore env defaultModel s then .filter
    else if 3 / 10 ≤ rawScore env defaultModel s then .regenerate
    else .refuse := by
  unfold reply verifyFaithfulness
  dsimp only
  by_cases hnil : (answerClaims s).isEmpty
  · rw [rawScore_of_nil env defaultModel s (List.isEmpty_iff.mp hnil)]
    refine (congrArg FaithfulnessResult.action (if_pos hnil)).trans ?_
    rw [if_pos (by norm_num)]
  · refine (congrArg FaithfulnessResult.action (if_neg hnil)).trans ?_
    refine (disposal_action _ _ _ _ _ _).trans ?_
    have henabled : ∀ q : ℚ, (3 / 10 ≤ q ∧ true = true) ↔ 3 / 10 ≤ q := fun q => and_iff_left rfl
    exact if_congr Iff.rfl rfl (if_congr Iff.rfl rfl (if_congr (henabled _) rfl rfl))

/-- The node's action for the score the gateway gives, by the score before it is
    rounded. -/
theorem dispose_reply (count : Nat) :
    dispose (reply env defaultModel s).faithfulnessScore count =
      if 85 / 100 - 1 / 20000 ≤ rawScore env defaultModel s then .pass
      else if 6 / 10 - 1 / 20000 ≤ rawScore env defaultModel s then .filter
      else if 3 / 10 - 1 / 20000 ≤ rawScore env defaultModel s then
        if maxRegenerates ≤ count then .exhausted else .regenerate
      else .reject := by
  have hround : ∀ (k : Nat) (θ : ℚ), k % 2 = 0 → θ = (k : ℚ) / 10000 →
      (θ ≤ Report.round4 (rawScore env defaultModel s) ↔
        θ - 1 / 20000 ≤ rawScore env defaultModel s) := by
    rintro k θ heven rfl
    exact le_round4_iff (rawScore_nonneg env defaultModel s) heven
  have hpass := hround 8500 (85 / 100) rfl (by norm_num)
  have hfilter := hround 6000 (6 / 10) rfl (by norm_num)
  have hregenerate := hround 3000 (3 / 10) rfl (by norm_num)
  rw [reply_score, dispose]
  exact if_congr hpass rfl (if_congr hfilter rfl (if_congr hregenerate rfl rfl))

variable {s w}

/-- The node takes the gateway's score. -/
theorem hallucinationNode_local (h : AsksGateway w s) :
    (hallucinationNode rt (localWorld env defaultModel s w) s).1 =
      s.scored (reply env defaultModel s).faithfulnessScore
        (dispose (reply env defaultModel s).faithfulnessScore s.regenerateCount) := by
  have hlevel : (answerLevelOutcome (localWorld env defaultModel s w) s).1 =
      s.scored (reply env defaultModel s).faithfulnessScore
        (dispose (reply env defaultModel s).faithfulnessScore s.regenerateCount) := by
    have hfeature : (localWorld env defaultModel s w).featureEnabled = true := h.feature
    rw [answerLevelOutcome, if_neg (not_not.mpr hfeature)]
    rfl
  unfold hallucinationNode
  dsimp only
  rw [if_neg h.answer, if_neg (by simpa using h.evidence)]
  by_cases hmode : s.currentEnforcement = .enforced
  · rcases h.whole hmode with ⟨hast, hclaims⟩
    rw [if_pos hmode, if_neg (by simpa using hast), if_pos (by simp [hclaims])]
    exact hlevel
  · rw [if_neg hmode]
    exact hlevel

variable {rt env defaultModel} {ω : Nat → World}

/-- The first step of a run whose verifier is the local gateway. -/
theorem delivery_one (hlocal : (ω 0).verifier = localWorld env defaultModel s w)
    (h : AsksGateway w s) :
    Delivery rt ω s 1 =
      ⟨hallucinationDecision (s.scored (reply env defaultModel s).faithfulnessScore
          (dispose (reply env defaultModel s).faithfulnessScore s.regenerateCount)),
        s.scored (reply env defaultModel s).faithfulnessScore
          (dispose (reply env defaultModel s).faithfulnessScore s.regenerateCount)⟩ := by
  have hnode := hallucinationNode_local rt env defaultModel h
  rw [← hlocal] at hnode
  rw [← hnode]
  rfl

/-- A run that goes on to the renderer ends with the raw answer. -/
theorem delivered_raw (hreport : s.report.artifacts = [])
    (hnode : (Delivery rt ω s 1).node = .answerRenderer) :
    (Delivery rt ω s 4).node = .finish ∧
      (Delivery rt ω s 4).state.finalAnswer = s.generatedAnswer := by
  have hedge : hallucinationDecision (hallucinationNode rt (ω 0).verifier s).1 = .answerRenderer :=
    hnode
  have hrun : Delivery rt ω s 4 =
      ⟨.finish,
        finalAnswerNode (answerRendererNode (hallucinationNode rt (ω 0).verifier s).1)⟩ := by
    have hrender : Delivery rt ω s 2 =
        ⟨.observability, answerRendererNode (hallucinationNode rt (ω 0).verifier s).1⟩ := by
      simp only [Delivery, runFor, step, hedge]
    change step rt (ω 3) (step rt (ω 2) (Delivery rt ω s 2)) = _
    rw [hrender]
    rfl
  rcases hallucinationNode_frame rt (ω 0).verifier s with ⟨hanswer, -, -, hreport'⟩
  rcases answerRendererNode_frame (hallucinationNode rt (ω 0).verifier s).1 with
    ⟨hraw, haction, hreport''⟩
  rw [hrun]
  refine ⟨rfl, ?_⟩
  rw [← hanswer, ← hraw]
  refine finalAnswerText_passed (by rw [hreport'', hreport', hreport]) ?_
  rw [haction]
  exact hallucinationDecision_answerRenderer hedge

/-- A run that ended with a refusal, or with the context in place of an answer. -/
def Withheld (c : Config) : Prop :=
  c.node = .finish ∧ (c.state.finalAnswer = getRejectionMessage c.state.queryLang ∨
    c.state.finalAnswer = getConservativeAnswer c.state.mergedContext c.state.queryLang)

/-- A run that goes round the renderer. -/
theorem delivered_instead (hlocal : (ω 0).verifier = localWorld env defaultModel s w)
    (h : AsksGateway w s) (hreport : s.report.artifacts = [])
    (haction : dispose (reply env defaultModel s).faithfulnessScore s.regenerateCount = .reject ∨
      dispose (reply env defaultModel s).faithfulnessScore s.regenerateCount = .exhausted) :
    (Delivery rt ω s 1).node = .observability ∧ (Delivery rt ω s 2).node = .answerOutput ∧
      Withheld (Delivery rt ω s 3) := by
  have hone : Delivery rt ω s 1 = _ := delivery_one hlocal h
  have htwo : Delivery rt ω s 2 = step rt (ω 1) (Delivery rt ω s 1) := rfl
  have hthree : Delivery rt ω s 3 = step rt (ω 2) (step rt (ω 1) (Delivery rt ω s 1)) := rfl
  rcases haction with haction | haction
  · rw [haction] at hone
    rw [hthree, htwo, hone]
    refine ⟨rfl, rfl, rfl, .inl ?_⟩
    change finalAnswerText (s.scored _ .reject) = _
    simp [finalAnswerText, AgentState.scored, AgentState.disposed, hreport]
    rfl
  · rw [haction] at hone
    rw [hthree, htwo, hone]
    refine ⟨rfl, rfl, rfl, .inr ?_⟩
    change finalAnswerText (s.scored _ .exhausted) = _
    simp [finalAnswerText, AgentState.scored, AgentState.disposed, hreport]
    rfl

/-- The verifier at hand is the local gateway, the answer is sent to it, and the rules
    contradict one of its claims. -/
def Contradicts (env : Services) (defaultModel : String → Option String) (x : World)
    (s : AgentState) : Prop :=
  ∃ w, x.verifier = localWorld env defaultModel s w ∧ AsksGateway w s ∧
    ∃ c ∈ answerClaims s, verdictOn env (evidenceDocs s) c = .contradicted

/-- An answer with a contradicted claim is generated anew while there are attempts left,
    and else replaced. -/
theorem contradicted_withheld (rt : Runtime) (ω : Nat → World)
    (h : Contradicts env defaultModel (ω 0) s) (hreport : s.report.artifacts = []) :
    (s.regenerateCount < maxRegenerates ∧ ∃ q, Delivery rt ω s 1 =
        ⟨.promptAssembly, s.scored q .regenerate⟩) ∨
      ((Delivery rt ω s 1).node = .observability ∧ (Delivery rt ω s 2).node = .answerOutput ∧
        Withheld (Delivery rt ω s 3)) := by
  rcases h with ⟨w, hlocal, hasks, hcontra⟩
  have hcap : rawScore env defaultModel s ≤ 1 / 2 := answerScore_le_half _ _ _ hcontra
  have haction := dispose_reply env defaultModel s s.regenerateCount
  rw [if_neg (by linarith), if_neg (by linarith)] at haction
  by_cases hlow : 3 / 10 - 1 / 20000 ≤ rawScore env defaultModel s
  · rw [if_pos hlow] at haction
    by_cases hspent : maxRegenerates ≤ s.regenerateCount
    · rw [if_pos hspent] at haction
      exact .inr (delivered_instead hlocal hasks hreport (.inr haction))
    · rw [if_neg hspent] at haction
      refine .inl ⟨Nat.lt_of_not_le hspent, (reply env defaultModel s).faithfulnessScore, ?_⟩
      rw [delivery_one hlocal hasks, haction]
      rfl
  · rw [if_neg hlow] at haction
    exact .inr (delivered_instead hlocal hasks hreport (.inl haction))

/-- A run that has ended stays where it is. -/
theorem delivery_finished {n : Nat} (h : (Delivery rt ω s n).node = .finish) :
    ∀ m, n ≤ m → (Delivery rt ω s m).node = .finish := by
  refine runFor_trapped (step rt) ω ⟨.hallucination, s⟩ (fun c => c.node = .finish) ?_ n h
  intro x c hc
  simp only [step, hc]

/-- A run that keeps off the renderer for a round and after it. -/
theorem renderer_free {n : Nat} (hcheck : (Delivery rt ω s n).node ≠ .answerRenderer)
    (hone : (Delivery rt ω s (n + 1)).node ≠ .answerRenderer)
    (htwo : (Delivery rt ω s (n + 2)).node ≠ .answerRenderer)
    (hlater : ∀ j, n + 3 ≤ j → (Delivery rt ω s j).node ≠ .answerRenderer) :
    ∀ j, n ≤ j → (Delivery rt ω s j).node ≠ .answerRenderer := by
  intro j hj
  rcases (by omega : j = n ∨ j = n + 1 ∨ j = n + 2 ∨ n + 3 ≤ j) with rfl | rfl | rfl | hrest
  · exact hcheck
  · exact hone
  · exact htwo
  · exact hlater j hrest

/-- A run that ends after a check. -/
theorem withheld_of_ended {n : Nat} {t : AgentState}
    (hrun : Delivery rt ω s n = ⟨.hallucination, t⟩)
    (h : (Delivery rt ω s (n + 1)).node = .observability ∧
      (Delivery rt ω s (n + 2)).node = .answerOutput ∧ Withheld (Delivery rt ω s (n + 3))) :
    (∃ m ≤ n + 3, Withheld (Delivery rt ω s m)) ∧
      ∀ j, n ≤ j → (Delivery rt ω s j).node ≠ .answerRenderer := by
  rcases h with ⟨hone, htwo, hthree⟩
  refine ⟨⟨n + 3, le_rfl, hthree⟩, renderer_free ?_ ?_ ?_ (fun j hj => ?_)⟩
  · rw [hrun]
    exact Node.noConfusion
  · rw [hone]
    exact Node.noConfusion
  · rw [htwo]
    exact Node.noConfusion
  · rw [delivery_finished hthree.1 j hj]
    exact Node.noConfusion

/-- What a run does after a check is what a run from that check does. -/
theorem delivery_add {n : Nat} {t : AgentState} (hrun : Delivery rt ω s n = ⟨.hallucination, t⟩)
    (j : Nat) : Delivery rt (fun i => ω (n + i)) t j = Delivery rt ω s (n + j) := by
  induction j with
  | zero => exact hrun.symm
  | succ j ih => exact congrArg (step rt (ω (n + j))) ih

/-- From each check on, with `k` attempts left, the run is withheld after three steps for
    each of them and three more, and does not pass the renderer on the way. -/
theorem withheld_from (h : ∀ n t, Delivery rt ω s n = ⟨.hallucination, t⟩ →
      ∃ env defaultModel, Contradicts env defaultModel (ω n) t) {k n : Nat} {t : AgentState}
    (hrun : Delivery rt ω s n = ⟨.hallucination, t⟩) (hreport : t.report.artifacts = [])
    (hleft : maxRegenerates - t.regenerateCount ≤ k) :
    (∃ m ≤ n + 3 * k + 3, Withheld (Delivery rt ω s m)) ∧
      ∀ j, n ≤ j → (Delivery rt ω s j).node ≠ .answerRenderer := by
  induction k generalizing n t with
  | zero =>
      rcases h n t hrun with ⟨env, defaultModel, hcontra⟩
      have hcheck := contradicted_withheld rt (fun i => ω (n + i)) hcontra hreport
      simp only [delivery_add hrun] at hcheck
      rcases hcheck with hagain | hended
      · exact absurd hagain.1 (by omega)
      · exact withheld_of_ended hrun hended
  | succ k ih =>
      rcases h n t hrun with ⟨env, defaultModel, hcontra⟩
      have hcheck := contradicted_withheld rt (fun i => ω (n + i)) hcontra hreport
      simp only [delivery_add hrun] at hcheck
      rcases hcheck with ⟨hcount, q, hagain⟩ | hended
      · -- The prompt is put together again, and the next answer comes to the same node.
        have hprompt : Delivery rt ω s (n + 2) =
            step rt (ω (n + 1)) (Delivery rt ω s (n + 1)) := rfl
        have hanswer : Delivery rt ω s (n + 3) =
            step rt (ω (n + 2)) (Delivery rt ω s (n + 2)) := rfl
        rw [hagain] at hprompt
        rw [hprompt] at hanswer
        have hcounted : maxRegenerates - (t.regenerateCount + 1) ≤ k := by omega
        rcases ih hanswer hreport hcounted with ⟨⟨m, hm, hwithheld⟩, hnode⟩
        refine ⟨⟨m, by omega, hwithheld⟩, renderer_free ?_ ?_ ?_ hnode⟩
        · rw [hrun]
          exact Node.noConfusion
        · rw [hagain]
          exact Node.noConfusion
        · rw [hprompt]
          exact Node.noConfusion
      · rcases withheld_of_ended hrun hended with ⟨⟨m, hm, hwithheld⟩, hnode⟩
        exact ⟨⟨m, by omega, hwithheld⟩, hnode⟩

/-- As long as every answer that is checked is sent to the gateway and the rules contradict
    a claim of it, the run is withheld in the end, and no answer comes to the renderer,
    whatever the model says. -/
theorem contradicted_never_delivered (rt : Runtime) (ω : Nat → World) (s : AgentState)
    (hreport : s.report.artifacts = [])
    (h : ∀ n t, Delivery rt ω s n = ⟨.hallucination, t⟩ →
      ∃ env defaultModel, Contradicts env defaultModel (ω n) t) :
    (∃ n ≤ 3 * (maxRegenerates - s.regenerateCount) + 3, Withheld (Delivery rt ω s n)) ∧
      ∀ n, (Delivery rt ω s n).node ≠ .answerRenderer := by
  have hfirst : Delivery rt ω s 0 = ⟨.hallucination, s⟩ := rfl
  rcases withheld_from h hfirst hreport le_rfl with ⟨⟨n, hn, hwithheld⟩, hnode⟩
  exact ⟨⟨n, by omega, hwithheld⟩, fun j => hnode j (Nat.zero_le j)⟩

/-- A state in which an answer is to be checked against one piece of evidence. -/
def checking (answer content : String) : AgentState :=
  { enforcementMode := some .shadow
    generatedAnswer := answer
    evidence := [{ evidenceId := "e1", sourceType := .rag, content := content }] }

/-- No model is set up. -/
def noModel : Services :=
  { unicode := default
    floatRepr := fun _ => ""
    modelConfig := fun _ => false
    bundle := false
    chat := fun _ => none
    jsonRepair := fun _ => none }

/-- Worlds in which an answer is checked by the local gateway without a model. -/
def localWorlds (s : AgentState) : Nat → World :=
  fun _ => { (default : World) with verifier := localWorld noModel (fun _ => none) s default }

theorem asksGateway_checking {answer content : String} (h : answer ≠ "") (w : VerifierWorld)
    (hfeature : w.featureEnabled = true) : AsksGateway w (checking answer content) :=
  ⟨h, List.cons_ne_nil _ _, hfeature, fun hmode => by cases hmode⟩

/-- Twelve is said against ten in the evidence, and one attempt is left. -/
def firstTry : AgentState :=
  { checking "收入12元" "收入10元" with regenerateCount := maxRegenerates - 1 }

/-- A world that says twelve again and checks the answer of a state. -/
def twelveWorld (s : AgentState) : World :=
  { (default : World) with
    generatedAnswer := "收入12元"
    verifier := localWorld noModel (fun _ => none) s default }

/-- The state after the answer was generated anew. -/
def secondTry : AgentState := (Delivery default (fun _ => twelveWorld firstTry) firstTry 3).state

/-- Worlds in which both answers are checked. -/
def twelveWorlds (n : Nat) : World := twelveWorld (if n < 3 then firstTry else secondTry)

theorem contradicted_never_delivered_twelve :
    (∃ n ≤ 6, Withheld (Delivery default twelveWorlds firstTry n)) ∧
      ∀ n, (Delivery default twelveWorlds firstTry n).node ≠ .answerRenderer := by
  have hfirst : Contradicts noModel (fun _ => none) (twelveWorlds 0) firstTry :=
    ⟨default, rfl, ⟨by decide, List.cons_ne_nil _ _, rfl, fun hmode => by cases hmode⟩,
      by decide +kernel⟩
  have hsecond : Contradicts noModel (fun _ => none) (twelveWorlds 3) secondTry :=
    ⟨default, rfl, ⟨by decide +kernel, by decide +kernel, rfl,
      fun hmode => absurd hmode (by decide +kernel)⟩, by decide +kernel⟩
  have hagain : Delivery default twelveWorlds firstTry 3 =
      Delivery default (fun _ => twelveWorld firstTry) firstTry 3 := rfl
  refine contradicted_never_delivered default twelveWorlds firstTry rfl (fun n t hrun => ?_)
  -- The answer is checked at the beginning and after it was generated anew.
  have hnode := congrArg Config.node hrun
  by_cases hlater : 6 ≤ n
  · have hended : (Delivery default twelveWorlds firstTry 6).node = .finish := by decide +kernel
    exact Node.noConfusion ((delivery_finished hended n hlater).symm.trans hnode)
  by_cases hzero : n = 0
  · subst hzero
    have hstate : firstTry = t := congrArg Config.state hrun
    exact ⟨noModel, fun _ => none, hstate ▸ hfirst⟩
  by_cases hthree : n = 3
  · subst hthree
    have hstate : secondTry = t := congrArg Config.state (hagain.symm.trans hrun)
    exact ⟨noModel, fun _ => none, hstate ▸ hsecond⟩
  · have hother : ∀ m < 6, m ≠ 0 → m ≠ 3 →
        (Delivery default twelveWorlds firstTry m).node ≠ .hallucination := by decide +kernel
    exact absurd hnode (hother n (by omega) hzero hthree)

/-- The claims of an answer come with their defaults. -/
theorem llmResult_of_mem_answerClaims {c : Claim} (hc : c ∈ answerClaims s) :
    c.llmResult = .supported := by
  rcases eq_of_mem_decomposeClaims hc with ⟨raw, -, rfl⟩
  rfl

/-- The edge out of the node goes to the renderer from just below the filter's threshold
    on. -/
theorem renders_iff (hlocal : (ω 0).verifier = localWorld env defaultModel s w)
    (h : AsksGateway w s) : (Delivery rt ω s 1).node = .answerRenderer ↔
      6 / 10 - 1 / 20000 ≤ rawScore env defaultModel s := by
  rw [delivery_one hlocal h, dispose_reply]
  by_cases hpass : 85 / 100 - 1 / 20000 ≤ rawScore env defaultModel s
  · rw [if_pos hpass]
    exact iff_of_true rfl (by linarith)
  rw [if_neg hpass]
  by_cases hfilter : 6 / 10 - 1 / 20000 ≤ rawScore env defaultModel s
  · rw [if_pos hfilter]
    exact iff_of_true rfl hfilter
  rw [if_neg hfilter]
  refine iff_of_false ?_ hfilter
  split_ifs <;> exact Node.noConfusion

/-- Growth that is nowhere in the evidence. -/
def unsupportedGrowth : AgentState := checking "收入10元。增长8%。" "收入10元"

/-- Every claim has one of the three verdicts. -/
theorem totalWeight_eq (docs : List RetrievedDoc) (claims : List Claim) :
    totalWeight claims = weightOf env docs .supported claims +
      weightOf env docs .notSupported claims + weightOf env docs .contradicted claims := by
  induction claims with
  | nil => rfl
  | cons c rest ih =>
      simp only [totalWeight, weightOf, List.map_cons, List.sum_cons, List.filter_cons] at ih ⊢
      rw [ih]
      cases verdictOn env docs c <;> simp <;> omega

theorem weightOf_eq_zero {docs : List RetrievedDoc} {verdict : RuleResult} {claims : List Claim}
    (h : ∀ c ∈ claims, verdictOn env docs c ≠ verdict) : weightOf env docs verdict claims = 0 := by
  have hnone : claims.filter (fun c => verdictOn env docs c = verdict) = [] :=
    List.filter_eq_nil_iff.mpr (fun c hc => by simpa using h c hc)
  rw [weightOf, hnone]
  rfl

/-- A pass takes rules that support five eighths of the answer, up to the rounding of the
    score, whatever the model says. -/
theorem passed_supported (rt : Runtime) (ω : Nat → World) (env : Services)
    (defaultModel : String → Option String) (w : VerifierWorld) (s : AgentState)
    (hlocal : (ω 0).verifier = localWorld env defaultModel s w) (hasks : AsksGateway w s)
    (hpass : (Delivery rt ω s 1).state.hallucinationAction = .pass) :
    4999 * totalWeight (answerClaims s) ≤
      8000 * weightOf env (evidenceDocs s) .supported (answerClaims s) := by
  have hscore : 85 / 100 - 1 / 20000 ≤ rawScore env defaultModel s := by
    by_contra hlow
    rw [delivery_one hlocal hasks] at hpass
    have haction : dispose (reply env defaultModel s).faithfulnessScore s.regenerateCount = .pass :=
      hpass
    rw [dispose_reply, if_neg hlow] at haction
    split_ifs at haction
  have hverdict : ∀ c ∈ answerClaims s, verdictOn env (evidenceDocs s) c ≠ .contradicted := by
    intro c hc hcontra
    have hcap : rawScore env defaultModel s ≤ 1 / 2 := answerScore_le_half _ _ _ ⟨c, hc, hcontra⟩
    linarith
  by_cases hne : answerClaims s = []
  · rw [hne]
    exact Nat.zero_le _
  have hpos : (0 : ℚ) < totalWeight (answerClaims s) := by exact_mod_cast totalWeight_pos hne
  have hopen : rawScore env defaultModel s * totalWeight (answerClaims s) ≤
      totalWeight (answerClaims s) -
        4 / 10 * weightOf env (evidenceDocs s) .notSupported (answerClaims s) :=
    answerScore_le_open env _ _ hne
  have hbound := mul_le_mul_of_nonneg_right hscore hpos.le
  -- What is not open is supported, since nothing is contradicted.
  have hsum := @totalWeight_eq env (evidenceDocs s) (answerClaims s)
  rw [weightOf_eq_zero hverdict, Nat.add_zero] at hsum
  have hopen' : 8000 * weightOf env (evidenceDocs s) .notSupported (answerClaims s) ≤
      3001 * totalWeight (answerClaims s) := by
    rw [← Nat.cast_le (α := ℚ)]
    push_cast
    linarith
  omega

/-- Income as the evidence has it. -/
def supportedIncome : AgentState := checking "收入10元" "收入10元"

theorem passed_supported_income :
    (Delivery default (localWorlds supportedIncome) supportedIncome 1).state.hallucinationAction =
        .pass ∧
      4999 * totalWeight (answerClaims supportedIncome) ≤
        8000 * weightOf noModel (evidenceDocs supportedIncome) .supported
          (answerClaims supportedIncome) := by
  have hpass : (Delivery default (localWorlds supportedIncome)
      supportedIncome 1).state.hallucinationAction = .pass := by
    decide +kernel
  exact ⟨hpass, passed_supported default (localWorlds supportedIncome) noModel (fun _ => none)
    default supportedIncome rfl (asksGateway_checking (by decide) default rfl) hpass⟩

/-- The action of the component as the node has it. -/
def Action.inGraph (regenerateCount : Nat) : Action → PolicyAction
  | .pass => .pass
  | .filter => .filter
  | .regenerate => if maxRegenerates ≤ regenerateCount then .exhausted else .regenerate
  | .refuse => .reject

/-- Two thresholds next to each other lead to the same only outside of what lies between
    them. -/
theorem threshold_iff {α : Type} {a x y : α} {θ ε q : ℚ} (hε : 0 ≤ ε) (hne : a ≠ y) :
    (if θ - ε ≤ q then a else x) = (if θ ≤ q then a else y) ↔ θ ≤ q ∨ q < θ - ε ∧ x = y := by
  by_cases hhigh : θ ≤ q
  · rw [if_pos hhigh, if_pos (by linarith)]
    exact iff_of_true rfl (.inl hhigh)
  rw [if_neg hhigh]
  by_cases hlow : θ - ε ≤ q
  · rw [if_pos hlow]
    refine iff_of_false hne (fun h => ?_)
    rcases h with h | h
    · exact hhigh h
    · exact absurd hlow (not_le.mpr h.1)
  · rw [if_neg hlow, or_iff_right hhigh, and_iff_right (not_le.mp hlow)]

end Gate

section Component

theorem contains_claimLine {claims : List Claim} {c : Claim} (hc : c ∈ claims)
    (introPrefix : Bool) :
    contains (buildConservativeAnswer claims introPrefix) ("- " ++ c.text) = true := by
  have hnil : ¬ claims.isEmpty := by
    rw [List.isEmpty_iff]
    exact List.ne_nil_of_mem hc
  rw [buildConservativeAnswer, if_neg hnil, contains_iff]
  -- The claim is the beginning of a line, and the line is joined to the others.
  have hline := (contains_iff _ _).mp (contains_join "\n"
    ((if introPrefix then "根据现有资料，已为您整理可确认的信息：" else "根据现有资料，我可以确认以下信息：") ::
      claims.map claimLine ++ ["\n对于其他未列出的部分，当前资料不足以给出可靠结论。"])
    (List.mem_append_left _ (List.mem_cons_of_mem _ (List.mem_map_of_mem hc))))
  refine List.IsInfix.trans ?_ hline
  have hstart : (claimLine c).toList = ("- " ++ c.text).toList ++
      (if c.evidence = "" then "" else "（引用：" ++ c.evidence ++ "）").toList :=
    String.toList_append
  rw [hstart]
  exact (List.prefix_append _ _).isInfix

theorem not_contains_refusal (text : String) :
    ¬ contains standardRefusal ("- " ++ text) = true := by
  rw [contains_iff, String.toList_append]
  intro h
  have hdash : '-' ∈ standardRefusal.toList :=
    h.subset (List.mem_append_left _ List.mem_cons_self)
  exact absurd hdash (by decide +kernel)

/-- Where a claim is contradicted the component neither passes nor filters, and what it
    answers shows the claim exactly if it asks for a new answer. -/
theorem contradicted_listed_iff (p : HallucinationDetectorParam) (env : Services)
    (answer query : String) (docs : List RetrievedDoc) (hpass : 1 / 2 < p.passThreshold)
    (hfilter : 1 / 2 < p.filterThreshold) {c : Claim} (hc : c ∈ decomposeClaims p answer)
    (hverdict : verdictOn env docs c = .contradicted) :
    ((detect p env answer query docs).action = .regenerate ∨
        (detect p env answer query docs).action = .refuse) ∧
      (contains (detect p env answer query docs).finalAnswer ("- " ++ c.text) = true ↔
        (detect p env answer query docs).action = .regenerate) := by
  have hcap : answerScore env docs p (decomposeClaims p answer) ≤ 1 / 2 :=
    answerScore_le_half _ _ _ ⟨c, hc, hverdict⟩
  have hnil : ¬ (decomposeClaims p answer).isEmpty := by
    rw [List.isEmpty_iff]
    exact List.ne_nil_of_mem hc
  have hdetect : (detect p env answer query docs).toDisposal =
      disposal p answer query (verifyClaims p env docs (decomposeClaims p answer))
        (answerScore env docs p (decomposeClaims p answer)) docs :=
    congrArg Outputs.toDisposal (if_neg hnil)
  rw [hdetect, disposal, if_neg (by linarith), if_neg (by linarith)]
  have hmem : verifyClaim p env docs c ∈ verifyClaims p env docs (decomposeClaims p answer) :=
    List.mem_map_of_mem hc
  have hshown := contains_claimLine hmem true
  rw [(verifyClaim_frame p env docs c).1] at hshown
  by_cases hregenerate : p.regenerateThreshold ≤ answerScore env docs p (decomposeClaims p answer) ∧
      p.enableRegeneration
  · rw [if_pos hregenerate]
    exact ⟨.inl rfl, iff_of_true hshown rfl⟩
  · rw [if_neg hregenerate]
    exact ⟨.inr rfl, iff_of_false (not_contains_refusal _) Action.noConfusion⟩

/-- A profit the evidence contradicts is listed among what is confirmed. -/
theorem contradicted_listed_profit :
    (detect {} noModel "收入10元。利润3元。" "" [{ content := "收入10元" }]).action =
        .regenerate ∧
      contains (detect {} noModel "收入10元。利润3元。" ""
        [{ content := "收入10元" }]).finalAnswer ("- " ++ "利润3元") = true := by
  have haction : (detect {} noModel "收入10元。利润3元。" ""
      [{ content := "收入10元" }]).action = .regenerate := by
    decide +kernel
  have hclaim : ∃ c ∈ decomposeClaims {} "收入10元。利润3元。",
      c.text = "利润3元" ∧
        verdictOn noModel [{ content := "收入10元" }] c = .contradicted := by
    decide +kernel
  rcases hclaim with ⟨c, hc, htext, hverdict⟩
  have hlisted := contradicted_listed_iff {} noModel "收入10元。利润3元。" ""
    [{ content := "收入10元" }] (by norm_num) (by norm_num) hc hverdict
  rw [htext] at hlisted
  exact ⟨haction, hlisted.2.mpr haction⟩

end Component

end HallucinationDetector

end AgenticRag
