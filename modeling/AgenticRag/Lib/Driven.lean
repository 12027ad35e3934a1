import Mathlib.Data.Nat.Count

/-!
# Driven Machines

Deterministic machines whose every step consumes one input from outside. The
inputs stand for whatever the machine does not control: the answer of a
service, the output of a model, the reading of a clock. A run is fixed by its
start state and the stream of inputs, so a statement about every run is a
statement about every stream.

`runFor_measure` is the termination rule. It does not ask for a measure that
falls at every step from every state; it asks only that along the run in
question each step either lands on a final state or makes the measure fall.
That is what lets a termination proof assume a condition on the steps the run
actually takes.

`runFor_trapped` is its converse. A set of states closed under every step and
holding no final state is never left, whatever the inputs say.

`count_add_potential_le` bounds how often a kind of step happens. A potential
that never rises and falls at every counted step pays for each of them, so
the count stays below what the run started with.

A machine may also refuse an input. `Run` follows one along a list of inputs,
each of which it takes and each of which meets a condition on the state
before it, and `Run.invariant` is the rule for what holds along every such
run.

## Main definitions

* `runFor`: The state after a number of steps.
* `follow`: The state such a run ends in, if it can be taken.

## Theorems

* `Run.invariant`: What every step keeps holds at the end of the run.
* `run_of_follow`: Inputs that can be taken one by one make a run.
-/

namespace AgenticRag

namespace Driven

variable {ι σ : Type*}

/-- The state after `n` steps, the step at index `i` consuming input `ω i`. -/
def runFor (step : ι → σ → σ) (ω : Nat → ι) (s : σ) : Nat → σ
  | 0 => s
  | n + 1 => step (ω n) (runFor step ω s n)

/-- A measure that falls until a final state is reached forces one, within as
    many steps as the measure started with. -/
theorem runFor_measure (step : ι → σ → σ) (ω : Nat → ι) (s : σ)
    (Final : σ → Prop) (μ : σ → Nat)
    (hfall : ∀ n, Final (runFor step ω s n) ∨
      μ (runFor step ω s (n + 1)) < μ (runFor step ω s n)) :
    ∃ n, n ≤ μ s ∧ Final (runFor step ω s n) := by
  by_contra hnone
  -- With no final state among them, every step costs a unit of the measure.
  have hcost : ∀ n, n ≤ μ s + 1 → μ (runFor step ω s n) + n ≤ μ s := by
    intro n
    induction n with
    | zero => intro _; exact Nat.le_refl _
    | succ k ih =>
        intro hk
        have hprev := ih (by omega)
        rcases hfall k with hfin | hlt
        · exact absurd ⟨k, by omega, hfin⟩ hnone
        · omega
  -- One step more than the measure allows is one too many.
  have hover := hcost (μ s + 1) (Nat.le_refl _)
  omega

/-- A set closed under every step is never left once entered. -/
theorem runFor_trapped (step : ι → σ → σ) (ω : Nat → ι) (s : σ) (T : σ → Prop)
    (hclosed : ∀ i t, T t → T (step i t)) (n : Nat) (hn : T (runFor step ω s n)) :
    ∀ m, n ≤ m → T (runFor step ω s m) := by
  intro m hm
  induction m, hm using Nat.le_induction with
  | base => exact hn
  | succ k _ ih => exact hclosed (ω k) _ ih

/-- A potential that never rises along the run, and falls at every counted
    step, pays for the counted steps. -/
theorem count_add_potential_le (step : ι → σ → σ) (ω : Nat → ι) (s : σ)
    (φ : σ → Nat) (C : Nat → Prop) [DecidablePred C]
    (hle : ∀ n, φ (runFor step ω s (n + 1)) ≤ φ (runFor step ω s n))
    (hlt : ∀ n, C n → φ (runFor step ω s (n + 1)) < φ (runFor step ω s n)) (n : Nat) :
    Nat.count C n + φ (runFor step ω s n) ≤ φ s := by
  induction n with
  | zero => simp only [Nat.count_zero, Nat.zero_add, runFor, Nat.le_refl]
  | succ k ih =>
      rw [Nat.count_succ]
      by_cases hc : C k
      -- A counted step adds one to the count and takes one from the potential.
      · have hfall := hlt k hc
        rw [if_pos hc]
        omega
      · have hkeep := hle k
        rw [if_neg hc]
        omega

/-- A run that takes every input of a list. Each input meets the condition at
    the state it is taken in. -/
inductive Run (step : σ → ι → Option σ) (P : σ → ι → Prop) : σ → List ι → σ → Prop where
  | nil (s : σ) : Run step P s [] s
  | cons {s s' t : σ} {i : ι} {is : List ι} (hmeets : P s i) (hstep : step s i = some s')
      (hrest : Run step P s' is t) : Run step P s (i :: is) t

/-- What every step keeps holds at the end of the run. -/
theorem Run.invariant {step : σ → ι → Option σ} {P : σ → ι → Prop} {I : σ → Prop}
    (hkeep : ∀ s i s', P s i → step s i = some s' → I s → I s') {s t : σ} {is : List ι}
    (h : Run step P s is t) (hs : I s) : I t := by
  induction h with
  | nil => exact hs
  | cons hmeets hstep _ ih => exact ih (hkeep _ _ _ hmeets hstep hs)

/-- Where no step is refused along the way, a list of inputs that meet the condition
    is a run. -/
theorem exists_run {step : σ → ι → Option σ} {P : σ → ι → Prop} {I : σ → Prop}
    (htakes : ∀ s i, P s i → I s → ∃ s', step s i = some s')
    (hkeep : ∀ s i s', P s i → step s i = some s' → I s → I s') (is : List ι)
    (hmeets : ∀ s, ∀ i ∈ is, P s i) {s : σ} (hs : I s) : ∃ t, Run step P s is t := by
  induction is generalizing s with
  | nil => exact ⟨s, .nil s⟩
  | cons i rest ih =>
      have hmeet := hmeets s i List.mem_cons_self
      rcases htakes s i hmeet hs with ⟨s', hstep⟩
      have hrest := fun s j hj => hmeets s j (List.mem_cons_of_mem i hj)
      rcases ih hrest (hkeep s i s' hmeet hstep hs) with ⟨t, hrun⟩
      exact ⟨t, .cons hmeet hstep hrun⟩

/-- Take the inputs of a list as long as they meet the condition. -/
def follow (step : σ → ι → Option σ) (P : σ → ι → Prop) [∀ s i, Decidable (P s i)] :
    σ → List ι → Option σ
  | s, [] => some s
  | s, i :: is => if P s i then (step s i).bind (fun s' => follow step P s' is) else none

theorem run_of_follow {step : σ → ι → Option σ} {P : σ → ι → Prop} [∀ s i, Decidable (P s i)]
    {is : List ι} {s t : σ} (h : follow step P s is = some t) : Run step P s is t := by
  induction is generalizing s with
  | nil => exact Option.some.inj h ▸ .nil s
  | cons i rest ih =>
      rw [follow] at h
      split at h
      next hmeets =>
        rcases Option.bind_eq_some_iff.mp h with ⟨s', hstep, hrest⟩
        exact .cons hmeets hstep (ih hrest)
      · cases h

end Driven

end AgenticRag
