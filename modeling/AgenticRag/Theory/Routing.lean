import AgenticRag.Core.IntentRouter
import AgenticRag.Lib.Driven

/-!
# Whose Tenant the Router's Model Calls Name

Runs of the intent router, any number of them at a time. A run writes its
tenant into the configuration it was given, and the router, and later the
planner, read the tenant out of the configuration they hold. The two agree
only while the objects are the same and nobody wrote in between.

`RouterState.step` is one run moving from one await to the next. Every await
counts as a point where another run may move, also those that go on without a
pause. Which way a question takes is left open: a run may end early, may have
the planner made for a plan of skills, or may ask the model. The breaker and
the timeouts make the calls fewer and are covered by a run that goes on
without one.

A run of the whole is undisturbed when no tenant is written over that another
run still has to read, and every run that is to ask finds its tenant with
those it asks. Then every call names the tenant of its run
(`calls_name_own_tenant`). Without a configuration file two requests in turn
are enough to break that, and with one two at a time
(`calls_name_other_tenant`).

## Main definitions

* `RoutePhase`, `RouterState`: Where the runs are.
* `OwnTenant`: The invariant.

## Theorems

* `step_ownTenant`: An undisturbed step keeps the invariant.
* `calls_name_own_tenant`: What holds in every undisturbed run.
-/

namespace AgenticRag

open Py

/-- Where a run is: about to read its tenant, waiting for the gateway with the
    tenant it read, or waiting for the model. The section tells which of the
    two it is asking, the object which configuration it was given. -/
inductive RoutePhase where
  | idle
  | entering (sec : Section) (config : Nat)
  | resolving (sec : Section) (config : Nat) (tenantId : Val)
  | chatting (sec : Section) (config : Nat)

/-- The configuration of a run that may still ask the planner. -/
def RoutePhase.ahead : RoutePhase → Option Nat
  | .idle => none
  | .entering _ config => some config
  | .resolving .llmRouter config _ => some config
  | .chatting .llmRouter config => some config
  | .resolving .planner _ _ => none
  | .chatting .planner _ => none

/-- A call of a model, and the tenant it names. -/
structure LlmCall where
  request : Nat
  asked : Section
  tenantId : Val

/-- The routers and their requests. -/
structure RouterState where
  routing : Routing := {}
  phase : Nat → RoutePhase := fun _ => .idle
  calls : List LlmCall := []

/-- How a run goes on: it ends, it ends with a plan of skills, for which the
    planner is made, or it asks the next model. -/
inductive Next where
  | ends
  | skillPlan
  | asks
  deriving DecidableEq, Repr

/-- What a run does from one await to the next. -/
inductive RouteEvent where
  | start (r : Nat) (file : ConfigFile) (next : Next)
  | read (r : Nat)
  | chat (r : Nat)
  | advance (r : Nat) (next : Next)

namespace RouterState

/-- A request goes on. -/
def setPhase (s : RouterState) (r : Nat) (phase : RoutePhase) : RouterState :=
  { s with phase := Function.update s.phase r phase }

/-- The node up to its first await: load the configuration, write the tenant,
    and go on to the router, unless the question is answered earlier. -/
def start (s : RouterState) (tenantId : String) (r : Nat) (file : ConfigFile) (next : Next) :
    RouterState :=
  let loaded := s.routing.load file
  let written := loaded.1.injectBoth loaded.2 tenantId
  if written.2 then { s with routing := written.1 }
  else
    match next with
    | .ends => { s with routing := written.1 }
    | .skillPlan => { s with routing := written.1.getPlanner loaded.2 }
    | .asks => { s with routing := written.1.getLlmRouter loaded.2 }.setPhase r
        (.entering .llmRouter loaded.2)

/-- Router or planner reads the tenant. Where that raises there is no call. -/
def read (s : RouterState) (r : Nat) (sec : Section) (config : Nat) : RouterState :=
  match s.routing.tenantRead sec with
  | some tenantId => s.setPhase r (.resolving sec config tenantId)
  | none => s.setPhase r (.chatting sec config)

/-- The gateway is there, and the call is made. -/
def chat (s : RouterState) (r : Nat) (sec : Section) (config : Nat) (tenantId : Val) :
    RouterState :=
  let called : RouterState := { s with calls := s.calls ++ [⟨r, sec, tenantId⟩] }
  called.setPhase r (.chatting sec config)

/-- The router has decided, whether or not the model answered. -/
def routed (s : RouterState) (r : Nat) (config : Nat) : Next → RouterState
  | .ends => s.setPhase r .idle
  | .skillPlan => { s with routing := s.routing.getPlanner config }.setPhase r .idle
  | .asks => { s with routing := s.routing.getPlanner config }.setPhase r
      (.entering .planner config)

/-- One step of a run. There is none where the run is not at a point to take
    it. -/
def step (tenantOf : Nat → String) (s : RouterState) : RouteEvent → Option RouterState
  | .start r file next =>
      match s.phase r with
      | .idle => some (s.start (tenantOf r) r file next)
      | _ => none
  | .read r =>
      match s.phase r with
      | .entering sec config => some (s.read r sec config)
      | _ => none
  | .chat r =>
      match s.phase r with
      | .resolving sec config tenantId => some (s.chat r sec config tenantId)
      | _ => none
  | .advance r next =>
      match s.phase r with
      | .idle => none
      | .entering .llmRouter config => some (s.routed r config next)
      | .resolving .llmRouter config _ => some (s.routed r config next)
      | .chatting .llmRouter config => some (s.routed r config next)
      | .entering .planner _ => some (s.setPhase r .idle)
      | .resolving .planner _ _ => some (s.setPhase r .idle)
      | .chatting .planner _ => some (s.setPhase r .idle)

end RouterState

/-- The configurations a run still has to read its tenant from: the router's
    before the router reads, and the planner's, or its own if it may have the
    planner made. -/
def RoutePhase.Reads (rt : Routing) (phase : RoutePhase) (c : Nat) : Prop :=
  phase.ahead = some c ∨ (phase.ahead.isSome ∧ rt.planner = some c) ∨
    ((∃ config, phase = .entering .llmRouter config) ∧ rt.llmRouter = some c)

variable (tenantOf : Nat → String)

/-- The step of a run writes over no tenant that another run has to read, has
    the planner made only among runs of one tenant, and leads to a model only
    where the tenant will be read. -/
def Undisturbed (s : RouterState) : RouteEvent → Prop
  | .start r file next =>
      let loaded := s.routing.load file
      (∀ q, (s.phase q).Reads s.routing loaded.2 → tenantOf q = tenantOf r) ∧
      -- Router and planner hold this object, or the tenant already.
      (next = .asks → ∀ sec, loaded.1.HasSectionAt loaded.2 sec ∧
        ∀ c, s.routing.reader sec = some c →
          c = loaded.2 ∨ s.routing.Holds sec c (tenantOf r)) ∧
      (next = .skillPlan → s.routing.planner = none →
        ∀ q, (s.phase q).ahead.isSome →
          tenantOf q = tenantOf r ∧ loaded.1.HasSectionAt loaded.2 .planner)
  | .advance r next =>
      next ≠ .ends → s.routing.planner = none →
        ∀ q, (s.phase q).ahead.isSome → tenantOf q = tenantOf r
  | _ => True

/-- A run finds a tenant wherever it has to read its own. -/
structure Finds (rt : Routing) (tenantId : String) (phase : RoutePhase) : Prop where
  router : ∀ config, phase = .entering .llmRouter config →
    ∃ c, rt.llmRouter = some c ∧ rt.Holds .llmRouter c tenantId
  made : ∀ config, phase = .entering .planner config → rt.planner ≠ none
  config : ∀ config, phase.ahead = some config → rt.Holds .planner config tenantId
  planner : phase.ahead.isSome → ∀ c, rt.planner = some c → rt.Holds .planner c tenantId
  resolved : ∀ sec config v, phase = .resolving sec config v → v = .str tenantId

/-- Every run finds its own tenant, and every call named it. -/
structure OwnTenant (s : RouterState) : Prop where
  runs : ∀ r, Finds s.routing (tenantOf r) (s.phase r)
  calls : ∀ call ∈ s.calls, call.tenantId = .str (tenantOf call.request)

section Invariant

variable {tenantOf} {rt : Routing} {tenantId : String} {phase : RoutePhase}

/-- A run with nothing left to read finds what it needs. -/
theorem finds_of_nothing_ahead (hahead : phase.ahead = none)
    (hentering : ∀ sec config, phase ≠ .entering sec config)
    (hresolving : ∀ sec config v, phase ≠ .resolving sec config v) :
    Finds rt tenantId phase := by
  refine ⟨?_, ?_, ?_, ?_, ?_⟩
  · intro config h
    exact absurd h (hentering _ _)
  · intro config h
    exact absurd h (hentering _ _)
  · intro config h
    rw [hahead] at h
    cases h
  · intro h
    rw [hahead] at h
    cases h
  · intro sec config v h
    exact absurd h (hresolving _ _ _)

theorem finds_idle : Finds rt tenantId .idle :=
  finds_of_nothing_ahead rfl nofun nofun

/-- Waiting for the planner's model there is nothing left to read. -/
theorem finds_chatting_planner {config : Nat} :
    Finds rt tenantId (.chatting .planner config) :=
  finds_of_nothing_ahead rfl nofun nofun

/-- Another run wrote its tenant. -/
theorem Finds.written (h : Finds rt tenantId phase) (file : ConfigFile) (tenantId' : String)
    (hsame : phase.Reads rt (rt.load file).2 → tenantId = tenantId') :
    Finds ((rt.load file).1.injectBoth (rt.load file).2 tenantId').1 tenantId phase := by
  have hreader : ((rt.load file).1.injectBoth (rt.load file).2 tenantId').1.reader = rt.reader :=
    (Routing.injectBoth_reader _ _ _).trans (Routing.load_eq rt file).1
  have hrouter := congrFun hreader .llmRouter
  have hplanner := congrFun hreader .planner
  dsimp only [Routing.reader] at hrouter hplanner
  -- What is read and held stays held.
  have hkeep : ∀ sec c, phase.Reads rt c → rt.Holds sec c tenantId →
      ((rt.load file).1.injectBoth (rt.load file).2 tenantId').1.Holds sec c tenantId := by
    intro sec c hreads hholds
    refine hholds.load.injectBoth ?_
    intro heq
    exact hsame (heq ▸ hreads)
  refine ⟨?_, ?_, ?_, ?_, h.resolved⟩
  · intro config hphase
    rcases h.router config hphase with ⟨c, hc, hholds⟩
    exact ⟨c, hrouter.trans hc, hkeep _ c (.inr (.inr ⟨⟨config, hphase⟩, hc⟩)) hholds⟩
  · intro config hphase
    rw [hplanner]
    exact h.made config hphase
  · intro config hahead
    exact hkeep _ config (.inl hahead) (h.config config hahead)
  · intro hahead c hc
    rw [hplanner] at hc
    exact hkeep _ c (.inr (.inl ⟨hahead, hc⟩)) (h.planner hahead c hc)

theorem Finds.getLlmRouter (h : Finds rt tenantId phase) (o : Nat) :
    Finds (rt.getLlmRouter o) tenantId phase := by
  refine ⟨?_, h.made, h.config, h.planner, h.resolved⟩
  intro config hphase
  rcases h.router config hphase with ⟨c, hc, hholds⟩
  refine ⟨c, ?_, hholds⟩
  simp [Routing.getLlmRouter, hc]

/-- The planner is made with a configuration that holds the tenant, if the run
    may ask it. -/
theorem Finds.getPlanner (h : Finds rt tenantId phase) (o : Nat)
    (hnew : rt.planner = none → phase.ahead.isSome → rt.Holds .planner o tenantId) :
    Finds (rt.getPlanner o) tenantId phase := by
  refine ⟨h.router, ?_, h.config, ?_, h.resolved⟩
  · intro config hphase
    simp [Routing.getPlanner]
  · intro hahead c hc
    cases hplanner : rt.planner with
    | none =>
        have hco : c = o := by simpa [Routing.getPlanner, hplanner] using hc.symm
        rw [hco]
        exact hnew hplanner hahead
    | some p =>
        have hcp : c = p := by simpa [Routing.getPlanner, hplanner] using hc.symm
        rw [hcp]
        exact h.planner hahead p hplanner

variable {s : RouterState}

/-- A run moves on, and the others stay where they are. -/
theorem OwnTenant.setPhase (h : OwnTenant tenantOf s) {r : Nat} {phase : RoutePhase}
    (hown : Finds s.routing (tenantOf r) phase) : OwnTenant tenantOf (s.setPhase r phase) := by
  refine ⟨?_, h.calls⟩
  intro q
  by_cases hqr : q = r
  · rw [hqr]
    simpa [RouterState.setPhase] using hown
  · simpa [RouterState.setPhase, hqr] using h.runs q

theorem OwnTenant.setRouting (h : OwnTenant tenantOf s) {rt : Routing}
    (hruns : ∀ q, Finds rt (tenantOf q) (s.phase q)) :
    OwnTenant tenantOf { s with routing := rt } :=
  ⟨hruns, h.calls⟩

theorem OwnTenant.start (h : OwnTenant tenantOf s) {r : Nat} (hne : tenantOf r ≠ "")
    (file : ConfigFile) (next : Next) (hcalm : Undisturbed tenantOf s (.start r file next)) :
    OwnTenant tenantOf (s.start (tenantOf r) r file next) := by
  rcases hcalm with ⟨hothers, hasks, hskill⟩
  have hwritten : ∀ q, Finds
      ((s.routing.load file).1.injectBoth (s.routing.load file).2 (tenantOf r)).1
      (tenantOf q) (s.phase q) :=
    fun q => (h.runs q).written file (tenantOf r) (hothers q)
  have hreader : ((s.routing.load file).1.injectBoth (s.routing.load file).2
      (tenantOf r)).1.reader = s.routing.reader :=
    (Routing.injectBoth_reader _ _ _).trans (Routing.load_eq s.routing file).1
  unfold RouterState.start
  dsimp only
  split_ifs with hraised
  · exact h.setRouting hwritten
  have hok := Bool.eq_false_iff.mpr hraised
  cases next with
  | ends => exact h.setRouting hwritten
  | skillPlan =>
      refine h.setRouting (fun q => (hwritten q).getPlanner _ ?_)
      intro hnone hahead
      have hplanner := congrFun hreader .planner
      rcases hskill rfl (hplanner.symm.trans hnone) q hahead with ⟨hsame, hsec⟩
      rw [hsame]
      exact hsec.injectBoth hne hok
  | asks =>
      have hrouting := h.setRouting
        (fun q => (hwritten q).getLlmRouter (s.routing.load file).2)
      -- Both readers find the tenant that was written, or had it.
      have hfound : ∀ sec c, s.routing.reader sec = some c ∨ c = (s.routing.load file).2 →
          ((s.routing.load file).1.injectBoth (s.routing.load file).2 (tenantOf r)).1.Holds
            sec c (tenantOf r) := by
        intro sec c hc
        rcases hasks rfl sec with ⟨hsec, hreads⟩
        have hnew := hsec.injectBoth hne hok
        rcases hc with hc | hc
        · rcases hreads c hc with heq | hholds
          · rw [heq]
            exact hnew
          · exact hholds.load.injectBoth (fun _ => rfl)
        · rw [hc]
          exact hnew
      refine hrouting.setPhase ⟨?_, ?_, ?_, ?_, ?_⟩
      · intro config _
        refine ⟨_, rfl, hfound .llmRouter _ ?_⟩
        have hrouter := congrFun hreader .llmRouter
        dsimp only [Routing.reader] at hrouter ⊢
        rw [hrouter]
        cases s.routing.llmRouter with
        | none => exact .inr rfl
        | some c => exact .inl rfl
      · intro config hphase
        cases hphase
      · intro config hahead
        exact hfound .planner config (.inr (Option.some.inj hahead).symm)
      · intro _ c hc
        exact hfound .planner c (.inl ((congrFun hreader .planner).symm.trans hc))
      · intro sec config v hphase
        cases hphase

/-- Router and planner read the tenant of the run. -/
theorem OwnTenant.tenantRead (h : OwnTenant tenantOf s) {r config : Nat} {sec : Section}
    (hphase : s.phase r = .entering sec config) :
    s.routing.tenantRead sec = some (.str (tenantOf r)) := by
  have hreads : ∃ c, s.routing.reader sec = some c ∧ s.routing.Holds sec c (tenantOf r) := by
    cases sec with
    | llmRouter => exact (h.runs r).router config hphase
    | planner =>
        rcases Option.ne_none_iff_exists'.mp ((h.runs r).made config hphase) with ⟨c, hc⟩
        exact ⟨c, hc, (h.runs r).planner (by rw [hphase]; rfl) c hc⟩
  rcases hreads with ⟨c, hc, o, ho, htenant⟩
  simp [Routing.tenantRead, hc, ho, htenant]

theorem OwnTenant.read (h : OwnTenant tenantOf s) {r config : Nat} {sec : Section}
    (hphase : s.phase r = .entering sec config) : OwnTenant tenantOf (s.read r sec config) := by
  unfold RouterState.read
  rw [h.tenantRead hphase]
  have hold := h.runs r
  rw [hphase] at hold
  refine h.setPhase ⟨?_, ?_, ?_, ?_, ?_⟩
  · intro config' heq
    cases heq
  · intro config' heq
    cases heq
  · intro config' hahead
    cases sec with
    | llmRouter => exact hold.config config' hahead
    | planner => cases hahead
  · intro hahead
    cases sec with
    | llmRouter => exact hold.planner rfl
    | planner => cases hahead
  · intro sec' config' v heq
    cases heq
    rfl

theorem OwnTenant.chat (h : OwnTenant tenantOf s) {r config : Nat} {sec : Section} {v : Val}
    (hphase : s.phase r = .resolving sec config v) :
    OwnTenant tenantOf (s.chat r sec config v) := by
  have hold := h.runs r
  rw [hphase] at hold
  have hcalled : OwnTenant tenantOf { s with calls := s.calls ++ [⟨r, sec, v⟩] } := by
    refine ⟨h.runs, ?_⟩
    intro call hcall
    rcases List.mem_append.mp hcall with hbefore | hnew
    · exact h.calls call hbefore
    · rw [List.mem_singleton.mp hnew]
      exact hold.resolved sec config v rfl
  refine hcalled.setPhase ?_
  cases sec with
  | llmRouter =>
      refine ⟨?_, ?_, hold.config, hold.planner, ?_⟩
      · intro config' heq
        cases heq
      · intro config' heq
        cases heq
      · intro sec' config' v' heq
        cases heq
  | planner => exact finds_chatting_planner

/-- The router has decided. If the planner is made, it is made among runs of
    one tenant. -/
theorem OwnTenant.routed (h : OwnTenant tenantOf s) {r config : Nat} (next : Next)
    (hahead : (s.phase r).ahead = some config)
    (hcalm : Undisturbed tenantOf s (.advance r next)) :
    OwnTenant tenantOf (s.routed r config next) := by
  have hconfig := (h.runs r).config config hahead
  have hplanner : next ≠ .ends →
      OwnTenant tenantOf { s with routing := s.routing.getPlanner config } := by
    intro hne
    refine h.setRouting (fun q => (h.runs q).getPlanner config ?_)
    intro hnone hq
    rw [hcalm hne hnone q hq]
    exact hconfig
  cases next with
  | ends => exact h.setPhase finds_idle
  | skillPlan => exact (hplanner (by simp)).setPhase finds_idle
  | asks =>
      have hmade := hplanner (by simp)
      refine hmade.setPhase ⟨?_, ?_, ?_, ?_, ?_⟩
      · intro config' heq
        cases heq
      · intro config' _
        simp [Routing.getPlanner]
      · intro config' heq
        rw [← Option.some.inj heq]
        exact hconfig
      · intro _
        exact (hmade.runs r).planner (by rw [hahead]; rfl)
      · intro sec' config' v heq
        cases heq

/-- An undisturbed step keeps the invariant. -/
theorem step_ownTenant (hne : ∀ r, tenantOf r ≠ "") (s : RouterState) (e : RouteEvent)
    (s' : RouterState) (hcalm : Undisturbed tenantOf s e) (hstep : s.step tenantOf e = some s')
    (h : OwnTenant tenantOf s) : OwnTenant tenantOf s' := by
  cases e with
  | start r file next =>
      dsimp only [RouterState.step] at hstep
      split at hstep
      next =>
        rw [← Option.some.inj hstep]
        exact h.start (hne r) file next hcalm
      next => cases hstep
  | read r =>
      dsimp only [RouterState.step] at hstep
      split at hstep
      next sec config hphase =>
        rw [← Option.some.inj hstep]
        exact h.read hphase
      next => cases hstep
  | chat r =>
      dsimp only [RouterState.step] at hstep
      split at hstep
      next sec config v hphase =>
        rw [← Option.some.inj hstep]
        exact h.chat hphase
      next => cases hstep
  | advance r next =>
      dsimp only [RouterState.step] at hstep
      cases hphase : s.phase r with
      | idle =>
          rw [hphase] at hstep
          cases hstep
      | entering sec config =>
          cases sec <;> rw [hphase] at hstep <;> rw [← Option.some.inj hstep]
          · exact h.routed next (by rw [hphase]; rfl) hcalm
          · exact h.setPhase finds_idle
      | resolving sec config v =>
          cases sec <;> rw [hphase] at hstep <;> rw [← Option.some.inj hstep]
          · exact h.routed next (by rw [hphase]; rfl) hcalm
          · exact h.setPhase finds_idle
      | chatting sec config =>
          cases sec <;> rw [hphase] at hstep <;> rw [← Option.some.inj hstep]
          · exact h.routed next (by rw [hphase]; rfl) hcalm
          · exact h.setPhase finds_idle

theorem ownTenant_initial : OwnTenant tenantOf {} := by
  refine ⟨fun r => finds_idle, ?_⟩
  intro call hcall
  cases hcall

end Invariant

/-- In every undisturbed run every call of a model, the router's and the
    planner's, names the tenant of the request it is made for. -/
theorem calls_name_own_tenant (hne : ∀ r, tenantOf r ≠ "") (events : List RouteEvent)
    (s : RouterState)
    (h : Driven.Run (RouterState.step tenantOf) (Undisturbed tenantOf) {} events s) :
    ∀ call ∈ s.calls, call.tenantId = .str (tenantOf call.request) := by
  have hown : OwnTenant tenantOf s := h.invariant (step_ownTenant hne) ownTenant_initial
  exact hown.calls

/-- Nobody is under way, and router and planner hold the configuration that
    is loaded, which has both sections. -/
theorem undisturbed_start_of_idle {s : RouterState} {r : Nat} {file : ConfigFile} {next : Next}
    (hidle : ∀ q, s.phase q = .idle)
    (hsec : ∀ sec, (s.routing.load file).1.HasSectionAt (s.routing.load file).2 sec)
    (hreader : ∀ sec c, s.routing.reader sec = some c → c = (s.routing.load file).2) :
    Undisturbed tenantOf s (.start r file next) := by
  refine ⟨?_, ?_, ?_⟩
  · intro q hreads
    rw [hidle q] at hreads
    rcases hreads with h | ⟨h, _⟩ | ⟨⟨_, h⟩, _⟩ <;> cases h
  · intro _ sec
    exact ⟨hsec sec, fun c hc => .inl (hreader sec c hc)⟩
  · intro _ _ q hahead
    rw [hidle q] at hahead
    cases hahead

theorem undisturbed_advance_of_alone {s : RouterState} {r : Nat} {next : Next}
    (hidle : ∀ q, q ≠ r → s.phase q = .idle) : Undisturbed tenantOf s (.advance r next) := by
  intro _ _ q hahead
  by_cases hq : q = r
  · rw [hq]
  · rw [hidle q hq] at hahead
    cases hahead

/-- Two requests of two tenants. -/
def tenantOfRun (r : Nat) : String := if r = 0 then "a" else "b"

/-- A configuration file that stays as it is. -/
def configFile : ConfigFile := .file (some 1) (some defaultConfig)

/-- Two requests in turn. -/
def routedInTurn : List RouteEvent :=
  [.start 0 configFile .asks, .read 0, .chat 0, .advance 0 .asks, .read 0, .chat 0,
    .advance 0 .ends, .start 1 configFile .asks, .read 1, .chat 1]

/-- One request after the other, with a file, is undisturbed. -/
theorem calls_name_own_tenant_inTurn :
    (∀ r, tenantOfRun r ≠ "") ∧
    ∃ s, Driven.Run (RouterState.step tenantOfRun) (Undisturbed tenantOfRun) {} routedInTurn s ∧
      s.calls = [⟨0, .llmRouter, .str "a"⟩, ⟨0, .planner, .str "a"⟩, ⟨1, .llmRouter, .str "b"⟩] ∧
      ∀ call ∈ s.calls, call.tenantId = .str (tenantOfRun call.request) := by
  have hne : ∀ r, tenantOfRun r ≠ "" := by
    intro r
    unfold tenantOfRun
    split_ifs <;> decide
  have hrun : ∃ s,
      Driven.Run (RouterState.step tenantOfRun) (Undisturbed tenantOfRun) {} routedInTurn s ∧
        s.calls = [⟨0, .llmRouter, .str "a"⟩, ⟨0, .planner, .str "a"⟩,
          ⟨1, .llmRouter, .str "b"⟩] := by
    refine ⟨_, .cons ?_ rfl (.cons trivial rfl (.cons trivial rfl (.cons ?_ rfl (.cons trivial rfl
      (.cons trivial rfl (.cons ?_ rfl (.cons ?_ rfl (.cons trivial rfl (.cons trivial rfl
      (.nil _)))))))))), rfl⟩
    · refine undisturbed_start_of_idle tenantOfRun (fun _ => rfl) ?_ ?_
      · intro sec
        cases sec <;> exact ⟨_, rfl, _, _, rfl, rfl⟩
      · intro sec c hc
        cases sec <;> cases hc
    · refine undisturbed_advance_of_alone tenantOfRun ?_
      intro q hq
      repeat refine (Function.update_of_ne hq _ _).trans ?_
      rfl
    · intro h
      exact absurd rfl h
    · refine undisturbed_start_of_idle tenantOfRun ?_ ?_ ?_
      · intro q
        by_cases hq : q = 0
        · rw [hq]
          rfl
        · repeat refine (Function.update_of_ne hq _ _).trans ?_
          rfl
      · intro sec
        cases sec <;> exact ⟨_, rfl, _, _, rfl, rfl⟩
      · intro sec c hc
        cases sec <;> exact (Option.some.inj hc).symm
  rcases hrun with ⟨s, hrun, hcalls⟩
  exact ⟨hne, s, hrun, hcalls, calls_name_own_tenant tenantOfRun hne routedInTurn s hrun⟩

/-- Two requests without settings. -/
def withoutFile : List RouteEvent :=
  [.start 0 .missing .asks, .read 0, .chat 0, .advance 0 .ends,
    .start 1 .missing .asks, .read 1, .chat 1]

/-- Two requests, interleaved. -/
def withFile : List RouteEvent :=
  [.start 0 configFile .asks, .read 0, .chat 0, .start 1 configFile .asks,
    .advance 0 .asks, .read 0, .chat 0]

/-- Without a file the second request's call names the first one's tenant,
    since the router keeps the configuration it was made with. With a file the
    second request writes over the tenant before the first one's planner reads
    it. -/
theorem calls_name_other_tenant :
    (∃ s, Driven.Run (RouterState.step tenantOfRun) (fun _ _ => True) {} withoutFile s ∧
      s.calls = [⟨0, .llmRouter, .str "a"⟩, ⟨1, .llmRouter, .str "a"⟩] ∧
      ¬ ∀ call ∈ s.calls, call.tenantId = .str (tenantOfRun call.request)) ∧
    (∃ s, Driven.Run (RouterState.step tenantOfRun) (fun _ _ => True) {} withFile s ∧
      s.calls = [⟨0, .llmRouter, .str "a"⟩, ⟨0, .planner, .str "b"⟩] ∧
      ¬ ∀ call ∈ s.calls, call.tenantId = .str (tenantOfRun call.request)) := by
  constructor
  · refine ⟨_, .cons trivial rfl (.cons trivial rfl (.cons trivial rfl (.cons trivial rfl
      (.cons trivial rfl (.cons trivial rfl (.cons trivial rfl (.nil _))))))), rfl, ?_⟩
    intro hall
    have hcall := hall ⟨1, .llmRouter, .str "a"⟩ (List.mem_cons_of_mem _ (List.mem_singleton_self _))
    simp [tenantOfRun] at hcall
  · refine ⟨_, .cons trivial rfl (.cons trivial rfl (.cons trivial rfl (.cons trivial rfl
      (.cons trivial rfl (.cons trivial rfl (.cons trivial rfl (.nil _))))))), rfl, ?_⟩
    intro hall
    have hcall := hall ⟨0, .planner, .str "b"⟩ (List.mem_cons_of_mem _ (List.mem_singleton_self _))
    simp [tenantOfRun] at hcall

end AgenticRag
