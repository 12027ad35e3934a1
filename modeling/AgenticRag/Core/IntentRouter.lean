import AgenticRag.Lib.PyVal

/-!
# The Intent Router's Configuration

The intent router asks a model which tool a question is for, and for a complex
question it asks another for a plan. Both calls name the tenant who pays for
them. The tenant does not travel with the call: each run of the node writes it
into the configuration, under the sections of the router and of the planner,
and router and planner read it there.

The configuration is an object, and what matters about it is its identity. The
loader returns the object it made last while the file has not changed, and a
new one when there is no file. The router and the planner are made once, and
keep the object they were made with. `Routing` therefore names every
configuration object by its place in the list of those made so far.

## Main definitions

* `tenantIn`: The tenant a section of a configuration holds.
* `Routing.getLlmRouter`, `Routing.getPlanner`: The two that are made once.

## Theorems

* `Routing.Holds.injectBoth`: A tenant stays unless another is written over.
* `Routing.Holds.load`: Loading changes no object.
-/

namespace AgenticRag

open Py Ordered

/-- The two sections that name a tenant. -/
inductive Section where
  | llmRouter
  | planner
  deriving DecidableEq, Repr

/-- The name of a section. -/
def Section.key : Section → String
  | .llmRouter => "llm_router"
  | .planner => "planner"

theorem Section.key_injective {a b : Section} (h : a.key = b.key) : a = b := by
  cases a <;> cases b <;> simp_all [Section.key]

/-- The tenant a section holds. A section that is missing reads as an empty
    one; where the configuration or the section is no mapping, reading
    raises. -/
def tenantIn (sec : Section) : Val → Option Val
  | .dict config =>
      match (config.lookup sec.key).getD (.dict []) with
      | .dict fields => some ((fields.lookup "tenant_id").getD (.str ""))
      | _ => none
  | _ => none

/-- Write a tenant into a section. What is written into a section that is
    missing is lost, since reading it made a mapping of its own. -/
def injectTenant (sec : Section) (tenantId : String) : Val → Option Val
  | .dict config =>
      match config.lookup sec.key with
      | none => some (.dict config)
      | some (.dict fields) =>
          some (.dict (dictSet sec.key (.dict (dictSet "tenant_id" (.str tenantId) fields)) config))
      | some _ => none
  | _ => none

/-- Whether a configuration has the section, as a mapping. -/
def HasSection (sec : Section) (config : Val) : Prop :=
  ∃ kvs fields, config = .dict kvs ∧ kvs.lookup sec.key = some (.dict fields)

/-- The two sections of the configuration that is used without a file. -/
def defaultConfig : Val :=
  .dict
    [("llm_router", .dict
      [("enabled", .bool true), ("tenant_id", .str ""), ("model_id", .str "qwen3.5-9b"),
        ("prompt_version", .str "v1"), ("timeout_ms", .int 500), ("max_retries", .int 1),
        ("circuit_breaker", .dict [("failure_threshold", .int 3), ("recovery_timeout_s", .int 60)]),
        ("confidence_thresholds", .dict
          [("direct_adopt", .float (3 / 4) "0.75"), ("adopt_with_label", .float (3 / 5) "0.6"),
            ("needs_clarification", .float (3 / 5) "0.6")])]),
      ("planner", .dict
        [("enabled", .bool true), ("tenant_id", .str ""), ("model_id", .str "qwen3.6-27b"),
          ("prompt_version", .str "v1"), ("timeout_ms", .int 5000), ("max_steps", .int 10)])]

/-- The configuration file as the loader meets it: there is none, or it has a
    time of change and a content, either of which may not be readable. -/
inductive ConfigFile where
  | missing
  | file (modified : Option ℚ) (data : Option Val)

/-- The configuration objects made so far, and who holds which. -/
structure Routing where
  objects : List Val := []
  cached : Option Nat := none
  lastModified : ℚ := 0
  llmRouter : Option Nat := none
  planner : Option Nat := none

namespace Routing

/-- A new configuration object. -/
def create (rt : Routing) (config : Val) : Routing × Nat :=
  ({ rt with objects := rt.objects ++ [config] }, rt.objects.length)

/-- Read the file into a new object that is kept. A file that cannot be read
    gives a default configuration, which is not. -/
def readFile (rt : Routing) (modified : ℚ) : Option Val → Routing × Nat
  | none => rt.create defaultConfig
  | some data =>
      let created := rt.create (if data.truthy then data else .dict [])
      ({ created.1 with cached := some created.2, lastModified := modified }, created.2)

/-- The object the loader returns. A default configuration is made anew each
    time. -/
def load (rt : Routing) : ConfigFile → Routing × Nat
  | .missing => rt.create defaultConfig
  | .file none _ => rt.create defaultConfig
  | .file (some modified) data =>
      match rt.cached with
      -- The file has not changed, so the object is the one others hold.
      | some o => if modified = rt.lastModified then (rt, o) else rt.readFile modified data
      | none => rt.readFile modified data

/-- Write a tenant into a section of an object. There is no result where
    writing raises. -/
def inject (rt : Routing) (o : Nat) (sec : Section) (tenantId : String) : Option Routing :=
  match rt.objects[o]? with
  | some config => (injectTenant sec tenantId config).map
      (fun config' => { rt with objects := rt.objects.set o config' })
  | none => none

/-- The node writes its tenant into both sections. The second component tells
    whether that raised; the first section may have been written by then. -/
def injectBoth (rt : Routing) (o : Nat) (tenantId : String) : Routing × Bool :=
  if tenantId = "" then (rt, false)
  else
    match rt.inject o .llmRouter tenantId with
    | none => (rt, true)
    -- Both sections of the one object are written, whoever holds it.
    | some rt₁ =>
        match rt₁.inject o .planner tenantId with
        | none => (rt₁, true)
        | some rt₂ => (rt₂, false)

/-- The router, made with the configuration at hand if there is none yet. -/
def getLlmRouter (rt : Routing) (o : Nat) : Routing :=
  { rt with llmRouter := some (rt.llmRouter.getD o) }

/-- The planner, made at the first call. -/
def getPlanner (rt : Routing) (o : Nat) : Routing :=
  { rt with planner := some (rt.planner.getD o) }

/-- Who reads a section. -/
def reader (rt : Routing) : Section → Option Nat
  | .llmRouter => rt.llmRouter
  | .planner => rt.planner

/-- The tenant the reader of a section finds there. -/
def tenantRead (rt : Routing) (sec : Section) : Option Val :=
  (rt.reader sec).bind (fun o => (rt.objects[o]?).bind (tenantIn sec))

/-- An object has a section to write into. -/
def HasSectionAt (rt : Routing) (o : Nat) (sec : Section) : Prop :=
  ∃ config, rt.objects[o]? = some config ∧ HasSection sec config

/-- An object holds a tenant in a section. -/
def Holds (rt : Routing) (sec : Section) (o : Nat) (tenantId : String) : Prop :=
  ∃ config, rt.objects[o]? = some config ∧ tenantIn sec config = some (.str tenantId)

end Routing

section Tenant

/-- Writing changes what that section holds, and no other. -/
theorem tenantIn_injectTenant {sec : Section} {tenantId : String} {config config' : Val}
    (h : injectTenant sec tenantId config = some config') (sec' : Section) :
    tenantIn sec' config' = tenantIn sec' config ∨
      (sec' = sec ∧ tenantIn sec' config' = some (.str tenantId)) := by
  cases config with
  | dict kvs =>
      unfold injectTenant at h
      dsimp only at h
      cases hsec : kvs.lookup sec.key with
      | none =>
          rw [hsec] at h
          rw [← Option.some.inj h]
          exact .inl rfl
      | some v =>
          rw [hsec] at h
          cases v with
          | dict fields =>
              rw [← Option.some.inj h]
              by_cases heq : sec' = sec
              · refine .inr ⟨heq, ?_⟩
                simp [tenantIn, heq, lookup_dictSet]
              · refine .inl ?_
                have hkey : sec'.key ≠ sec.key := fun hk => heq (Section.key_injective hk)
                simp [tenantIn, lookup_dictSet, hkey]
          | _ => cases h
  | _ => cases h

/-- A tenant that is written into a section that is there, is there. -/
theorem tenantIn_of_hasSection {sec : Section} {tenantId : String} {config config' : Val}
    (h : injectTenant sec tenantId config = some config') (hsec : HasSection sec config) :
    tenantIn sec config' = some (.str tenantId) := by
  rcases hsec with ⟨kvs, fields, rfl, hlookup⟩
  unfold injectTenant at h
  simp only [hlookup, Option.some.injEq] at h
  rw [← h]
  simp [tenantIn, lookup_dictSet]

/-- Writing removes no section. -/
theorem hasSection_injectTenant {sec : Section} {tenantId : String} {config config' : Val}
    (h : injectTenant sec tenantId config = some config') {sec' : Section}
    (hsec : HasSection sec' config) : HasSection sec' config' := by
  rcases hsec with ⟨kvs, fields', rfl, hlookup⟩
  unfold injectTenant at h
  dsimp only at h
  split at h
  next =>
    rw [← Option.some.inj h]
    exact ⟨kvs, fields', rfl, hlookup⟩
  next fields _ =>
    rw [← Option.some.inj h]
    by_cases heq : sec' = sec
    · refine ⟨_, dictSet "tenant_id" (.str tenantId) fields, rfl, ?_⟩
      rw [lookup_dictSet, heq, if_pos rfl]
    · have hkey : sec'.key ≠ sec.key := fun hk => heq (Section.key_injective hk)
      refine ⟨_, fields', rfl, ?_⟩
      rw [lookup_dictSet, if_neg hkey, hlookup]
  next => cases h

end Tenant

namespace Routing

section Inject

variable {rt rt' : Routing} {o : Nat} {sec : Section} {tenantId : String}

/-- Writing changes one object, and no more. -/
theorem inject_eq (h : rt.inject o sec tenantId = some rt') :
    ∃ config config', rt.objects[o]? = some config ∧
      injectTenant sec tenantId config = some config' ∧
      rt' = { rt with objects := rt.objects.set o config' } := by
  unfold inject at h
  cases hconfig : rt.objects[o]? with
  | none =>
      rw [hconfig] at h
      cases h
  | some config =>
      rw [hconfig] at h
      rcases Option.map_eq_some_iff.mp h with ⟨config', hinject, hrt⟩
      exact ⟨config, config', rfl, hinject, hrt.symm⟩

/-- What an object is after writing. -/
theorem getElem?_inject (h : rt.inject o sec tenantId = some rt') {o' : Nat} {config : Val}
    (hconfig : rt.objects[o']? = some config) :
    (o' ≠ o ∧ rt'.objects[o']? = some config) ∨
      (o' = o ∧ ∃ config', rt'.objects[o']? = some config' ∧
        injectTenant sec tenantId config = some config') := by
  rcases inject_eq h with ⟨old, new, hold, hinject, rfl⟩
  by_cases heq : o' = o
  · refine .inr ⟨heq, new, ?_, ?_⟩
    · have hlt : o < rt.objects.length := (List.getElem?_eq_some_iff.mp hold).1
      simp [heq, hlt]
    · rw [heq, hold] at hconfig
      rw [← Option.some.inj hconfig]
      exact hinject
  · refine .inl ⟨heq, ?_⟩
    have hne : o ≠ o' := fun h => heq h.symm
    simp [hne, hconfig]

/-- A tenant stays where it is unless another is written over it. -/
theorem Holds.inject {sec' : Section} {o' : Nat} {tenantId' : String}
    (hholds : rt.Holds sec' o' tenantId') (h : rt.inject o sec tenantId = some rt')
    (hsame : o' = o → tenantId' = tenantId) : rt'.Holds sec' o' tenantId' := by
  rcases hholds with ⟨config, hconfig, htenant⟩
  rcases getElem?_inject h hconfig with ⟨_, hafter⟩ | ⟨heq, config', hafter, hinject⟩
  · exact ⟨config, hafter, htenant⟩
  · refine ⟨config', hafter, ?_⟩
    rcases tenantIn_injectTenant hinject sec' with hkept | ⟨_, hwritten⟩
    · rw [hkept, htenant]
    · rw [hwritten, hsame heq]

theorem HasSectionAt.inject {sec' : Section} {o' : Nat} (hsec : rt.HasSectionAt o' sec')
    (h : rt.inject o sec tenantId = some rt') : rt'.HasSectionAt o' sec' := by
  rcases hsec with ⟨config, hconfig, hhas⟩
  rcases getElem?_inject h hconfig with ⟨_, hafter⟩ | ⟨_, config', hafter, hinject⟩
  · exact ⟨config, hafter, hhas⟩
  · exact ⟨config', hafter, hasSection_injectTenant hinject hhas⟩

theorem HasSectionAt.holds (hsec : rt.HasSectionAt o sec)
    (h : rt.inject o sec tenantId = some rt') : rt'.Holds sec o tenantId := by
  rcases hsec with ⟨config, hconfig, hhas⟩
  rcases getElem?_inject h hconfig with ⟨hne, _⟩ | ⟨_, config', hafter, hinject⟩
  · exact absurd rfl hne
  · exact ⟨config', hafter, tenantIn_of_hasSection hinject hhas⟩

theorem inject_reader (h : rt.inject o sec tenantId = some rt') : rt'.reader = rt.reader := by
  rcases inject_eq h with ⟨_, _, _, _, rfl⟩
  funext sec'
  cases sec' <;> rfl

end Inject

section Both

variable {rt : Routing} {o : Nat} {tenantId : String}

theorem injectBoth_reader (rt : Routing) (o : Nat) (tenantId : String) :
    (rt.injectBoth o tenantId).1.reader = rt.reader := by
  unfold injectBoth
  split_ifs
  · rfl
  · split
    next => rfl
    next h₁ =>
      split
      next => exact inject_reader h₁
      next h₂ => exact (inject_reader h₂).trans (inject_reader h₁)

theorem Holds.injectBoth {sec' : Section} {o' : Nat} {tenantId' : String}
    (hholds : rt.Holds sec' o' tenantId') (hsame : o' = o → tenantId' = tenantId) :
    (rt.injectBoth o tenantId).1.Holds sec' o' tenantId' := by
  unfold Routing.injectBoth
  split_ifs
  · exact hholds
  · split
    next => exact hholds
    next h₁ =>
      split
      next => exact hholds.inject h₁ hsame
      next h₂ => exact (hholds.inject h₁ hsame).inject h₂ hsame

/-- A node that did not raise has its tenant in every section there is. -/
theorem HasSectionAt.injectBoth {sec : Section} (hsec : rt.HasSectionAt o sec)
    (hne : tenantId ≠ "") (hok : (rt.injectBoth o tenantId).2 = false) :
    (rt.injectBoth o tenantId).1.Holds sec o tenantId := by
  unfold Routing.injectBoth at hok ⊢
  rw [if_neg hne] at hok ⊢
  split at hok
  next => cases hok
  next h₁ =>
    split at hok
    next => cases hok
    next h₂ =>
      cases sec with
      | llmRouter => exact (hsec.holds h₁).inject h₂ (fun _ => rfl)
      | planner => exact (hsec.inject h₁).holds h₂

end Both

section Load

variable {rt : Routing} {file : ConfigFile}

/-- Loading makes objects and changes none. -/
theorem load_eq (rt : Routing) (file : ConfigFile) : (rt.load file).1.reader = rt.reader ∧
    rt.objects <+: (rt.load file).1.objects := by
  have hcreate : ∀ config, (rt.create config).1.reader = rt.reader ∧
      rt.objects <+: (rt.create config).1.objects := by
    intro config
    refine ⟨?_, List.prefix_append _ _⟩
    funext sec
    cases sec <;> rfl
  have hread : ∀ modified data, (rt.readFile modified data).1.reader = rt.reader ∧
      rt.objects <+: (rt.readFile modified data).1.objects := by
    intro modified data
    cases data with
    | none => exact hcreate defaultConfig
    | some data =>
        refine ⟨?_, List.prefix_append _ _⟩
        funext sec
        cases sec <;> rfl
  unfold load
  split
  · exact hcreate defaultConfig
  · exact hcreate defaultConfig
  · split
    · split_ifs
      · exact ⟨rfl, List.prefix_rfl⟩
      · exact hread _ _
    · exact hread _ _

theorem Holds.load {sec : Section} {o : Nat} {tenantId : String} (h : rt.Holds sec o tenantId) :
    (rt.load file).1.Holds sec o tenantId := by
  rcases h with ⟨config, hconfig, htenant⟩
  refine ⟨config, ?_, htenant⟩
  rcases (load_eq rt file).2 with ⟨more, hmore⟩
  rw [← hmore]
  exact List.getElem?_append_left (List.getElem?_eq_some_iff.mp hconfig).1 ▸ hconfig

end Load

end Routing

end AgenticRag
