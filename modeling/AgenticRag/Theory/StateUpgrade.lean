import AgenticRag.Theory.Restoring

/-!
# Bringing a State up to the Schema

What the two upgrades guarantee of any value they are given. Afterwards every
field of the schema is there and of its type: one that was is left as it was,
and of the others each is missing, and takes its default, or is converted, or
cannot be, and takes its default as well (`typed_upgradeValue`). Every default
is of the type of its field. No other key is touched, but for the version.

A second upgrade finds every field of its type, and changes nothing. The
upgrade of the globals writes what it found under the keys of the fields, so a
second one finds exactly this (`upgradeCanvasGlobals_idem`).

By reference, the upgrade of a state writes to no dictionary that was there
before, and that of the globals to theirs only.

The one thing that is relied on of the built-in `float` is that it returns a
float when it returns.

## Main definitions

* `ReturnsFloats`: What is relied on.
* `UpgradedAsSaid`, `CanvasAsSaid`: What should hold of the upgrades.

## Theorems

* `upgradeState_idem`, `upgradeCanvasGlobals_idem`: Doing it twice.
* `upgradeStateAt_eq`, `upgradeCanvasGlobalsAt_eq`: The same by reference.
* `stateUpgrade_exact`: All of it.
-/

namespace AgenticRag

namespace StateCrypto

open Py Ordered

variable {ι β : Type} {env : CryptoEnv ι β}

section Fields

/-- What `float` returns is a float. -/
def ReturnsFloats (env : CryptoEnv ι β) : Prop :=
  ∀ v w, env.toFloat v = .ok w → isInstance .float w = true

/-- The defaults are those of the fields, each of its type. -/
theorem defaults_typed : ∀ field ∈ standardStateFields,
    ∃ default, defaultStateValues.find? (fun d => decide (d.1 = field.1)) =
      some (field.1, default) ∧ isInstance field.2 default = true := by
  have htyped : ∀ field ∈ standardStateFields,
      ((defaultStateValues.find? (fun d => decide (d.1 = field.1))).any
        (fun d => decide (d.1 = field.1) && isInstance field.2 d.2)) = true := by decide
  intro field hfield
  have hany := htyped field hfield
  cases hfind : defaultStateValues.find? (fun d => decide (d.1 = field.1)) with
  | none =>
      rw [hfind] at hany
      cases hany
  | some p =>
      rw [hfind, Option.any_some, Bool.and_eq_true, decide_eq_true_eq] at hany
      exact ⟨p.2, by rw [← hany.1], hany.2⟩

/-- A field that is converted is of its type, or takes its default. -/
theorem typed_upgradeValue (hfloat : ReturnsFloats env) (expected : FieldType)
    {default : Val} (hdefault : isInstance expected default = true) (value : Val) :
    isInstance expected (upgradeValue env expected default value) = true := by
  unfold upgradeValue
  split
  · assumption
  · split
    next converted hconverted =>
      cases expected with
      | str =>
          cases hconverted
          rfl
      | bool =>
          cases hconverted
          rfl
      | int =>
          rcases exists_of_map_ok hconverted with ⟨i, -, rfl⟩
          rfl
      | float => exact hfloat value converted hconverted
      | list =>
          unfold convert at hconverted
          dsimp only at hconverted
          split at hconverted
          · cases hconverted
            rfl
          · rcases exists_of_map_ok hconverted with ⟨xs, -, rfl⟩
            rfl
    · exact hdefault

theorem upgradeValue_of_typed {expected : FieldType} {default value : Val}
    (h : isInstance expected value = true) : upgradeValue env expected default value = value := by
  rw [upgradeValue, if_pos h]

theorem fields_nodup : (standardStateFields.map Prod.fst).Nodup := by decide

variable (env) in
/-- What the upgrade leaves in a field of the schema. -/
theorem lookup_upgradeState_field {field : String × FieldType}
    (hfield : field ∈ standardStateFields) :
    ∃ default, isInstance field.2 default = true ∧ ∀ d : Dict,
      (upgradeState env (.dict d)).lookup field.1 =
        some ((d.lookup field.1).elim default (upgradeValue env field.2 default)) := by
  rcases defaults_typed field hfield with ⟨default, hfind, htyped⟩
  have hversion : field.1 ≠ schemaVersionKey := by
    have hall : ∀ f ∈ standardStateFields, f.1 ≠ schemaVersionKey := by decide
    exact hall field hfield
  refine ⟨default, htyped, fun d => ?_⟩
  rw [lookup_upgradeState, if_neg hversion, hfind, Option.elim_some]
  cases d.lookup field.1 with
  | none => rfl
  | some value =>
      rw [upgradedField, lookup_of_mem _ fields_nodup hfield]
      rfl

/-- The upgrade leaves any other key alone. -/
theorem lookup_upgradeState_other {key : String} (hkey : key ∉ standardStateFields.map Prod.fst)
    (hversion : key ≠ schemaVersionKey) (d : Dict) :
    (upgradeState env (.dict d)).lookup key = d.lookup key := by
  have hsame : standardStateFields.map Prod.fst = defaultStateValues.map Prod.fst := by decide
  rw [lookup_upgradeState, if_neg hversion]
  have hnone : defaultStateValues.find? (fun field => decide (field.1 = key)) = none := by
    refine List.find?_eq_none.mpr (fun p hp heq => hkey ?_)
    rw [hsame, ← of_decide_eq_true heq]
    exact List.mem_map_of_mem hp
  rw [hnone]
  rfl

variable (env) in
/-- A value that is no dictionary is taken for an empty one. -/
theorem upgradeState_eq (state : Val) :
    ∃ d, upgradeState env state = upgradeState env (.dict d) ∧
      ∀ kvs, state = .dict kvs → kvs = d := by
  cases state with
  | dict kvs => exact ⟨kvs, rfl, fun _ h => by cases h; rfl⟩
  | _ => exact ⟨[], rfl, fun _ h => by cases h⟩

end Fields

section Twice

/-- Setting a key to what it has changes nothing. -/
theorem dictSet_self {d : Dict} {k : String} {v : Val} (h : d.lookup k = some v) :
    dictSet k v d = d := by
  induction d with
  | nil => cases h
  | cons p rest ih =>
      rcases p with ⟨k', w⟩
      rw [dictSet]
      by_cases hk : k' = k
      · subst hk
        rw [List.lookup_cons, beq_self_eq_true] at h
        cases h
        rw [if_pos rfl]
      · rw [List.lookup_cons, beq_eq_false_iff_ne.mpr (Ne.symm hk)] at h
        rw [if_neg hk, ih h]

/-- A state whose fields are of their types is not changed. -/
theorem upgradeFields_of_typed {d fields : Dict}
    (h : ∀ p ∈ fields, ∃ value, d.lookup p.1 = some value ∧
      ∀ expected, standardStateFields.lookup p.1 = some expected →
        isInstance expected value = true) :
    fields.foldl (upgradeField env) d = d := by
  induction fields with
  | nil => rfl
  | cons p rest ih =>
      rcases h p List.mem_cons_self with ⟨value, hvalue, htyped⟩
      have hstep : upgradeField env d p = d := by
        unfold upgradeField
        rw [hvalue]
        dsimp only
        split
        · rfl
        next expected hexpected =>
          rw [upgradeValue_of_typed (htyped expected hexpected), dictSet_self hvalue]
      rw [List.foldl_cons, hstep]
      exact ih (fun q hq => h q (List.mem_cons_of_mem _ hq))

theorem upgradeState_dict (d : Dict) :
    upgradeState env (.dict d) = dictSet schemaVersionKey (.str stateSchemaVersion)
      (defaultStateValues.foldl (upgradeField env) d) := rfl

theorem upgradeState_idem (hfloat : ReturnsFloats env) (state : Val) :
    upgradeState env (.dict (upgradeState env state)) = upgradeState env state := by
  rcases upgradeState_eq env state with ⟨d, heq, -⟩
  rw [heq]
  have hfields : defaultStateValues.foldl (upgradeField env) (upgradeState env (.dict d)) =
      upgradeState env (.dict d) := by
    refine upgradeFields_of_typed (fun p hp => ?_)
    have hname : p.1 ∈ standardStateFields.map Prod.fst := by
      rw [show standardStateFields.map Prod.fst = defaultStateValues.map Prod.fst by decide]
      exact List.mem_map_of_mem hp
    rcases List.mem_map.mp hname with ⟨field, hfield, hsame⟩
    rcases lookup_upgradeState_field env hfield with ⟨default, hdefault, hlookup⟩
    rw [hsame] at hlookup
    refine ⟨_, hlookup d, fun expected hexpected => ?_⟩
    rw [← hsame, lookup_of_mem _ fields_nodup hfield] at hexpected
    cases hexpected
    cases d.lookup p.1 with
    | none => exact hdefault
    | some value => exact typed_upgradeValue hfloat _ hdefault value
  have hversion : (upgradeState env (.dict d)).lookup schemaVersionKey =
      some (.str stateSchemaVersion) := by
    rw [lookup_upgradeState, if_pos rfl]
  -- Neither the fields nor the version are changed again.
  rw [upgradeState_dict (upgradeState env (.dict d)), hfields, dictSet_self hversion]

end Twice

section Globals

theorem canvasStateKey_injective : Function.Injective canvasStateKey := by
  intro field field' h
  rw [← String.toList_inj] at h ⊢
  rw [canvasStateKey, canvasStateKey, String.toList_append, String.toList_append] at h
  exact List.append_cancel_left h

/-- What the globals have of a field: what is under its key, or else under its
    plain name. -/
def canvasValue (globals : Dict) (field : String) : Option Val :=
  (globals.lookup (canvasStateKey field)).or (globals.lookup field)

theorem lookup_collectField (globals state : Dict) (field : String × FieldType) (k : String) :
    (collectField globals state field).lookup k =
      if k = field.1 then (canvasValue globals field.1).or (state.lookup k)
      else state.lookup k := by
  unfold collectField canvasValue
  split
  next value hvalue =>
    rw [lookup_dictSet, hvalue]
    rfl
  next hnone =>
    rw [hnone, Option.none_or]
    split
    next value hvalue =>
      rw [lookup_dictSet, hvalue]
      rfl
    next hnone' =>
      rw [hnone', Option.none_or, ite_self]

/-- A field is collected as the globals have it, and nothing else is. -/
theorem lookup_collectFields (globals : Dict) (k : String) :
    (collectFields globals).lookup k =
      if k ∈ standardStateFields.map Prod.fst then canvasValue globals k else none := by
  rw [collectFields, lookup_foldl_update Prod.fst
    (fun field old => (canvasValue globals field.1).or old) (lookup_collectField globals)
    standardStateFields fields_nodup]
  cases hfind : standardStateFields.find? (fun f => decide (f.1 = k)) with
  | none =>
      have hnot : k ∉ standardStateFields.map Prod.fst := by
        intro hk
        rcases List.mem_map.mp hk with ⟨field, hfield, heq⟩
        exact List.find?_eq_none.mp hfind field hfield (decide_eq_true heq)
      rw [if_neg hnot]
      rfl
  | some field =>
      have hfound := List.find?_some hfind
      have hsame : field.1 = k := of_decide_eq_true hfound
      have hmem : k ∈ standardStateFields.map Prod.fst :=
        hsame ▸ List.mem_map_of_mem (List.mem_of_find?_eq_some hfind)
      rw [if_pos hmem, Option.elim_some, hsame]
      exact Option.or_none

/-- The fields of a state are written under their keys, and nothing else is. -/
theorem lookup_writeFields (globals : Dict) {state : Dict}
    (hstate : (state.map Prod.fst).Nodup) (k : String) :
    (writeFields globals state).lookup k =
      (state.find? (fun p => decide (canvasStateKey p.1 = k))).elim (globals.lookup k)
        (fun p => some p.2) := by
  refine lookup_foldl_update (fun p : String × Val => canvasStateKey p.1) (fun p _ => some p.2)
    (fun d p k => lookup_dictSet _ _ d k) state ?_ globals k
  rw [show state.map (fun p => canvasStateKey p.1) =
    (state.map Prod.fst).map canvasStateKey from (List.map_map ..).symm]
  exact hstate.map canvasStateKey_injective

/-- The keys the globals may be changed at. -/
def writtenNames : List String := standardStateFields.map Prod.fst ++ [schemaVersionKey]

theorem keys_collectField_nodup (globals : Dict) {state : Dict}
    (h : (state.map Prod.fst).Nodup) (field : String × FieldType) :
    ((collectField globals state field).map Prod.fst).Nodup := by
  unfold collectField
  split
  · exact keys_dictSet_nodup _ _ h
  · split
    · exact keys_dictSet_nodup _ _ h
    · exact h

theorem keys_collectFields_nodup (globals : Dict) :
    ((collectFields globals).map Prod.fst).Nodup := by
  rw [collectFields]
  induction standardStateFields using List.reverseRecOn with
  | nil => exact List.nodup_nil
  | append_singleton fields field ih =>
      rw [List.foldl_append]
      exact keys_collectField_nodup globals ih field

/-- What is written: the upgraded state of the globals. -/
def canvasState (env : CryptoEnv ι β) (globals : Dict) : Dict :=
  upgradeState env (.dict (collectFields globals))

theorem upgradeCanvasGlobals_eq (globals : Dict) :
    upgradeCanvasGlobals env globals = writeFields globals (canvasState env globals) := rfl

variable (env) in
theorem keys_canvasState_nodup (globals : Dict) :
    ((canvasState env globals).map Prod.fst).Nodup :=
  keys_upgradeState_nodup (keys_collectFields_nodup globals)

/-- Only the fields and the version are written. -/
theorem mem_writtenNames {globals : Dict} {p : String × Val} (hp : p ∈ canvasState env globals) :
    p.1 ∈ writtenNames := by
  have hlookup := lookup_of_mem _ (keys_canvasState_nodup env globals) hp
  by_contra hnot
  rw [writtenNames, List.mem_append, List.mem_singleton, not_or] at hnot
  rw [canvasState, lookup_upgradeState_other hnot.1 hnot.2, lookup_collectFields,
    if_neg hnot.1] at hlookup
  cases hlookup

variable (env) in
/-- What the upgrade leaves under the key of a field or of the version: its
    value in the upgraded state. -/
theorem lookup_upgradeCanvasGlobals (globals : Dict) {name : String} (hname : name ∈ writtenNames) :
    (upgradeCanvasGlobals env globals).lookup (canvasStateKey name) =
      (canvasState env globals).lookup name := by
  rw [upgradeCanvasGlobals_eq, lookup_writeFields globals (keys_canvasState_nodup env globals)]
  have hthere : ∃ value, (canvasState env globals).lookup name = some value := by
    rw [writtenNames, List.mem_append, List.mem_singleton] at hname
    rcases hname with hfield | rfl
    · rcases List.mem_map.mp hfield with ⟨field, hmem, rfl⟩
      rcases lookup_upgradeState_field env hmem with ⟨default, -, hlookup⟩
      exact ⟨_, hlookup _⟩
    · exact ⟨_, by rw [canvasState, lookup_upgradeState, if_pos rfl]⟩
  rcases hthere with ⟨value, hvalue⟩
  cases hfind : (canvasState env globals).find?
      (fun p => decide (canvasStateKey p.1 = canvasStateKey name)) with
  | none =>
      exact absurd (decide_eq_true rfl)
        (List.find?_eq_none.mp hfind (name, value) (mem_of_lookup hvalue))
  | some p =>
      have hfound := List.find?_some hfind
      have hsame : p.1 = name := canvasStateKey_injective (of_decide_eq_true hfound)
      have hmem := List.mem_of_find?_eq_some hfind
      have hlookup := lookup_of_mem _ (keys_canvasState_nodup env globals) hmem
      rw [hsame] at hlookup
      exact hlookup.symm

/-- Writing what is there changes nothing. -/
theorem writeFields_self {globals state : Dict}
    (h : ∀ p ∈ state, globals.lookup (canvasStateKey p.1) = some p.2) :
    writeFields globals state = globals := by
  rw [writeFields]
  induction state with
  | nil => rfl
  | cons p rest ih =>
      rw [List.foldl_cons, dictSet_self (h p List.mem_cons_self)]
      exact ih (fun q hq => h q (List.mem_cons_of_mem _ hq))

theorem upgradeCanvasGlobals_idem (hfloat : ReturnsFloats env) (globals : Dict) :
    upgradeCanvasGlobals env (upgradeCanvasGlobals env globals) =
      upgradeCanvasGlobals env globals := by
  rw [upgradeCanvasGlobals_eq (upgradeCanvasGlobals env globals)]
  refine writeFields_self (fun p hp => ?_)
  have hname := mem_writtenNames hp
  have hlookup := lookup_of_mem _ (keys_canvasState_nodup env _) hp
  rw [lookup_upgradeCanvasGlobals env globals hname]
  rw [writtenNames, List.mem_append, List.mem_singleton] at hname
  rcases hname with hfield | hversion
  · -- What was written under the key is of its type, and is collected again.
    rcases List.mem_map.mp hfield with ⟨field, hmem, hsame⟩
    rcases lookup_upgradeState_field env hmem with ⟨default, hdefault, hupgraded⟩
    have hwritten := lookup_upgradeCanvasGlobals env globals
      (List.mem_append_left _ (List.mem_map_of_mem hmem))
    have hfirst := hupgraded (collectFields globals)
    rw [canvasState, hfirst] at hwritten
    have hsecond := hupgraded (collectFields (upgradeCanvasGlobals env globals))
    rw [lookup_collectFields, if_pos (List.mem_map_of_mem hmem), canvasValue, hwritten,
      Option.some_or, Option.elim_some] at hsecond
    rw [← hsame] at hlookup ⊢
    rw [canvasState, hfirst]
    refine Eq.trans ?_ (hsecond.symm.trans hlookup)
    refine congrArg some (upgradeValue_of_typed ?_).symm
    cases (collectFields globals).lookup field.1 with
    | none => exact hdefault
    | some value => exact typed_upgradeValue hfloat _ hdefault value
  · rw [hversion, canvasState, lookup_upgradeState, if_pos rfl] at hlookup ⊢
    exact hlookup

end Globals

section References

/-- Rewriting one cell again and again is rewriting it once. -/
theorem foldl_modify_cell {α : Type} (f : α → Dict → Dict) (xs : List α) (i : Nat) (h : Heap) :
    xs.foldl (fun h x => h.modify i (f x)) h =
      h.modify i (fun d => xs.foldl (fun d x => f x d) d) := by
  induction xs generalizing h with
  | nil => exact (List.modify_id i h).symm
  | cons x rest ih =>
      rw [List.foldl_cons, ih, List.modify_modify_eq]
      rfl

theorem get_modify {h : Heap} {i : Nat} (hi : i < h.length) (f : Dict → Dict) :
    Heap.get (h.modify i f) i = f (h.get i) := by
  rw [Heap.get, List.getD_eq_getElem?_getD, List.getElem?_modify_eq, Heap.get,
    List.getD_eq_getElem?_getD, List.getElem?_eq_getElem hi]
  rfl

theorem get_alloc (d : Dict) (h : Heap) : Heap.get (h ++ [d]) h.length = d := by
  rw [Heap.get, List.getD_eq_getElem?_getD, List.getElem?_concat_length, Option.getD_some]

theorem getElem?_alloc (d : Dict) {h : Heap} {i : Nat} (hi : i < h.length) :
    (h ++ [d])[i]? = h[i]? := List.getElem?_append_left hi

variable (env) in
/-- The upgrade of a state by reference: what it returns is new, and holds the
    upgraded state; the dictionaries that were there are as they were. -/
theorem upgradeStateAt_eq (state : Argument) (h : Heap) :
    h.length ≤ (upgradeStateAt env state h).1 ∧
    (upgradeStateAt env state h).2.get (upgradeStateAt env state h).1 =
      upgradeState env (state.value h) ∧
    ∀ i < h.length, (upgradeStateAt env state h).2[i]? = h[i]? := by
  -- The copy is made in a heap that may have one cell more.
  have hcopy : ∀ (h' : Heap) (d : Dict), h.length ≤ h'.length →
      (∀ i < h.length, h'[i]? = h[i]?) → ∀ result, result =
        ((h' ++ [d]).modify h'.length (fun d =>
          defaultStateValues.foldl (upgradeField env) d)).modify
            h'.length (dictSet schemaVersionKey (.str stateSchemaVersion)) →
      Heap.get result h'.length = upgradeState env (.dict d) ∧
        ∀ i < h.length, result[i]? = h[i]? := by
    rintro h' d hle hold _ rfl
    have hlt : h'.length < (h' ++ [d]).length := by
      rw [List.length_append, List.length_singleton]
      exact Nat.lt_succ_self _
    refine ⟨?_, fun i hi => ?_⟩
    · rw [get_modify (by rwa [List.length_modify]), get_modify hlt, get_alloc, upgradeState_dict]
    · have hne : h'.length ≠ i := by omega
      rw [List.getElem?_modify_ne _ _ hne, List.getElem?_modify_ne _ _ hne,
        getElem?_alloc d (Nat.lt_of_lt_of_le hi hle), hold i hi]
  cases state with
  | ref r =>
      refine ⟨Nat.le_refl _, hcopy h (h.get r) (Nat.le_refl _) (fun _ _ => rfl) _ ?_⟩
      exact congrArg (fun h' => List.modify h' h.length _)
        (foldl_modify_cell (fun field d => upgradeField env d field) defaultStateValues _ _)
  | other v hv =>
      have hlen : h.length ≤ (h ++ [([] : Dict)]).length := by
        rw [List.length_append]
        exact Nat.le_add_right _ _
      have hempty : upgradeState env v = upgradeState env (.dict []) := by
        cases v with
        | dict kvs => exact absurd rfl (hv kvs)
        | _ => rfl
      have hdone := hcopy (h ++ [[]]) (Heap.get (h ++ [[]]) h.length) hlen
        (fun i hi => getElem?_alloc [] hi) (upgradeStateAt env (.other v hv) h).2
        (congrArg (fun h' => List.modify h' (h ++ [([] : Dict)]).length _)
          (foldl_modify_cell (fun field d => upgradeField env d field) defaultStateValues _ _))
      rw [get_alloc] at hdone
      exact ⟨hlen, hdone.1.trans hempty.symm, hdone.2⟩

/-- The upgrade of the globals by reference: they are changed in place, and no
    other dictionary is. -/
theorem upgradeCanvasGlobalsAt_eq {globals : Nat} {h : Heap} (hglobals : globals < h.length) :
    (upgradeCanvasGlobalsAt env globals h).1 = globals ∧
    (upgradeCanvasGlobalsAt env globals h).2.get globals =
      upgradeCanvasGlobals env (h.get globals) ∧
    ∀ i < h.length, i ≠ globals → (upgradeCanvasGlobalsAt env globals h).2[i]? = h[i]? := by
  have hlen : h.length < (h ++ [collectFields (h.get globals)]).length := by
    rw [List.length_append, List.length_singleton]
    exact Nat.lt_succ_self _
  rcases upgradeStateAt_eq env (.ref h.length) (h ++ [collectFields (h.get globals)]) with
    ⟨hfresh, hstate, hold⟩
  rw [Argument.value, get_alloc] at hstate
  have hcells : ∀ i < h.length, (upgradeStateAt env (.ref h.length)
      (h ++ [collectFields (h.get globals)])).2[i]? = h[i]? := fun i hi =>
    (hold i (Nat.lt_trans hi hlen)).trans (getElem?_alloc _ hi)
  have hresult : (upgradeCanvasGlobalsAt env globals h).2 = (upgradeStateAt env (.ref h.length)
      (h ++ [collectFields (h.get globals)])).2.modify globals
        (fun d => writeFields d (Heap.get (upgradeStateAt env (.ref h.length)
          (h ++ [collectFields (h.get globals)])).2 (upgradeStateAt env (.ref h.length)
            (h ++ [collectFields (h.get globals)])).1)) :=
    foldl_modify_cell (fun p : String × Val => dictSet (canvasStateKey p.1) p.2) _ globals _
  rw [hstate] at hresult
  have hthere := hcells globals hglobals
  rw [List.getElem?_eq_getElem hglobals] at hthere
  have hlt := (List.getElem?_eq_some_iff.mp hthere).1
  have hget : Heap.get (upgradeStateAt env (.ref h.length)
      (h ++ [collectFields (h.get globals)])).2 globals = h.get globals := by
    rw [Heap.get, List.getD_eq_getElem?_getD, hcells globals hglobals, Heap.get,
      List.getD_eq_getElem?_getD]
  refine ⟨rfl, ?_, fun i hi hne => ?_⟩
  · rw [hresult, get_modify hlt, hget, upgradeCanvasGlobals_eq]
    rfl
  · rw [hresult, List.getElem?_modify_ne _ _ (Ne.symm hne), hcells i hi]

end References

section Main

/-- What should hold of an upgraded state. -/
structure UpgradedAsSaid (state : Val) (result : Dict) : Prop where
  typed : ∀ field ∈ standardStateFields,
    ∃ value, result.lookup field.1 = some value ∧ isInstance field.2 value = true
  version : result.lookup schemaVersionKey = some (.str stateSchemaVersion)
  kept : ∀ d, state = .dict d → ∀ field ∈ standardStateFields, ∀ value,
    d.lookup field.1 = some value → isInstance field.2 value = true →
      result.lookup field.1 = some value
  unknown : ∀ d, state = .dict d → ∀ key, key ∉ standardStateFields.map Prod.fst →
    key ≠ schemaVersionKey → result.lookup key = d.lookup key

/-- What should hold of upgraded globals: under the key of a field is the
    upgraded value of the field, that of the key where both forms are there. -/
structure CanvasAsSaid (env : CryptoEnv ι β) (globals result : Dict) : Prop where
  idempotent : upgradeCanvasGlobals env result = result
  prefers : ∀ field ∈ standardStateFields, ∀ value,
    globals.lookup (canvasStateKey field.1) = some value →
      result.lookup (canvasStateKey field.1) =
        (upgradeState env (.dict [(field.1, value)])).lookup field.1

theorem upgradedAsSaid (hfloat : ReturnsFloats env) (state : Val) :
    UpgradedAsSaid state (upgradeState env state) := by
  rcases upgradeState_eq env state with ⟨d, heq, hdict⟩
  rw [heq]
  refine ⟨fun field hfield => ?_, ?_, ?_, ?_⟩
  · rcases lookup_upgradeState_field env hfield with ⟨default, hdefault, hlookup⟩
    refine ⟨_, hlookup d, ?_⟩
    cases d.lookup field.1 with
    | none => exact hdefault
    | some value => exact typed_upgradeValue hfloat _ hdefault value
  · rw [lookup_upgradeState, if_pos rfl]
  · intro kvs hkvs field hfield value hvalue htyped
    rw [hdict kvs hkvs] at hvalue
    rcases lookup_upgradeState_field env hfield with ⟨default, -, hlookup⟩
    rw [hlookup, hvalue, Option.elim_some, upgradeValue_of_typed htyped]
  · intro kvs hkvs key hkey hversion
    rw [hdict kvs hkvs]
    exact lookup_upgradeState_other hkey hversion d

theorem canvasAsSaid (hfloat : ReturnsFloats env) (globals : Dict) :
    CanvasAsSaid env globals (upgradeCanvasGlobals env globals) := by
  refine ⟨upgradeCanvasGlobals_idem hfloat globals, fun field hfield value hvalue => ?_⟩
  have hname := List.mem_map_of_mem (f := Prod.fst) hfield
  rcases lookup_upgradeState_field env hfield with ⟨default, -, hlookup⟩
  rw [lookup_upgradeCanvasGlobals env globals (List.mem_append_left _ hname), canvasState, hlookup,
    lookup_collectFields, if_pos hname, canvasValue, hvalue, Option.some_or, hlookup,
    List.lookup_cons_self]

/-- The two upgrades, on any value and any globals: what they leave, that doing
    it twice changes nothing, and which dictionaries they write to. -/
theorem stateUpgrade_exact (env : CryptoEnv ι β) (hfloat : ReturnsFloats env) :
    (∀ state, UpgradedAsSaid state (upgradeState env state) ∧
      upgradeState env (.dict (upgradeState env state)) = upgradeState env state) ∧
    (∀ globals, CanvasAsSaid env globals (upgradeCanvasGlobals env globals)) ∧
    ∀ (state : Argument) (h : Heap),
      (upgradeStateAt env state h).2.get (upgradeStateAt env state h).1 =
        upgradeState env (state.value h) ∧
      ∀ i < h.length, (upgradeStateAt env state h).2[i]? = h[i]? := by
  refine ⟨fun state => ⟨upgradedAsSaid hfloat state, upgradeState_idem hfloat state⟩,
    fun globals => canvasAsSaid hfloat globals, fun state h => ?_⟩
  exact (upgradeStateAt_eq env state h).2

/-- The built-in `float` on what is no text. -/
def floatOfNumber : Val → Except Exc Val
  | .bool b => .ok (if b then .float 1 "1.0" else .float 0 "0.0")
  | .int i => .ok (.float i (toString i ++ ".0"))
  | .float q text => .ok (.float q text)
  | _ => .error .typeError

theorem floatOfNumber_returnsFloats :
    ReturnsFloats { plainEnv with toFloat := floatOfNumber } := by
  intro v w h
  cases v with
  | bool b =>
      cases b <;> cases h <;> rfl
  | int i =>
      cases h
      rfl
  | float q text =>
      cases h
      rfl
  | _ => cases h

/-- A saved state with a score that is an integer, a count that is a text, no
    messages and a field of an older schema. -/
theorem stateUpgrade_exact_mixed :
    UpgradedAsSaid
      (.dict [("faithfulness_score", .int 1), ("retry_count", .str "2"), ("messages", .none),
        ("query", .str "how many"), ("rank", .int 4)])
      (upgradeState { plainEnv with toFloat := floatOfNumber }
        (.dict [("faithfulness_score", .int 1), ("retry_count", .str "2"), ("messages", .none),
          ("query", .str "how many"), ("rank", .int 4)])) :=
  ((stateUpgrade_exact _ floatOfNumber_returnsFloats).1 _).1

end Main

end StateCrypto

end AgenticRag
