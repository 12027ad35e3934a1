import AgenticRag.Core.CanvasState
import AgenticRag.Lib.JsonRoundTrip

/-!
# Restoring a State

Whether a state that was saved and restored is the state, brought up to the
schema. The cipher, the packer and the compression are taken to be undone by
their inverses, and JSON is (`Json.loads_dumps`).

What is left is the sensitive fields. A value other than a string is encrypted
as JSON and read back as JSON. A string is encrypted as it is, and if it
happens to be a JSON text, it comes back as what the text says
(`lookup_decrypt_encrypt`). The upgrade then converts that to the type of the
field. Three of the fields are lists. There the characters of the string would
have come back, and a JSON text has more characters than what it says has
parts, so the difference always shows. The answer is a string, and there it
depends on whether `str` writes the value as the text did.

So a state comes back exactly when the answer is the only sensitive field with
a JSON text, if there is one, and `str` gives it back
(`secureRoundTrip_iff`).

## Main definitions

* `CryptoEnv.Lawful`: What is relied on outside the repository.
* `Survives`: No sensitive string is changed by being read as JSON.

## Theorems

* `lookup_upgradeState`: What the upgrade leaves in a field.
* `upgradeState_eq_iff`: States that differ in sensitive strings.
* `secureRoundTrip_iff`: When a state comes back.
-/

namespace AgenticRag

namespace StateCrypto

open Py Ordered

variable {ι β : Type} {env : CryptoEnv ι β}

/-- Decryption undoes encryption, and so do unpacking and decompression. -/
structure CryptoEnv.Lawful (env : CryptoEnv ι β) : Prop where
  decrypts : ∀ iv text, env.decryptText (env.encryptText iv text) = some text
  unpacks : ∀ v, Json.Plain env.readFloat env.decodeDepth v →
    ∃ data, env.packb v = some data ∧ env.unpackb data = some v
  unarchives : ∀ data, env.unarchive (env.archive data) = some data

section Fields

/-- What a sensitive value is stored as. -/
def stored (env : CryptoEnv ι β) (iv : ι) : Val → Val
  | .none => .none
  | value => .str (encryptValue env iv value)

/-- What a stored value is opened to. -/
def opened (env : CryptoEnv ι β) : Val → Val
  | .str ciphertext => (decryptValue env ciphertext).getD (.str ciphertext)
  | value => value

/-- What a sensitive value comes back as. -/
def reread (env : CryptoEnv ι β) : Val → Val
  | .str text => valueOfPlaintext env text
  | value => value

theorem lookup_encryptField (ivs : String → ι) (d : Dict) (field k : String) :
    (encryptField env ivs d field).lookup k =
      if k = field then (d.lookup k).map (stored env (ivs field)) else d.lookup k := by
  unfold encryptField
  by_cases hk : k = field
  · rw [if_pos hk, hk]
    split
    next hnone => rw [hnone, Option.map_none]
    next hvalue => rw [hvalue, Option.map_some, stored]
    next value hne hvalue =>
      rw [lookup_dictSet, if_pos rfl, hvalue, Option.map_some, stored]
      exact hne
  · rw [if_neg hk]
    split
    · rfl
    · rfl
    · rw [lookup_dictSet, if_neg hk]

theorem lookup_decryptField (d : Dict) (field k : String) :
    (decryptField env d field).lookup k =
      if k = field then (d.lookup k).map (opened env) else d.lookup k := by
  unfold decryptField
  by_cases hk : k = field
  · rw [if_pos hk, hk]
    split
    next ciphertext hvalue =>
      rw [hvalue, Option.map_some, opened]
      cases hdecrypt : decryptValue env ciphertext with
      | some value => rw [lookup_dictSet, if_pos rfl, Option.getD_some]
      | none => rw [hvalue, Option.getD_none]
    next hne =>
      cases hvalue : d.lookup field with
      | none => rfl
      | some value =>
          cases value with
          | str ciphertext => exact absurd hvalue (hne ciphertext)
          | _ => rfl
  · rw [if_neg hk]
    split
    · split
      · rw [lookup_dictSet, if_neg hk]
      · rfl
    · rfl

theorem keys_encryptField (ivs : String → ι) (d : Dict) (field : String) :
    (encryptField env ivs d field).map Prod.fst = d.map Prod.fst := by
  unfold encryptField
  split
  · rfl
  · rfl
  next value _ hvalue =>
    rw [keys_dictSet, if_pos]
    exact List.mem_map.mpr ⟨_, mem_of_lookup hvalue, rfl⟩

theorem keys_decryptField (d : Dict) (field : String) :
    (decryptField env d field).map Prod.fst = d.map Prod.fst := by
  unfold decryptField
  split
  next ciphertext hvalue =>
    split
    · rw [keys_dictSet, if_pos]
      exact List.mem_map.mpr ⟨_, mem_of_lookup hvalue, rfl⟩
    · rfl
  · rfl

theorem keys_foldl {φ : Type} {step : Dict → φ → Dict}
    (hstep : ∀ d f, (step d f).map Prod.fst = d.map Prod.fst) (fields : List φ) (d : Dict) :
    (fields.foldl step d).map Prod.fst = d.map Prod.fst := by
  induction fields generalizing d with
  | nil => rfl
  | cons f rest ih => rw [List.foldl_cons, ih, hstep]

theorem find?_eq_of_mem {fields : List String} {k : String} :
    fields.find? (fun f => decide (f = k)) = if k ∈ fields then some k else none := by
  split
  next hmem =>
    cases hfind : fields.find? (fun f => decide (f = k)) with
    | none =>
        have hnone := List.find?_eq_none.mp hfind k hmem
        simp at hnone
    | some f =>
        have heq : f = k := by simpa using List.find?_some hfind
        rw [heq]
  next hmem =>
    rw [List.find?_eq_none]
    intro f hf
    have hne : ¬ f = k := fun heq => hmem (heq ▸ hf)
    simpa using hne

/-- A loop over fields that maps the value of each. -/
theorem lookup_foldl_map {step : Dict → String → Dict} (g : String → Val → Val)
    (hstep : ∀ d f k, (step d f).lookup k =
      if k = f then (d.lookup k).map (g f) else d.lookup k) {fields : List String}
    (hnodup : fields.Nodup) (d : Dict) (k : String) :
    (fields.foldl step d).lookup k =
      if k ∈ fields then (d.lookup k).map (g k) else d.lookup k := by
  have hupdate := lookup_foldl_update id (fun f v => v.map (g f)) hstep fields
    (by rwa [List.map_id]) d k
  simp only [id_eq, find?_eq_of_mem] at hupdate
  rw [hupdate]
  split_ifs <;> rfl

theorem plain_stored (iv : ι) (depth : Nat) (v : Val) :
    Json.Plain env.readFloat depth (stored env iv v) := by
  -- Nothing, or a string.
  cases depth <;> cases v <;> trivial

/-- A value that is stored and opened comes back, unless it is a string that
    is read as JSON. -/
theorem opened_stored (hlaw : env.Lawful) (iv : ι) {v : Val}
    (hplain : Json.Plain env.readFloat env.decodeDepth v) :
    opened env (stored env iv v) = reread env v := by
  have hopened : ∀ w d, (decryptValue env (encryptValue env iv w)).getD d =
      valueOfPlaintext env (plaintextOf w) := by
    intro w d
    rw [decryptValue, encryptValue, hlaw.decrypts, Option.map_some, Option.getD_some]
  have hjson : valueOfPlaintext env v.dumps = v := by
    rw [valueOfPlaintext, Json.loads_dumps hplain]
  -- The plaintext of a string is the string, and of anything else its JSON.
  cases v with
  | none => rfl
  | str text => exact hopened _ _
  | _ => exact (hopened _ _).trans hjson

end Fields

section Saved

variable {ivs : String → ι} {state : Dict}

/-- The values of a plain state are plain. -/
theorem plain_of_lookup (hplain : Json.Plain env.readFloat env.decodeDepth (.dict state))
    {k : String} {v : Val} (h : state.lookup k = some v) :
    Json.Plain env.readFloat env.decodeDepth v := by
  rcases Json.plain_dict_iff.mp hplain with ⟨depth, hdepth, -, hvalues⟩
  rw [hdepth]
  exact Json.plain_succ (hvalues (k, v) (mem_of_lookup h))

theorem keys_nodup_of_plain (hplain : Json.Plain env.readFloat env.decodeDepth (.dict state)) :
    (state.map Prod.fst).Nodup := by
  rcases Json.plain_dict_iff.mp hplain with ⟨_, _, hnodup, _⟩
  exact hnodup

theorem lookup_encrypt (k : String) : (encryptSensitiveFields env ivs state).lookup k =
    if k ∈ sensitiveStateFields then (state.lookup k).map (stored env (ivs k))
    else state.lookup k :=
  lookup_foldl_map (fun f => stored env (ivs f)) (lookup_encryptField ivs) (by decide) state k

theorem lookup_decrypt (k : String) : (decryptSensitiveFields env state).lookup k =
    if k ∈ sensitiveStateFields then (state.lookup k).map (opened env) else state.lookup k :=
  lookup_foldl_map (fun _ => opened env) lookup_decryptField (by decide) state k

/-- A sensitive field comes back as what its value is read as, and the others
    as they were. -/
theorem lookup_decrypt_encrypt (hlaw : env.Lawful)
    (hplain : Json.Plain env.readFloat env.decodeDepth (.dict state)) (k : String) :
    (decryptSensitiveFields env (encryptSensitiveFields env ivs state)).lookup k =
      if k ∈ sensitiveStateFields then (state.lookup k).map (reread env) else state.lookup k := by
  rw [lookup_decrypt, lookup_encrypt]
  split_ifs with hk
  · cases hvalue : state.lookup k with
    | none => rfl
    | some v =>
        rw [Option.map_some, Option.map_some, Option.map_some,
          opened_stored hlaw (ivs k) (plain_of_lookup hplain hvalue)]
  · rfl

theorem keys_encrypt (ivs : String → ι) (state : Dict) :
    (encryptSensitiveFields env ivs state).map Prod.fst = state.map Prod.fst :=
  keys_foldl (keys_encryptField ivs) sensitiveStateFields state

theorem keys_decrypt : (decryptSensitiveFields env state).map Prod.fst = state.map Prod.fst :=
  keys_foldl keys_decryptField sensitiveStateFields state

/-- The encrypted state is plain. -/
theorem plain_encrypt (hplain : Json.Plain env.readFloat env.decodeDepth (.dict state)) :
    Json.Plain env.readFloat env.decodeDepth (.dict (encryptSensitiveFields env ivs state)) := by
  rcases Json.plain_dict_iff.mp hplain with ⟨depth, hdepth, hnodup, hvalues⟩
  have hkeys : ((encryptSensitiveFields env ivs state).map Prod.fst).Nodup := by
    rw [keys_encrypt]
    exact hnodup
  refine Json.plain_dict_iff.mpr ⟨depth, hdepth, hkeys, ?_⟩
  rintro ⟨k, w⟩ hp
  have hlookup := lookup_of_mem _ hkeys hp
  rw [lookup_encrypt] at hlookup
  split_ifs at hlookup
  · -- What is stored is a string, or nothing.
    rcases Option.map_eq_some_iff.mp hlookup with ⟨v, -, rfl⟩
    exact plain_stored (ivs k) depth v
  · exact hvalues (k, w) (mem_of_lookup hlookup)

end Saved

section Upgrade

/-- What the upgrade makes of a field, given its default. -/
def upgradedField (env : CryptoEnv ι β) (field : String × Val) : Option Val → Option Val
  | none => some field.2
  | some value =>
      match standardStateFields.lookup field.1 with
      | none => some value
      | some expected => some (upgradeValue env expected field.2 value)

theorem lookup_upgradeField (d : Dict) (field : String × Val) (k : String) :
    (upgradeField env d field).lookup k =
      if k = field.1 then upgradedField env field (d.lookup k) else d.lookup k := by
  unfold upgradeField
  by_cases hk : k = field.1
  · rw [if_pos hk, hk]
    cases hvalue : d.lookup field.1 with
    | none => rw [lookup_dictSet, if_pos rfl, upgradedField]
    | some value =>
        dsimp only [upgradedField]
        cases standardStateFields.lookup field.1 with
        | none => exact hvalue
        | some expected => rw [lookup_dictSet, if_pos rfl]
  · rw [if_neg hk]
    split
    · rw [lookup_dictSet, if_neg hk]
    · split
      · rfl
      · rw [lookup_dictSet, if_neg hk]

/-- What the upgrade leaves in a field: the version of the schema, for the
    fields of the schema what it makes of them, and the rest as it was. -/
theorem lookup_upgradeState (d : Dict) (k : String) :
    (upgradeState env (.dict d)).lookup k =
      if k = schemaVersionKey then some (.str stateSchemaVersion)
      else
        (defaultStateValues.find? (fun field => decide (field.1 = k))).elim (d.lookup k)
          (fun field => upgradedField env field (d.lookup k)) := by
  unfold upgradeState
  dsimp only
  rw [lookup_dictSet]
  split
  · rfl
  · exact lookup_foldl_update Prod.fst (upgradedField env) lookup_upgradeField defaultStateValues
      (by decide) d k

/-- The upgrade adds a field that is missing. -/
theorem keys_upgradeField (d : Dict) (field : String × Val) :
    (upgradeField env d field).map Prod.fst = (dictSet field.1 field.2 d).map Prod.fst := by
  unfold upgradeField
  split
  · rfl
  next value hvalue =>
    have hmem : field.1 ∈ d.map Prod.fst := List.mem_map.mpr ⟨_, mem_of_lookup hvalue, rfl⟩
    rw [keys_dictSet, if_pos hmem]
    split
    · rfl
    · rw [keys_dictSet, if_pos hmem]

/-- The keys after the upgrade are those of an update with the defaults. -/
theorem keys_upgradeFields (fields : Dict) {d e : Dict} (h : d.map Prod.fst = e.map Prod.fst) :
    (fields.foldl (upgradeField env) d).map Prod.fst = (dictUpdate e fields).map Prod.fst := by
  induction fields generalizing d e with
  | nil => exact h
  | cons field rest ih =>
      refine ih ?_
      rw [keys_upgradeField, keys_dictSet, keys_dictSet, h]

theorem keys_upgradeState {d e : Dict} (h : d.map Prod.fst = e.map Prod.fst) :
    (upgradeState env (.dict d)).map Prod.fst = (upgradeState env (.dict e)).map Prod.fst := by
  unfold upgradeState
  dsimp only
  rw [keys_dictSet, keys_dictSet, keys_upgradeFields defaultStateValues h,
    keys_upgradeFields defaultStateValues rfl]

theorem keys_upgradeState_nodup {d : Dict} (h : (d.map Prod.fst).Nodup) :
    ((upgradeState env (.dict d)).map Prod.fst).Nodup := by
  refine keys_dictSet_nodup _ _ ?_
  rw [keys_upgradeFields defaultStateValues rfl]
  exact keys_dictUpdate_nodup defaultStateValues h

theorem ensureVersion_upgradeState (d : Dict) :
    ensureVersion (upgradeState env (.dict d)) = upgradeState env (.dict d) := by
  unfold ensureVersion
  rw [lookup_upgradeState, if_pos rfl]
  dsimp only
  rw [if_pos rfl]

/-- A list field takes the characters of a string. -/
theorem upgradeValue_list_str (text : String) :
    upgradeValue env .list (.list []) (.str text) =
      .list (text.toList.map (fun c => .str (String.ofList [c]))) := rfl

/-- A string field takes what `str` writes. -/
theorem upgradeValue_str (default value : Val) :
    upgradeValue env .str default value = .str (value.toStr env.unicode) := by
  cases value <;> rfl

/-- What a list field makes of a JSON text and of what it says is never the
    same: the text has more characters than its value has parts. -/
theorem upgradeValue_list_ne {text : String} {value : Val}
    (h : Json.loads env.readFloat env.decodeDepth text = .ok value) :
    upgradeValue env .list (.list []) value ≠ upgradeValue env .list (.list []) (.str text) := by
  -- A list field makes as many items of a value as it has parts.
  have hlt := Json.parts_lt_of_loads h
  have hparts : ∃ xs, upgradeValue env .list (.list []) value = .list xs ∧
      xs.length = Json.parts value := by
    cases value with
    | str s => exact ⟨_, rfl, by rw [List.length_map, String.length_toList, Json.parts]⟩
    | list xs => exact ⟨xs, rfl, rfl⟩
    | dict kvs => exact ⟨_, rfl, by simp [Json.parts]⟩
    | _ => exact ⟨[], rfl, rfl⟩
  rcases hparts with ⟨xs, hxs, hlength⟩
  rw [hxs, upgradeValue_list_str]
  intro heq
  cases heq
  rw [List.length_map, String.length_toList] at hlength
  omega

end Upgrade

section RoundTrip

/-- The only sensitive field that holds a JSON text, if there is one, is the
    answer, and `str` writes what the text says as the text does. -/
def Survives (env : CryptoEnv ι β) (state : Dict) : Prop :=
  ∀ field ∈ sensitiveStateFields, ∀ text value, state.lookup field = some (.str text) →
    Json.loads env.readFloat env.decodeDepth text = .ok value →
      field = "final_answer" ∧ value.toStr env.unicode = text

/-- What the schema says of the sensitive fields. -/
theorem find?_sensitive {field : String} (h : field ∈ sensitiveStateFields) :
    (field = "final_answer" ∧
      defaultStateValues.find? (fun f => decide (f.1 = field)) = some (field, .str "") ∧
      standardStateFields.lookup field = some .str) ∨
    (field ≠ "final_answer" ∧
      defaultStateValues.find? (fun f => decide (f.1 = field)) = some (field, .list []) ∧
      standardStateFields.lookup field = some .list) := by
  simp only [sensitiveStateFields, List.mem_cons, List.not_mem_nil, or_false] at h
  rcases h with rfl | rfl | rfl | rfl
  · exact Or.inr ⟨by decide, rfl, rfl⟩
  · exact Or.inr ⟨by decide, rfl, rfl⟩
  · exact Or.inl ⟨rfl, rfl, rfl⟩
  · exact Or.inr ⟨by decide, rfl, rfl⟩

/-- What the upgrade makes of a sensitive field that is there. -/
theorem lookup_upgradeState_sensitive {d : Dict} {field : String}
    (h : field ∈ sensitiveStateFields) {value : Val} (hvalue : d.lookup field = some value) :
    (upgradeState env (.dict d)).lookup field =
      some (if field = "final_answer" then .str (value.toStr env.unicode)
        else upgradeValue env .list (.list []) value) := by
  -- The version is set last, and is no sensitive field.
  have hversion : field ≠ schemaVersionKey := by
    rintro rfl
    revert h
    decide
  rw [lookup_upgradeState, if_neg hversion]
  rcases find?_sensitive h with ⟨hanswer, hfind, htype⟩ | ⟨hanswer, hfind, htype⟩
  · rw [hfind, Option.elim_some, hvalue, if_pos hanswer, upgradedField]
    dsimp only
    rw [htype]
    dsimp only
    rw [upgradeValue_str]
  · rw [hfind, Option.elim_some, hvalue, if_neg hanswer, upgradedField]
    dsimp only
    rw [htype]

variable {state restored : Dict}

/-- The upgrade hides that sensitive strings were read as JSON exactly when
    they survive it. -/
theorem upgradeState_eq_iff (hkeys : restored.map Prod.fst = state.map Prod.fst)
    (hnodup : (state.map Prod.fst).Nodup)
    (hlookup : ∀ k, restored.lookup k =
      if k ∈ sensitiveStateFields then (state.lookup k).map (reread env) else state.lookup k) :
    upgradeState env (.dict restored) = upgradeState env (.dict state) ↔ Survives env state := by
  constructor
  · intro heq field hfield text value htext hloads
    have hrestored : restored.lookup field = some value := by
      rw [hlookup, if_pos hfield, htext, Option.map_some, reread, valueOfPlaintext, hloads]
    -- Compared at the field that holds the text.
    have hsame := congrArg (List.lookup field) heq
    rw [lookup_upgradeState_sensitive hfield hrestored,
      lookup_upgradeState_sensitive hfield htext] at hsame
    split_ifs at hsame with hanswer
    · exact ⟨hanswer, by simpa [Val.toStr] using hsame⟩
    · exact absurd (Option.some.inj hsame) (upgradeValue_list_ne hloads)
  · intro hsurvives
    -- Both have the same keys in the same order, so their values are compared.
    refine dict_ext (keys_upgradeState hkeys)
      (keys_upgradeState_nodup (hkeys ▸ hnodup)) (fun k => ?_)
    by_cases hk : k ∈ sensitiveStateFields
    · cases hvalue : state.lookup k with
      | none =>
          rw [lookup_upgradeState, lookup_upgradeState, hlookup, if_pos hk, hvalue, Option.map_none]
      | some v =>
          have hrestored : restored.lookup k = some (reread env v) := by
            rw [hlookup, if_pos hk, hvalue, Option.map_some]
          rw [lookup_upgradeState_sensitive hk hrestored, lookup_upgradeState_sensitive hk hvalue]
          cases v with
          | str text =>
              rw [reread, valueOfPlaintext]
              -- A text that is no JSON comes back as it is.
              cases hloads : Json.loads env.readFloat env.decodeDepth text with
              | error e => rfl
              | ok value =>
                  rcases hsurvives k hk text value hvalue hloads with ⟨hanswer, hstr⟩
                  rw [if_pos hanswer, if_pos hanswer, hstr, Val.toStr]
          | _ => rfl
    · rw [lookup_upgradeState, lookup_upgradeState, hlookup, if_neg hk]

/-- A state that is read back is decrypted and brought up to the schema. -/
theorem restoredState_of_aes {d : Dict} (haes : env.hasAes = true)
    (hnodup : (d.map Prod.fst).Nodup) :
    restoredState env (.dict d) =
      some (upgradeState env (.dict (decryptSensitiveFields env d))) := by
  have hdict : pyDict (.dict d) = .ok d := by rw [pyDict, dictOf_of_nodup hnodup]
  unfold restoredState
  rw [if_pos haes, hdict]
  simp only [Except.toOption, Option.map_some, Option.bind_eq_bind, Option.bind_some,
    ensureVersion_upgradeState]
  rfl

/-- Without the cipher it is only brought up to the schema. -/
theorem restoredState_of_not_aes (d : Dict) (haes : ¬ env.hasAes = true) :
    restoredState env (.dict d) = some (upgradeState env (.dict d)) := by
  unfold restoredState
  rw [if_neg haes]
  simp only [Option.bind_eq_bind, Option.bind_some, ensureVersion_upgradeState]
  rfl

/-- A plain state that is within the size when it is written comes back,
    brought up to the schema, exactly when it is not encrypted or its sensitive
    strings survive being read as JSON. -/
theorem restored_iff (hlaw : env.Lawful) (ivs : String → ι)
    (hplain : Json.Plain env.readFloat env.decodeDepth (.dict state)) :
    restoredState env (.dict (if env.hasAes then encryptSensitiveFields env ivs state else state)) =
      some (upgradeState env (.dict state)) ↔ (env.hasAes = true → Survives env state) := by
  have hnodup := keys_nodup_of_plain hplain
  by_cases haes : env.hasAes = true
  · have hiff := upgradeState_eq_iff (keys_decrypt.trans (keys_encrypt ivs state)) hnodup
      (lookup_decrypt_encrypt hlaw hplain)
    rw [if_pos haes, restoredState_of_aes haes (by rwa [keys_encrypt]), Option.some.injEq, hiff]
    exact ⟨fun h _ => h, fun h => h haes⟩
  · refine iff_of_true ?_ (fun h => absurd h haes)
    rw [if_neg haes, restoredState_of_not_aes state haes]

variable {maxBytes : Nat} {ivs : String → ι}

theorem protectedState_of_size
    (hsize : estimateSize (.dict (if env.hasAes then encryptSensitiveFields env ivs state
      else state)) ≤ maxBytes) :
    protectedState env ivs maxBytes state =
      if env.hasAes then encryptSensitiveFields env ivs state else state := by
  rw [protectedState, clampStateSize, if_pos hsize]

theorem plain_protected (ivs : String → ι)
    (hplain : Json.Plain env.readFloat env.decodeDepth (.dict state)) :
    Json.Plain env.readFloat env.decodeDepth
      (.dict (if env.hasAes then encryptSensitiveFields env ivs state else state)) := by
  split
  · exact plain_encrypt hplain
  · exact hplain

/-- What the running workflow reads back is what was written. -/
theorem deserialize_runtime (hplain : Json.Plain env.readFloat env.decodeDepth
      (.dict (protectedState env ivs maxBytes state))) :
    secureDeserializeRuntime env (secureSerializeRuntime env ivs maxBytes state) =
      restoredState env (.dict (protectedState env ivs maxBytes state)) := by
  rw [secureDeserializeRuntime, secureSerializeRuntime, Json.loads_dumps hplain]
  rfl

/-- What is read back from a checkpoint is what was written. -/
theorem deserialize_persistent (hlaw : env.Lawful)
    (hplain : Json.Plain env.readFloat env.decodeDepth
      (.dict (protectedState env ivs maxBytes state))) :
    (secureSerializePersistent env ivs maxBytes state).bind (secureDeserializePersistent env) =
      restoredState env (.dict (protectedState env ivs maxBytes state)) := by
  rcases hlaw.unpacks _ hplain with ⟨data, hpack, hunpack⟩
  rw [secureSerializePersistent, hpack]
  simp only [Option.bind_eq_bind, Option.bind_some, Option.pure_def]
  rw [secureDeserializePersistent, hlaw.unarchives]
  simp only [Option.bind_eq_bind, Option.bind_some, hunpack]

theorem secureDeserializeRuntime_eq
    (hplain : Json.Plain env.readFloat env.decodeDepth (.dict state))
    (hsize : estimateSize (.dict (if env.hasAes then encryptSensitiveFields env ivs state
      else state)) ≤ maxBytes) :
    secureDeserializeRuntime env (secureSerializeRuntime env ivs maxBytes state) =
      restoredState env
        (.dict (if env.hasAes then encryptSensitiveFields env ivs state else state)) := by
  have hwritten := protectedState_of_size hsize
  rw [← hwritten]
  exact deserialize_runtime (hwritten ▸ plain_protected ivs hplain)

theorem secureDeserializePersistent_eq (hlaw : env.Lawful)
    (hplain : Json.Plain env.readFloat env.decodeDepth (.dict state))
    (hsize : estimateSize (.dict (if env.hasAes then encryptSensitiveFields env ivs state
      else state)) ≤ maxBytes) :
    (secureSerializePersistent env ivs maxBytes state).bind (secureDeserializePersistent env) =
      restoredState env
        (.dict (if env.hasAes then encryptSensitiveFields env ivs state else state)) := by
  have hwritten := protectedState_of_size hsize
  rw [← hwritten]
  exact deserialize_persistent hlaw (hwritten ▸ plain_protected ivs hplain)

/-- A plain state that is within the size when it is written comes back from
    the running workflow and from a checkpoint, brought up to the schema,
    exactly when it is not encrypted or its sensitive strings survive being
    read as JSON. -/
theorem secureRoundTrip_iff (hlaw : env.Lawful)
    (hplain : Json.Plain env.readFloat env.decodeDepth (.dict state))
    (hsize : estimateSize (.dict (if env.hasAes then encryptSensitiveFields env ivs state
      else state)) ≤ maxBytes) :
    (secureDeserializeRuntime env (secureSerializeRuntime env ivs maxBytes state) =
        some (upgradeState env (.dict state)) ∧
      (secureSerializePersistent env ivs maxBytes state).bind (secureDeserializePersistent env) =
        some (upgradeState env (.dict state))) ↔
    (env.hasAes = true → Survives env state) := by
  rw [secureDeserializeRuntime_eq hplain hsize, secureDeserializePersistent_eq hlaw hplain hsize,
    and_self]
  exact restored_iff hlaw ivs hplain

/-- An environment with a cipher that puts the initialization vector in front,
    and JSON for packing, as where the packer is missing. -/
def plainEnv : CryptoEnv Char String where
  unicode := default
  readFloat := fun _ => none
  decodeDepth := 1000
  toFloat := fun _ => .error .typeError
  hasAes := true
  encryptText := fun iv text => String.ofList (iv :: text.toList)
  decryptText := fun ciphertext => some (String.ofList (ciphertext.toList.drop 1))
  packb := fun v => some v.dumps
  unpackb := fun data => (Json.loads (fun _ => none) 1000 data).toOption
  archive := id
  unarchive := some

theorem plainEnv_lawful : plainEnv.Lawful where
  decrypts := by
    intro iv text
    simp [plainEnv]
  unpacks := by
    intro v hv
    refine ⟨v.dumps, rfl, ?_⟩
    -- JSON stands for the packer.
    have hloads : Json.loads (fun _ => none) 1000 v.dumps = .ok v := Json.loads_dumps hv
    show (Json.loads (fun _ => none) 1000 v.dumps).toOption = some v
    rw [hloads]
    rfl
  unarchives := fun _ => rfl

/-- A state whose answer is a JSON text that `str` gives back. -/
def countState : Dict :=
  [("query", .str "how many"), ("messages", .list [.dict [("role", .str "user")]]),
    ("final_answer", .str "12")]

theorem countState_plain :
    Json.Plain plainEnv.readFloat plainEnv.decodeDepth (.dict countState) := by
  refine ⟨by decide, ?_⟩
  intro p hp
  simp only [countState, List.mem_cons, List.not_mem_nil, or_false] at hp
  rcases hp with rfl | rfl | rfl
  · trivial
  · intro x hx
    rw [List.mem_singleton.mp hx]
    refine ⟨by decide, ?_⟩
    intro q hq
    rw [List.mem_singleton.mp hq]
    trivial
  · trivial

theorem countState_survives : Survives plainEnv countState := by
  intro field hfield text value htext hloads
  simp only [sensitiveStateFields, List.mem_cons, List.not_mem_nil, or_false] at hfield
  rcases hfield with rfl | rfl | rfl | rfl
  · cases htext
  · cases htext
  · cases htext
    have hread : Json.loads plainEnv.readFloat plainEnv.decodeDepth "12" = .ok (.int 12) := by
      with_unfolding_all rfl
    rw [hread] at hloads
    cases hloads
    exact ⟨rfl, by decide⟩
  · cases htext

/-- The state with the count comes back. -/
theorem secureRoundTrip_iff_count :
    secureDeserializeRuntime plainEnv
        (secureSerializeRuntime plainEnv (fun _ => 'i') 1048576 countState) =
      some (upgradeState plainEnv (.dict countState)) ∧
    (secureSerializePersistent plainEnv (fun _ => 'i') 1048576 countState).bind
        (secureDeserializePersistent plainEnv) =
      some (upgradeState plainEnv (.dict countState)) := by
  refine (secureRoundTrip_iff plainEnv_lawful countState_plain ?_).mpr
    (fun _ => countState_survives)
  decide

/-- A state whose answer is the word `true`. -/
def trueState : Dict := [("final_answer", .str "true")]

theorem trueState_plain : Json.Plain plainEnv.readFloat plainEnv.decodeDepth (.dict trueState) := by
  refine ⟨by decide, ?_⟩
  intro p hp
  rw [List.mem_singleton.mp hp]
  trivial

theorem trueState_not_survives : ¬ Survives plainEnv trueState := by
  intro h
  have hread : Json.loads plainEnv.readFloat plainEnv.decodeDepth "true" = .ok (.bool true) := by
    with_unfolding_all rfl
  have hstr := (h "final_answer" (by decide) "true" (.bool true) rfl hread).2
  exact absurd hstr (by decide)

theorem trueState_size :
    estimateSize (.dict (if plainEnv.hasAes then
      encryptSensitiveFields plainEnv (fun _ => 'i') trueState else trueState)) ≤ 1048576 := by
  decide

/-- The answer comes back as `True`. -/
theorem trueState_not_restored :
    Json.Plain plainEnv.readFloat plainEnv.decodeDepth (.dict trueState) ∧
    estimateSize (.dict (if plainEnv.hasAes then
      encryptSensitiveFields plainEnv (fun _ => 'i') trueState else trueState)) ≤ 1048576 ∧
    secureDeserializeRuntime plainEnv
        (secureSerializeRuntime plainEnv (fun _ => 'i') 1048576 trueState) ≠
      some (upgradeState plainEnv (.dict trueState)) ∧
    (secureSerializePersistent plainEnv (fun _ => 'i') 1048576 trueState).bind
        (secureDeserializePersistent plainEnv) ≠
      some (upgradeState plainEnv (.dict trueState)) := by
  have hnot : ¬ restoredState plainEnv (.dict (if plainEnv.hasAes then
      encryptSensitiveFields plainEnv (fun _ => 'i') trueState else trueState)) =
      some (upgradeState plainEnv (.dict trueState)) := by
    rw [restored_iff plainEnv_lawful _ trueState_plain]
    exact fun h => trueState_not_survives (h rfl)
  rw [secureDeserializeRuntime_eq trueState_plain trueState_size,
    secureDeserializePersistent_eq plainEnv_lawful trueState_plain trueState_size]
  exact ⟨trueState_plain, trueState_size, hnot, hnot⟩

end RoundTrip

end StateCrypto

end AgenticRag
