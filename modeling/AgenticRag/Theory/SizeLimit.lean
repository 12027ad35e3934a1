import Mathlib.Algebra.Order.BigOperators.Group.List
import AgenticRag.Theory.Truncation

/-!
# The Size of a Saved State

What the size limit guarantees. A state that fits is left alone. Otherwise the
large fields are cut one by one until it fits, and if that is not enough three
lists are emptied and three texts cut once more. Nothing else is ever cut: the
bytes of any other field, the items of a list below the floor for an item, and
the values of a mapping that are no texts all stay.

The size of a state is the sum over its fields, so what is left can be added up
from the state as it is given. `Clampable` does so, and it is exactly when the
result is within the limit.

## Main definitions

* `fieldBytes`, `stateBytes`: The bytes of a field and of a state.
* `Clampable`: Whether cutting can be enough.

## Theorems

* `estimateSize_dict`: The size of a state is the sum over its fields.
* `cutFields_perm`, `dropCollections_perm`: What the loops leave.
* `clampStateSize_fits_iff`: When the result is within the limit.
-/

namespace AgenticRag

namespace StateCrypto

open Py Ordered

section Sizes

/-- The bytes of a field in the JSON of a state: its name, its value and what
    stands between. -/
def fieldBytes (name : String) (value : Val) : Nat :=
  (jsonStr name).utf8ByteSize + estimateSize value + 4

/-- The size of the fields. -/
def stateBytes (d : Dict) : Nat :=
  (d.map (fun p => fieldBytes p.1 p.2)).sum

theorem utf8ByteSize_join_dumpsDict (p : String × Val) (rest : Dict) :
    (join ", " (Val.dumpsDict (p :: rest))).utf8ByteSize + 2 = stateBytes (p :: rest) := by
  induction rest generalizing p with
  | nil =>
      rcases p with ⟨k, v⟩
      have hcolon : (": " : String).utf8ByteSize = 2 := by decide
      simp [Val.dumpsDict, join, stateBytes, fieldBytes, estimateSize, hcolon]
      omega
  | cons q rest ih =>
      rcases p with ⟨k, v⟩
      have hcolon : (": " : String).utf8ByteSize = 2 := by decide
      have hcomma : (", " : String).utf8ByteSize = 2 := by decide
      have hrest : Val.dumpsDict (q :: rest) ≠ [] := by
        rw [Val.dumpsDict]
        exact List.cons_ne_nil _ _
      have hsum : stateBytes ((k, v) :: q :: rest) = fieldBytes k v + stateBytes (q :: rest) := by
        rw [stateBytes, List.map_cons, List.sum_cons, ← stateBytes]
      rw [Val.dumpsDict, join_cons _ _ hrest, hsum, ← ih q]
      simp only [String.utf8ByteSize_append, hcolon, hcomma, fieldBytes, estimateSize]
      omega

/-- The size of a state is the sum over its fields. The braces are what a
    comma behind the last field would be. -/
theorem estimateSize_dict {d : Dict} (h : d ≠ []) : estimateSize (.dict d) = stateBytes d := by
  cases d with
  | nil => exact absurd rfl h
  | cons p rest =>
      have hopen : ("\x7b" : String).utf8ByteSize = 1 := by decide
      have hclose : ("\x7d" : String).utf8ByteSize = 1 := by decide
      rw [← utf8ByteSize_join_dumpsDict, estimateSize, Val.dumps]
      simp only [String.utf8ByteSize_append, hopen, hclose]
      omega

theorem stateBytes_perm {d e : Dict} (h : d.Perm e) : stateBytes d = stateBytes e :=
  (h.map _).sum_eq

end Sizes

section Remnants

/-- A state with some of its fields cut. -/
def cutFor (limit : Nat) (fields : List String) (d : Dict) : Dict :=
  d.map (fun p => (p.1, if p.1 ∈ fields then clampValue limit p.2 else p.2))

/-- The lists that are emptied. -/
def droppedLists : List String := ["retrieved_docs", "graded_docs", "messages"]

/-- What is left of a field when all is cut, the texts twice. -/
def remnant (maxBytes : Nat) (name : String) (value : Val) : Val :=
  let cut := if name ∈ largeStateFields then clampValue (perField maxBytes) value else value
  if name ∈ keptTexts then clampText (perText maxBytes) cut else cut

/-- What is left of a state when all is cut and dropped. -/
def remnants (maxBytes : Nat) (d : Dict) : Dict :=
  droppedLists.map (fun name => (name, .list [])) ++
    (d.filter (fun p => decide (p.1 ∉ droppedLists))).map
      (fun p => (p.1, remnant maxBytes p.1 p.2))

theorem map_value_keys (g : String → Val → Val) (d : Dict) :
    (d.map (fun p => (p.1, g p.1 p.2))).map Prod.fst = d.map Prod.fst := by
  rw [List.map_map]
  rfl

variable {d : Dict} (hd : (d.map Prod.fst).Nodup)
include hd

theorem clampField_keys_nodup (limit : Nat) (field : String) :
    ((clampField limit d field).map Prod.fst).Nodup := by
  unfold clampField
  split
  · exact hd
  · exact keys_dictSet_nodup _ _ hd

theorem cutFields_keys_nodup (limit : Nat) (fields : List String) :
    ((cutFields limit d fields).map Prod.fst).Nodup := by
  induction fields generalizing d with
  | nil => exact hd
  | cons field rest ih => exact ih (clampField_keys_nodup hd limit field)

/-- Cutting fields one by one leaves each with its value cut. -/
theorem cutFields_perm (limit : Nat) {fields : List String} (hfields : fields.Nodup) :
    (cutFields limit d fields).Perm (cutFor limit fields d) := by
  refine perm_of_lookup_eq (cutFields_keys_nodup hd limit fields) ?_ ?_
  · rw [cutFor, map_value_keys (fun k v => if k ∈ fields then clampValue limit v else v)]
    exact hd
  · intro k
    rw [lookup_cutFields limit d hfields, cutFor,
      lookup_map_value (fun k v => if k ∈ fields then clampValue limit v else v)]
    by_cases hk : k ∈ fields
    · simp only [if_pos hk]
    · simp only [if_neg hk, Option.map_id']

theorem truncateKey_keys_nodup (limit : Nat) (key : String) :
    ((truncateKey limit d key).map Prod.fst).Nodup := by
  unfold truncateKey
  split
  · exact keys_dictSet_nodup _ _ hd
  · exact hd

theorem foldl_truncateKey_keys_nodup (limit : Nat) (keys : List String) :
    ((keys.foldl (truncateKey limit) d).map Prod.fst).Nodup := by
  induction keys generalizing d with
  | nil => exact hd
  | cons key rest ih => exact ih (truncateKey_keys_nodup hd limit key)

theorem dropCollections_keys_nodup (maxBytes : Nat) :
    ((dropCollections maxBytes d).map Prod.fst).Nodup := by
  unfold dropCollections
  refine foldl_truncateKey_keys_nodup ?_ _ _
  simp only [List.foldl_cons, List.foldl_nil]
  exact keys_dictSet_nodup _ _ (keys_dictSet_nodup _ _ (keys_dictSet_nodup _ _ hd))

theorem remnants_keys_nodup (maxBytes : Nat) :
    ((remnants maxBytes d).map Prod.fst).Nodup := by
  have hlists : (droppedLists.map (fun name => (name, Val.list []))).map Prod.fst =
      droppedLists := by
    decide
  rw [remnants, List.map_append, hlists, map_value_keys (remnant maxBytes), List.nodup_append]
  refine ⟨by decide, (List.filter_sublist.map Prod.fst).nodup hd, ?_⟩
  intro name hname other hother heq
  -- What was kept is none of the lists.
  rcases List.mem_map.mp hother with ⟨p, hp, rfl⟩
  have hkept := (List.mem_filter.mp hp).2
  exact of_decide_eq_true hkept (heq ▸ hname)

/-- Dropping what can be dropped after cutting all leaves the remnants. -/
theorem dropCollections_perm (maxBytes : Nat) :
    (dropCollections maxBytes (cutFields (perField maxBytes) d largeStateFields)).Perm
      (remnants maxBytes d) := by
  -- Both have each key once, so it is enough to look every key up.
  refine perm_of_lookup_eq
    (dropCollections_keys_nodup (cutFields_keys_nodup hd _ _) maxBytes)
    (remnants_keys_nodup hd maxBytes) ?_
  intro k
  have hcut := lookup_cutFields (perField maxBytes) d
    (nodup_of_start (List.prefix_refl largeStateFields)) k
  have hleft : (remnants maxBytes d).lookup k =
      if k ∈ droppedLists then some (.list []) else (d.lookup k).map (remnant maxBytes k) := by
    rw [remnants, List.lookup_append, lookup_map_const, lookup_map_value (remnant maxBytes),
      lookup_filter_key (fun k => decide (k ∉ droppedLists))]
    by_cases hk : k ∈ droppedLists <;> simp [hk]
  have hempty := lookup_foldl_dictSet droppedLists (.list [])
    (cutFields (perField maxBytes) d largeStateFields) k
  rw [hleft]
  unfold dropCollections
  dsimp only
  rw [lookup_foldl_map (fun _ => clampText (max 256 (maxBytes / 10)))
    (lookup_truncateKey _) (by decide), ← droppedLists, hempty, hcut]
  by_cases hk : k ∈ droppedLists
  · -- None of the lists is one of the texts.
    have hapart : ∀ name ∈ droppedLists, name ∉ keptTexts := by decide
    simp only [if_pos hk, if_neg (hapart k hk)]
  · simp only [if_neg hk]
    cases d.lookup k with
    | none => simp
    | some value =>
        by_cases hlarge : k ∈ largeStateFields <;> by_cases htext : k ∈ keptTexts <;>
          simp [remnant, hlarge, htext, perText]

end Remnants

section Limit

/-- The limit in bytes. -/
def maxBytesOf (maxSizeMb : ℚ) : Nat := ⌊maxSizeMb * 1024 * 1024⌋₊

/-- Whether cutting can be enough, added up from the state as it is given: it
    fits, or it does with the first of the large fields cut, or what is left
    when all is cut and dropped does. -/
def Clampable (maxBytes : Nat) (d : Dict) : Prop :=
  estimateSize (.dict d) ≤ maxBytes ∨
  (d ≠ [] ∧ ∃ done, done <+: largeStateFields ∧
    stateBytes (cutFor (perField maxBytes) done d) ≤ maxBytes) ∨
  stateBytes (remnants maxBytes d) ≤ maxBytes

variable {d : Dict}

/-- The size of a state whose fields were cut one by one. -/
theorem estimateSize_cutFields (hd : (d.map Prod.fst).Nodup) (hne : d ≠ []) (limit : Nat)
    {done : List String} (hdone : done <+: largeStateFields) :
    estimateSize (.dict (cutFields limit d done)) = stateBytes (cutFor limit done d) := by
  have hperm := cutFields_perm hd limit (nodup_of_start hdone)
  have hcut : cutFor limit done d ≠ [] := by
    unfold cutFor
    simpa using hne
  have hcut' : cutFields limit d done ≠ [] := by
    intro hnil
    rw [hnil] at hperm
    exact hcut hperm.nil_eq.symm
  rw [estimateSize_dict hcut', stateBytes_perm hperm]

/-- The size of a state of which all was cut and dropped. -/
theorem estimateSize_dropCollections (hd : (d.map Prod.fst).Nodup) (maxBytes : Nat) :
    estimateSize (.dict (dropCollections maxBytes
      (cutFields (perField maxBytes) d largeStateFields))) = stateBytes (remnants maxBytes d) := by
  have hperm := dropCollections_perm hd maxBytes
  have hne : dropCollections maxBytes (cutFields (perField maxBytes) d largeStateFields) ≠ [] := by
    intro hnil
    rw [hnil] at hperm
    -- The emptied lists are there in any case.
    exact List.cons_ne_nil _ _ hperm.nil_eq.symm
  rw [estimateSize_dict hne, stateBytes_perm hperm]

theorem cutFields_nil (limit : Nat) (fields : List String) : cutFields limit [] fields = [] := by
  induction fields with
  | nil => rfl
  | cons field rest ih => exact ih

/-- Cutting is enough exactly where it can be. -/
theorem clampStateSize_le_iff (hd : (d.map Prod.fst).Nodup) (maxBytes : Nat) :
    estimateSize (.dict (clampStateSize maxBytes d)) ≤ maxBytes ↔ Clampable maxBytes d := by
  rcases clampStateSize_cases maxBytes d with ⟨done, hdone, heq, hsmall, -⟩ | ⟨heq, hall⟩
  · -- Some fields were cut, and that was enough.
    have hfits := Nat.not_lt.mp hsmall
    rw [heq]
    refine ⟨fun _ => ?_, fun _ => hfits⟩
    by_cases hne : d = []
    · rw [hne, cutFields_nil] at hfits
      exact Or.inl (hne ▸ hfits)
    · rw [estimateSize_cutFields hd hne _ hdone] at hfits
      exact Or.inr (Or.inl ⟨hne, done, hdone, hfits⟩)
  · -- All were cut, and no part of them was enough.
    rw [heq, estimateSize_dropCollections hd]
    constructor
    · exact fun hfits => Or.inr (Or.inr hfits)
    · rintro (hfits | ⟨hne, done, hdone, hfits⟩ | hfits)
      · exact absurd hfits (Nat.not_le.mpr (hall [] List.nil_prefix))
      · rw [← estimateSize_cutFields hd hne _ hdone] at hfits
        exact absurd hfits (Nat.not_le.mpr (hall done hdone))
      · exact hfits

/-- The result is within the limit exactly where cutting can be enough, and a
    state that fits is given back as it is. -/
theorem clampStateSize_fits_iff (hd : (d.map Prod.fst).Nodup) {maxSizeMb : ℚ}
    (hpos : 0 < maxSizeMb) :
    ((estimateSize (.dict (clampStateSize (maxBytesOf maxSizeMb) d)) : ℚ) ≤
        maxSizeMb * 1024 * 1024 ↔ Clampable (maxBytesOf maxSizeMb) d) ∧
      ((estimateSize (.dict d) : ℚ) ≤ maxSizeMb * 1024 * 1024 →
        clampStateSize (maxBytesOf maxSizeMb) d = d) := by
  have hlimit : 0 ≤ maxSizeMb * 1024 * 1024 := by positivity
  rw [← clampStateSize_le_iff hd, ← Nat.le_floor_iff hlimit, ← Nat.le_floor_iff hlimit]
  refine ⟨Iff.rfl, fun hfits => ?_⟩
  unfold clampStateSize
  exact if_pos hfits

end Limit

section Overflow

/-- A field that is not among the large ones stays as it is. -/
theorem lookup_clampStateSize_of_not_large (maxBytes : Nat) (d : Dict) {field : String}
    (hfield : field ∉ largeStateFields) :
    (clampStateSize maxBytes d).lookup field = d.lookup field := by
  have hcut : ∀ done, done <+: largeStateFields →
      (cutFields (perField maxBytes) d done).lookup field = d.lookup field := by
    intro done hdone
    rw [lookup_cutFields _ _ (nodup_of_start hdone),
      if_neg (fun hmem => hfield (hdone.sublist.subset hmem))]
  have htexts : ∀ name ∈ keptTexts, name ∈ largeStateFields := by decide
  have hlists : ∀ name ∈ droppedLists, name ∈ largeStateFields := by decide
  rcases clampStateSize_cases maxBytes d with ⟨done, hdone, heq, -, -⟩ | ⟨heq, -⟩
  · rw [heq, hcut done hdone]
  · rw [heq]
    unfold dropCollections
    dsimp only
    rw [lookup_foldl_map (fun _ => clampText (max 256 (maxBytes / 10)))
      (lookup_truncateKey _) (by decide), ← droppedLists, lookup_foldl_dictSet,
      if_neg (fun hmem => hfield (htexts field hmem)),
      if_neg (fun hmem => hfield (hlists field hmem)), hcut _ (List.prefix_refl _)]

/-- A state is larger than any of its values. -/
theorem estimateSize_lt_of_lookup {d : Dict} {field : String} {v : Val}
    (h : d.lookup field = some v) : estimateSize v < estimateSize (.dict d) := by
  have hmem := mem_of_lookup h
  rw [estimateSize_dict (List.ne_nil_of_mem hmem)]
  have hle : fieldBytes field v ≤ stateBytes d :=
    List.single_le_sum (fun _ _ => Nat.zero_le _) _
      (List.mem_map.mpr ⟨(field, v), hmem, rfl⟩)
  unfold fieldBytes at hle
  omega

/-- So the limit is passed by any such field that is too large by itself. -/
theorem estimateSize_clampStateSize_of_not_large (maxBytes : Nat) {d : Dict} {field : String}
    (hfield : field ∉ largeStateFields) {v : Val} (hv : d.lookup field = some v) :
    estimateSize v < estimateSize (.dict (clampStateSize maxBytes d)) :=
  estimateSize_lt_of_lookup (by rw [lookup_clampStateSize_of_not_large maxBytes d hfield, hv])

theorem estimateSize_replicate (n : Nat) :
    estimateSize (.str (String.ofList (List.replicate n 'a'))) = n + 2 := by
  have hchars : (List.replicate n 'a').flatMap jsonChar = List.replicate n 'a' := by
    induction n with
    | zero => rfl
    | succ n ih =>
        rw [List.replicate_succ, List.flatMap_cons, ih]
        rfl
  have hascii : ∀ c ∈ ['"'] ++ List.replicate n 'a' ++ ['"'], c.utf8Size = 1 := by
    intro c hc
    simp only [List.mem_append, List.mem_singleton] at hc
    rcases hc with (rfl | hc) | rfl
    · rfl
    · rw [List.eq_of_mem_replicate hc]
      rfl
    · rfl
  rw [estimateSize, Val.dumps, jsonStr, String.toList_ofList, hchars, utf8ByteSize_ascii hascii]
  simp only [List.length_append, List.length_replicate, List.length_singleton]
  omega

/-- A state that has only a query, of a given length. -/
def queryState (n : Nat) : Dict :=
  [("query", .str (String.ofList (List.replicate n 'a')))]

/-- A query of a million characters is over a limit of one megabyte, and stays
    so. -/
theorem clampStateSize_exceeds :
    ¬ (estimateSize (.dict (clampStateSize (maxBytesOf 1) (queryState (1024 * 1024)))) : ℚ) ≤
      1 * 1024 * 1024 := by
  have hquery : (queryState (1024 * 1024)).lookup "query" =
      some (.str (String.ofList (List.replicate (1024 * 1024) 'a'))) := rfl
  have hlarge := estimateSize_clampStateSize_of_not_large (maxBytesOf 1) (by decide) hquery
  rw [estimateSize_replicate] at hlarge
  intro hle
  have hle' : estimateSize (.dict (clampStateSize (maxBytesOf 1) (queryState (1024 * 1024)))) ≤
      1 * 1024 * 1024 := by
    exact_mod_cast hle
  omega

/-- A short query within a megabyte, with the limit it is held to. -/
theorem clampStateSize_fits_iff_short :
    ((estimateSize (.dict (clampStateSize (maxBytesOf 1) (queryState 3))) : ℚ) ≤
        1 * 1024 * 1024 ↔ Clampable (maxBytesOf 1) (queryState 3)) ∧
      ((estimateSize (.dict (queryState 3)) : ℚ) ≤ 1 * 1024 * 1024 →
        clampStateSize (maxBytesOf 1) (queryState 3) = queryState 3) :=
  clampStateSize_fits_iff (by decide) (by norm_num)

end Overflow

end StateCrypto

end AgenticRag
