import AgenticRag.Theory.Restoring

/-!
# Cutting a State

What the size limit does to the sensitive fields of a saved state. A state is
encrypted first and cut to the size afterwards, so what is cut of a sensitive
field is its ciphertext. A ciphertext that was cut is not decrypted, and the
field then shows the ciphertext itself: the answer as a text, and the other
three fields as lists of its characters.

Two things keep a field from this. The fields are cut in a fixed order, and
only until the state is small enough, so a field may not be reached. And if
cutting all of them is not enough, the three lists are emptied. `Uncut` says
that no other sensitive field is too large, and `recovered_of_uncut` that each
is then its default or comes from its plaintext. Base64 refuses a text whose
length is not a multiple of four. Where the limits of a configuration leave no
such length, `uncut_of_recovered` is the other way round.

## Main definitions

* `Truncated`: A value obtained from another by truncation.
* `Recovered`, `Leaked`: What a sensitive field shows.

## Theorems

* `lookup_clampStateSize`: What is left of a sensitive field.
* `truncateText_ascii`: What is left of a ciphertext.
* `sensitive_recovered_iff`: When the sensitive fields are recovered.
-/

namespace AgenticRag

namespace StateCrypto

open Py Ordered

variable {ι β : Type} {env : CryptoEnv ι β}

section Values

/-- What stands for the rest. -/
def truncationMark : String := "...[truncated]"

/-- A value obtained from another by truncation: a text is cut and a part of
    the mark put behind it, a list loses its end, and the same inside. -/
inductive Truncated : Val → Val → Prop
  | same (v : Val) : Truncated v v
  | text (s : String) (n m : Nat) :
      Truncated (.str s) (.str (take s n ++ take truncationMark m))
  | drop (xs : List Val) (n : Nat) : Truncated (.list xs) (.list (xs.take n))
  | item {v w : Val} (xs ys : List Val) (h : Truncated v w) :
      Truncated (.list (xs ++ v :: ys)) (.list (xs ++ w :: ys))
  | value {v w : Val} (kvs kws : Dict) (k : String) (h : Truncated v w) :
      Truncated (.dict (kvs ++ (k, v) :: kws)) (.dict (kvs ++ (k, w) :: kws))
  | again {u v w : Val} (h : Truncated u v) (h' : Truncated v w) : Truncated u w

theorem take_of_length_le {s : String} {n : Nat} (h : s.length ≤ n) : take s n = s := by
  rw [take, List.take_of_length_le (by rwa [String.length_toList]), String.ofList_toList]

theorem truncated_truncateText (s : String) (maxBytes : Nat) :
    Truncated (.str s) (.str (truncateText s maxBytes)) := by
  unfold truncateText
  split
  · exact .same _
  · dsimp only
    split
    · exact .text s _ _
    · have htext := Truncated.text s (fittingLength s.toList maxBytes 0 s.length) 14
      rw [take_of_length_le (s := truncationMark) (by decide)] at htext
      exact htext

/-- A value that is changed in place is found where it stood. -/
theorem dictSet_split {d : Dict} {k : String} {v : Val} (h : d.lookup k = some v) (w : Val) :
    ∃ kvs kws, d = kvs ++ (k, v) :: kws ∧ dictSet k w d = kvs ++ (k, w) :: kws := by
  induction d with
  | nil => cases h
  | cons p rest ih =>
      rcases p with ⟨k', v'⟩
      by_cases hk : k' = k
      · subst hk
        rw [List.lookup_cons, beq_self_eq_true] at h
        cases h
        exact ⟨[], rest, rfl, by rw [dictSet, if_pos rfl, List.nil_append]⟩
      · have hne : (k == k') = false := beq_eq_false_iff_ne.mpr (Ne.symm hk)
        rw [List.lookup_cons, hne] at h
        rcases ih h with ⟨kvs, kws, hd, hset⟩
        refine ⟨(k', v') :: kvs, kws, by rw [hd, List.cons_append], ?_⟩
        rw [dictSet, if_neg hk, hset, List.cons_append]

theorem truncated_dictSet {d : Dict} {k : String} {v w : Val} (h : d.lookup k = some v)
    (hvw : Truncated v w) : Truncated (.dict d) (.dict (dictSet k w d)) := by
  rcases dictSet_split h w with ⟨kvs, kws, hd, hset⟩
  rw [hset, hd]
  exact .value kvs kws k hvw

theorem truncated_truncateKey (maxBytes : Nat) (d : Dict) (key : String) :
    Truncated (.dict d) (.dict (truncateKey maxBytes d key)) := by
  unfold truncateKey
  split
  next text htext => exact truncated_dictSet htext (truncated_truncateText text maxBytes)
  · exact .same _

theorem truncated_foldl_truncateKey (maxBytes : Nat) (keys : List String) (d : Dict) :
    Truncated (.dict d) (.dict (keys.foldl (truncateKey maxBytes) d)) := by
  induction keys generalizing d with
  | nil => exact .same _
  | cons key rest ih => exact (truncated_truncateKey maxBytes d key).again (ih _)

theorem truncated_clampItem (maxBytes : Nat) (v : Val) : Truncated v (clampItem maxBytes v) := by
  unfold clampItem
  split
  next d => exact truncated_foldl_truncateKey maxBytes contentKeys d
  next s => exact truncated_truncateText s maxBytes
  · exact .same _

/-- The loop over the items cuts some of them and drops the rest. -/
theorem clampItems_eq (perItem maxBytes : Nat) (clamped items : List Val) :
    ∃ n, clampItems perItem maxBytes clamped items =
      clamped ++ (items.take n).map (clampItem perItem) := by
  induction items generalizing clamped with
  | nil => exact ⟨0, by simp [clampItems]⟩
  | cons item rest ih =>
      unfold clampItems
      split
      · exact ⟨1, by simp⟩
      · rcases ih (clamped ++ [clampItem perItem item]) with ⟨n, hn⟩
        exact ⟨n + 1, by rw [hn]; simp⟩

theorem truncated_map_clampItem (perItem : Nat) (done items : List Val) :
    Truncated (.list (done ++ items)) (.list (done ++ items.map (clampItem perItem))) := by
  induction items generalizing done with
  | nil => exact .same _
  | cons item rest ih =>
      have hfirst := Truncated.item done rest (truncated_clampItem perItem item)
      have hrest := ih (done ++ [clampItem perItem item])
      rw [List.append_assoc, List.append_assoc] at hrest
      exact hfirst.again hrest

mutual

/-- Cutting a value truncates it. -/
theorem truncated_clampValue (maxBytes : Nat) : ∀ v, Truncated v (clampValue maxBytes v)
  | .str s => by
      rw [clampValue]
      exact truncated_truncateText s maxBytes
  | .list xs => by
      rw [clampValue]
      rcases clampItems_eq (max 256 (maxBytes / max 1 xs.length)) maxBytes [] xs with ⟨n, hn⟩
      rw [hn]
      exact (Truncated.drop xs n).again (truncated_map_clampItem _ [] (xs.take n))
  | .dict kvs => by
      rw [clampValue]
      exact truncated_clampPairs _ [] kvs
  | .none => .same _
  | .bool _ => .same _
  | .int _ => .same _
  | .float _ _ => .same _
  | .object _ _ => .same _

theorem truncated_clampPairs (maxBytes : Nat) (done : Dict) :
    ∀ kvs, Truncated (.dict (done ++ kvs)) (.dict (done ++ clampPairs maxBytes kvs))
  | [] => by
      rw [clampPairs]
      exact .same _
  | (key, v) :: rest => by
      rw [clampPairs]
      have hfirst := Truncated.value done rest key (truncated_clampValue maxBytes v)
      have hrest := truncated_clampPairs maxBytes (done ++ [(key, clampValue maxBytes v)]) rest
      rw [List.append_assoc, List.append_assoc] at hrest
      exact hfirst.again hrest

end

/-- What was truncated is still read back. -/
theorem plain_truncated {readFloat : String → Option (ℚ × String)} {v w : Val}
    (h : Truncated v w) {depth : Nat} (hplain : Json.Plain readFloat depth v) :
    Json.Plain readFloat depth w := by
  induction h generalizing depth with
  | same v => exact hplain
  | text s n m => cases depth <;> trivial
  | drop xs n =>
      rcases Json.plain_list_iff.mp hplain with ⟨d, hd, hitems⟩
      exact Json.plain_list_iff.mpr ⟨d, hd, fun x hx => hitems x (List.mem_of_mem_take hx)⟩
  | item xs ys _ ih =>
      rcases Json.plain_list_iff.mp hplain with ⟨d, hd, hitems⟩
      refine Json.plain_list_iff.mpr ⟨d, hd, ?_⟩
      rw [List.forall_mem_append, List.forall_mem_cons] at hitems ⊢
      exact ⟨hitems.1, ih hitems.2.1, hitems.2.2⟩
  | value kvs kws k _ ih =>
      rcases Json.plain_dict_iff.mp hplain with ⟨d, hd, hnodup, hvalues⟩
      refine Json.plain_dict_iff.mpr ⟨d, hd, ?_, ?_⟩
      · rw [List.map_append, List.map_cons] at hnodup ⊢
        exact hnodup
      · rw [List.forall_mem_append, List.forall_mem_cons] at hvalues ⊢
        exact ⟨hvalues.1, ih hvalues.2.1, hvalues.2.2⟩
  | again _ _ ih ih' => exact ih' (ih hplain)

end Values

section Fields

/-- The bytes each of the large fields may keep. -/
def perField (maxBytes : Nat) : Nat := max 1024 (maxBytes / max 1 largeStateFields.length)

/-- The bytes each of the kept texts may have when all else is dropped. -/
def perText (maxBytes : Nat) : Nat := max 256 (maxBytes / 10)

/-- The state is above the limit. -/
def TooLarge (maxBytes : Nat) (d : Dict) : Prop := maxBytes < estimateSize (.dict d)

/-- Cuts one field. -/
def clampField (limit : Nat) (d : Dict) (field : String) : Dict :=
  match d.lookup field with
  | none => d
  | some value => dictSet field (clampValue limit value) d

/-- A state whose fields were cut one by one. -/
def cutFields (limit : Nat) (d : Dict) (fields : List String) : Dict :=
  fields.foldl (clampField limit) d

theorem lookup_clampField (limit : Nat) (d : Dict) (field k : String) :
    (clampField limit d field).lookup k =
      if k = field then (d.lookup k).map (clampValue limit) else d.lookup k := by
  unfold clampField
  by_cases hk : k = field
  · rw [if_pos hk, hk]
    cases hvalue : d.lookup field with
    | none => rw [hvalue, Option.map_none]
    | some value => rw [lookup_dictSet, if_pos rfl, Option.map_some]
  · rw [if_neg hk]
    split
    · rfl
    · rw [lookup_dictSet, if_neg hk]

theorem lookup_cutFields (limit : Nat) (d : Dict) {fields : List String} (hnodup : fields.Nodup)
    (k : String) : (cutFields limit d fields).lookup k =
      if k ∈ fields then (d.lookup k).map (clampValue limit) else d.lookup k :=
  lookup_foldl_map (fun _ => clampValue limit) (lookup_clampField limit) hnodup d k

theorem truncated_cutFields (limit : Nat) (d : Dict) (fields : List String) :
    Truncated (.dict d) (.dict (cutFields limit d fields)) := by
  induction fields generalizing d with
  | nil => exact .same _
  | cons field rest ih =>
      refine Truncated.again ?_ (ih (clampField limit d field))
      unfold clampField
      split
      · exact .same _
      next value hvalue => exact truncated_dictSet hvalue (truncated_clampValue limit value)

/-- The result of cutting fields one by one until the state is small enough:
    either a part of them was cut and the last of these made it small, or all
    were cut and it is too large still. -/
def CutUntilSmall (limit maxBytes : Nat) (d : Dict) (fields : List String)
    (result : Dict × Bool) : Prop :=
  (∃ done, done <+: fields ∧ result = (cutFields limit d done, true) ∧
    ¬ TooLarge maxBytes (cutFields limit d done) ∧
    ∀ part, part <+: done → part ≠ done → TooLarge maxBytes (cutFields limit d part)) ∨
  (result = (cutFields limit d fields, false) ∧
    ∀ part, part <+: fields → TooLarge maxBytes (cutFields limit d part))

theorem cutUntilSmall_cons {limit maxBytes : Nat} {d : Dict} (field : String) {rest : List String}
    {result : Dict × Bool} (hlarge : TooLarge maxBytes d)
    (h : CutUntilSmall limit maxBytes (clampField limit d field) rest result) :
    CutUntilSmall limit maxBytes d (field :: rest) result := by
  rcases h with ⟨done, hdone, hresult, hsmall, hbefore⟩ | ⟨hresult, hall⟩
  · refine Or.inl ⟨field :: done, List.cons_prefix_cons.mpr ⟨rfl, hdone⟩, hresult, hsmall, ?_⟩
    intro part hpart hne
    rcases List.prefix_cons_iff.mp hpart with rfl | ⟨fs, rfl, hfs⟩
    · exact hlarge
    · exact hbefore fs hfs (fun heq => hne (by rw [heq]))
  · refine Or.inr ⟨hresult, ?_⟩
    intro part hpart
    rcases List.prefix_cons_iff.mp hpart with rfl | ⟨fs, rfl, hfs⟩
    · exact hlarge
    · exact hall fs hfs

theorem clampFields_cases (limit : Nat) {maxBytes : Nat} (fields : List String) {d : Dict}
    (hlarge : TooLarge maxBytes d) :
    CutUntilSmall limit maxBytes d fields (clampFields limit maxBytes d fields) := by
  induction fields generalizing d with
  | nil =>
      refine Or.inr ⟨rfl, ?_⟩
      intro part hpart
      rw [List.prefix_nil.mp hpart]
      exact hlarge
  | cons field rest ih =>
      unfold clampFields
      cases hvalue : d.lookup field with
      | none =>
          -- A field that is missing is passed over.
          have hsame : clampField limit d field = d := by rw [clampField, hvalue]
          refine cutUntilSmall_cons field hlarge ?_
          rw [hsame]
          exact ih hlarge
      | some value =>
          have hset : clampField limit d field = dictSet field (clampValue limit value) d := by
            rw [clampField, hvalue]
          dsimp only
          rw [← hset]
          split
          next hfits =>
            refine cutUntilSmall_cons field hlarge (Or.inl ⟨[], List.nil_prefix, rfl, ?_, ?_⟩)
            · exact Nat.not_lt.mpr hfits
            · intro part hpart hne
              exact absurd (List.prefix_nil.mp hpart) hne
          next hfits => exact cutUntilSmall_cons field hlarge (ih (Nat.not_le.mp hfits))

end Fields

section Ciphertexts

/-- What is relied on of the ciphertexts, besides the cipher: Base64 writes
    characters of one byte, and does not decode a number of its characters
    that is not a multiple of four. The mark has nine of them, and the others
    are passed over. The decoder of JSON goes two levels deep. -/
structure CryptoEnv.Base64 (env : CryptoEnv ι β) : Prop where
  ascii : ∀ iv text, ∀ c ∈ (env.encryptText iv text).toList, c.utf8Size = 1
  refuses : ∀ iv text n, n < (env.encryptText iv text).length → (n + 9) % 4 ≠ 0 →
    env.decryptText (take (env.encryptText iv text) n ++ truncationMark) = none
  nests : 2 ≤ env.decodeDepth

theorem utf8ByteSize_ascii {cs : List Char} (h : ∀ c ∈ cs, c.utf8Size = 1) :
    (String.ofList cs).utf8ByteSize = cs.length := by
  induction cs with
  | nil => rfl
  | cons c rest ih =>
      rw [List.forall_mem_cons] at h
      have hsplit : String.ofList (c :: rest) = String.singleton c ++ String.ofList rest := by
        rw [← String.toList_inj, String.toList_append, String.toList_singleton,
          String.toList_ofList, String.toList_ofList, List.singleton_append]
      rw [hsplit, String.utf8ByteSize_append, String.utf8ByteSize_singleton, h.1, ih h.2,
        List.length_cons, Nat.add_comm]

/-- The bisection finds the bound where every character takes one byte. -/
theorem fittingLength_ascii {cs : List Char} (h : ∀ c ∈ cs, c.utf8Size = 1) {maxBytes lo hi : Nat}
    (hlo : lo ≤ maxBytes) (hhi : maxBytes ≤ hi) (hlength : hi ≤ cs.length) :
    fittingLength cs maxBytes lo hi = maxBytes := by
  have hsize : ∀ mid ≤ cs.length, (String.ofList (cs.take mid)).utf8ByteSize = mid := by
    intro mid hmid
    rw [utf8ByteSize_ascii (fun c hc => h c (List.mem_of_mem_take hc)), List.length_take,
      Nat.min_eq_left hmid]
  fun_induction fittingLength cs maxBytes lo hi with
  | case1 lo hi hlt mid hfits ih =>
      rw [hsize mid (by omega)] at hfits
      exact ih hfits hhi hlength
  | case2 lo hi hlt mid hfits ih =>
      rw [hsize mid (by omega)] at hfits
      exact ih hlo (by omega) (by omega)
  | case3 lo hi hlt => omega

theorem truncateText_ascii {text : String} (h : ∀ c ∈ text.toList, c.utf8Size = 1) {maxBytes : Nat}
    (hlarge : maxBytes < text.length) :
    truncateText text maxBytes = take text maxBytes ++ truncationMark := by
  have hbytes : text.utf8ByteSize = text.length := by
    have hsize := utf8ByteSize_ascii h
    rwa [String.ofList_toList, String.length_toList] at hsize
  have hfit : fittingLength text.toList maxBytes 0 text.length = maxBytes :=
    fittingLength_ascii h (Nat.zero_le _) (Nat.le_of_lt hlarge) (by rw [String.length_toList])
  have htake : (take text maxBytes).utf8ByteSize = maxBytes := by
    rw [take, utf8ByteSize_ascii (fun c hc => h c (List.mem_of_mem_take hc)), List.length_take,
      String.length_toList, Nat.min_eq_left (Nat.le_of_lt hlarge)]
  unfold truncateText
  rw [hbytes, if_neg (Nat.not_le.mpr hlarge), hfit]
  dsimp only
  -- The text fills the bytes, and the whole mark goes behind.
  rw [htake, Nat.sub_self, if_neg (Nat.lt_irrefl 0)]
  rfl

end Ciphertexts

section Stored

/-- A text is cut, and any other value kept. -/
def clampText (maxBytes : Nat) : Val → Val
  | .str text => .str (truncateText text maxBytes)
  | value => value

theorem truncated_clampText (maxBytes : Nat) (v : Val) : Truncated v (clampText maxBytes v) := by
  cases v with
  | str text => exact truncated_truncateText text maxBytes
  | _ => exact .same _

theorem lookup_truncateKey (maxBytes : Nat) (d : Dict) (key k : String) :
    (truncateKey maxBytes d key).lookup k =
      if k = key then (d.lookup k).map (clampText maxBytes) else d.lookup k := by
  unfold truncateKey
  by_cases hk : k = key
  · rw [if_pos hk, hk]
    split
    next text htext => rw [lookup_dictSet, if_pos rfl, htext, Option.map_some, clampText]
    next hne =>
      cases hvalue : d.lookup key with
      | none => rfl
      | some value =>
          cases value with
          | str text => exact absurd hvalue (hne text)
          | _ => rfl
  · rw [if_neg hk]
    split
    · rw [lookup_dictSet, if_neg hk]
    · rfl

/-- When all else is dropped, the answer is cut once more, and the lists are
    emptied. -/
theorem lookup_dropCollections (maxBytes : Nat) (d : Dict) {field : String}
    (h : field ∈ sensitiveStateFields) :
    (dropCollections maxBytes d).lookup field =
      if field = "final_answer" then (d.lookup field).map (clampText (perText maxBytes))
      else some (.list []) := by
  unfold dropCollections
  dsimp only
  rw [lookup_foldl_map (fun _ => clampText (max 256 (maxBytes / 10)))
    (lookup_truncateKey _) (by decide)]
  simp only [sensitiveStateFields, List.mem_cons, List.not_mem_nil, or_false] at h
  rcases h with rfl | rfl | rfl | rfl <;>
    simp [keptTexts, lookup_dictSet, perText]

/-- A state is cut field by field until it is small enough, or all that can be
    is dropped. -/
theorem clampStateSize_cases (maxBytes : Nat) (d : Dict) :
    (∃ done, done <+: largeStateFields ∧
      clampStateSize maxBytes d = cutFields (perField maxBytes) d done ∧
      ¬ TooLarge maxBytes (cutFields (perField maxBytes) d done) ∧
      ∀ part, part <+: done → part ≠ done →
        TooLarge maxBytes (cutFields (perField maxBytes) d part)) ∨
    (clampStateSize maxBytes d =
        dropCollections maxBytes (cutFields (perField maxBytes) d largeStateFields) ∧
      ∀ part, part <+: largeStateFields →
        TooLarge maxBytes (cutFields (perField maxBytes) d part)) := by
  unfold clampStateSize
  split
  next hfits =>
    refine Or.inl ⟨[], List.nil_prefix, rfl, Nat.not_lt.mpr hfits, ?_⟩
    intro part hpart hne
    exact absurd (List.prefix_nil.mp hpart) hne
  next hfits =>
    rcases clampFields_cases (perField maxBytes) largeStateFields (Nat.not_le.mp hfits) with
      ⟨done, hdone, hresult, hsmall, hbefore⟩ | ⟨hresult, hall⟩
    · refine Or.inl ⟨done, hdone, ?_, hsmall, hbefore⟩
      rw [perField] at hresult
      dsimp only
      rw [hresult, if_pos rfl, perField]
    · refine Or.inr ⟨?_, hall⟩
      rw [perField] at hresult
      dsimp only
      rw [hresult, if_neg Bool.false_ne_true, perField]

theorem nodup_of_start {done : List String} (h : done <+: largeStateFields) : done.Nodup :=
  List.Nodup.sublist h.sublist (by decide)

theorem sensitive_large {field : String} (h : field ∈ sensitiveStateFields) :
    field ∈ largeStateFields :=
  List.mem_append_left _ h

/-- What is left of a sensitive field is truncated, unless it is a list that
    was emptied. -/
theorem lookup_clampStateSize (maxBytes : Nat) (d : Dict) {field : String}
    (h : field ∈ sensitiveStateFields) :
    (field ≠ "final_answer" ∧ (clampStateSize maxBytes d).lookup field = some (.list [])) ∨
      Option.Rel Truncated (d.lookup field) ((clampStateSize maxBytes d).lookup field) := by
  have hcut : ∀ v, Truncated v (clampValue (perField maxBytes) v) := truncated_clampValue _
  rcases clampStateSize_cases maxBytes d with ⟨done, hdone, heq, -, -⟩ | ⟨heq, -⟩
  · refine Or.inr ?_
    rw [heq, lookup_cutFields _ _ (nodup_of_start hdone)]
    cases d.lookup field with
    | none => split <;> exact .none
    | some v =>
        split
        · exact .some (hcut v)
        · exact .some (.same v)
  · rw [heq, lookup_dropCollections _ _ h,
      lookup_cutFields _ _ (nodup_of_start (List.prefix_refl _)), if_pos (sensitive_large h)]
    by_cases hanswer : field = "final_answer"
    · refine Or.inr ?_
      rw [if_pos hanswer]
      cases d.lookup field with
      | none => exact .none
      | some v => exact .some ((hcut v).again (truncated_clampText _ _))
    · exact Or.inl ⟨hanswer, by rw [if_neg hanswer]⟩

/-- A plain state is plain after it was cut. -/
theorem plain_clampStateSize {readFloat : String → Option (ℚ × String)} {depth : Nat}
    (hdepth : 2 ≤ depth) {d : Dict} (hplain : Json.Plain readFloat depth (.dict d))
    (maxBytes : Nat) : Json.Plain readFloat depth (.dict (clampStateSize maxBytes d)) := by
  have hcut : ∀ fields,
      Json.Plain readFloat depth (.dict (cutFields (perField maxBytes) d fields)) :=
    fun fields => plain_truncated (truncated_cutFields _ d fields) hplain
  rcases clampStateSize_cases maxBytes d with ⟨done, -, heq, -, -⟩ | ⟨heq, -⟩
  · rw [heq]
    exact hcut done
  · -- An empty list under a key of the state is two levels deep.
    have hset : ∀ (d : Dict) (k : String), Json.Plain readFloat depth (.dict d) →
        Json.Plain readFloat depth (.dict (dictSet k (.list []) d)) := by
      intro d k hd
      rcases Json.plain_dict_iff.mp hd with ⟨n, hn, hnodup, hvalues⟩
      refine Json.plain_dict_iff.mpr ⟨n, hn, keys_dictSet_nodup k _ hnodup, ?_⟩
      intro p hp
      rcases mem_dictSet _ _ _ _ hp with rfl | hp
      · exact Json.plain_list_iff.mpr ⟨n - 1, by omega, fun x hx => absurd hx List.not_mem_nil⟩
      · exact hvalues p hp
    rw [heq]
    unfold dropCollections
    exact plain_truncated (truncated_foldl_truncateKey _ keptTexts _)
      (hset _ _ (hset _ _ (hset _ _ (hcut largeStateFields))))

end Stored

section Uncut

variable {maxBytes : Nat} {d : Dict}

/-- The state is too large even with all large fields cut. -/
def NeverSmall (maxBytes : Nat) (d : Dict) : Prop :=
  ∀ part, part <+: largeStateFields → TooLarge maxBytes (cutFields (perField maxBytes) d part)

/-- The state is still too large when it is the turn of a field. -/
def Reached (maxBytes : Nat) (d : Dict) (field : String) : Prop :=
  ∃ before, before ++ [field] <+: largeStateFields ∧
    ∀ part, part <+: before → TooLarge maxBytes (cutFields (perField maxBytes) d part)

/-- No sensitive text is cut and kept. If the state gets small enough, none
    that was reached is too large for a field. If it does not, the lists are
    emptied, and the answer is not too large for a text. -/
def Uncut (maxBytes : Nat) (d : Dict) : Prop :=
  ∀ field ∈ sensitiveStateFields, ∀ text, d.lookup field = some (.str text) →
    (¬ NeverSmall maxBytes d → Reached maxBytes d field →
      text.utf8ByteSize ≤ perField maxBytes) ∧
    (NeverSmall maxBytes d → field = "final_answer" → text.utf8ByteSize ≤ perText maxBytes)

/-- The fields that are cut are those that are reached. -/
theorem reached_iff {done : List String} (hdone : done <+: largeStateFields)
    (hsmall : ¬ TooLarge maxBytes (cutFields (perField maxBytes) d done))
    (hbefore : ∀ part, part <+: done → part ≠ done →
      TooLarge maxBytes (cutFields (perField maxBytes) d part)) (field : String) :
    Reached maxBytes d field ↔ field ∈ done := by
  constructor
  · rintro ⟨before, hfield, hlarge⟩
    rcases List.prefix_or_prefix_of_prefix hfield hdone with hle | hle
    · exact hle.subset (List.mem_append_right _ List.mem_cons_self)
    · rcases List.prefix_concat_iff.mp hle with rfl | hle
      · exact List.mem_append_right _ List.mem_cons_self
      · exact absurd (hlarge done hle) hsmall
  · intro hmem
    rcases List.append_of_mem hmem with ⟨before, after, rfl⟩
    have hle : before ++ [field] <+: before ++ field :: after :=
      List.prefix_append_right_inj before |>.mpr ⟨after, rfl⟩
    refine ⟨before, hle.trans hdone, ?_⟩
    intro part hpart
    refine hbefore part (hpart.trans (List.prefix_append _ _)) ?_
    rintro rfl
    have hlength := hpart.length_le
    rw [List.length_append, List.length_cons] at hlength
    omega

theorem perText_lt_perField (maxBytes : Nat) : perText maxBytes < perField maxBytes := by
  have hsix : max 1 largeStateFields.length = 6 := rfl
  rw [perText, perField, hsix]
  omega

theorem clampValue_str (limit : Nat) (text : String) :
    clampValue limit (.str text) = .str (truncateText text limit) := by
  rw [clampValue]

theorem truncateText_of_le {text : String} {limit : Nat} (h : text.utf8ByteSize ≤ limit) :
    truncateText text limit = text := by
  rw [truncateText, if_pos h]

/-- A sensitive text that is not cut is left as it is, or it is of a list that
    was emptied. -/
theorem lookup_of_uncut (huncut : Uncut maxBytes d) {field : String}
    (h : field ∈ sensitiveStateFields) {text : String} (htext : d.lookup field = some (.str text)) :
    (clampStateSize maxBytes d).lookup field = some (.str text) ∨
      (field ≠ "final_answer" ∧ (clampStateSize maxBytes d).lookup field = some (.list [])) := by
  rcases huncut field h text htext with ⟨hkept, hdropped⟩
  rcases clampStateSize_cases maxBytes d with ⟨done, hdone, heq, hsmall, hbefore⟩ | ⟨heq, hall⟩
  · refine Or.inl ?_
    rw [heq, lookup_cutFields _ _ (nodup_of_start hdone), htext]
    split
    next hmem =>
      have hle := hkept (fun hnever => hsmall (hnever done hdone))
        ((reached_iff hdone hsmall hbefore field).mpr hmem)
      rw [Option.map_some, clampValue_str, truncateText_of_le hle]
    · rfl
  · rw [heq, lookup_dropCollections _ _ h,
      lookup_cutFields _ _ (nodup_of_start (List.prefix_refl _)), if_pos (sensitive_large h), htext]
    by_cases hanswer : field = "final_answer"
    · have hle := hdropped hall hanswer
      have hle' := hle.trans (Nat.le_of_lt (perText_lt_perField maxBytes))
      refine Or.inl ?_
      rw [if_pos hanswer, Option.map_some, Option.map_some, clampValue_str,
        truncateText_of_le hle', clampText, truncateText_of_le hle]
    · exact Or.inr ⟨hanswer, if_neg hanswer⟩

/-- A text of one-byte characters that is cut twice is cut to the smaller
    size. -/
theorem truncateText_twice {text : String} (hascii : ∀ c ∈ text.toList, c.utf8Size = 1)
    {limit limit' : Nat} (hlt : limit' < limit) (hlarge : limit' < text.length) :
    truncateText (truncateText text limit) limit' = take text limit' ++ truncationMark := by
  by_cases hlimit : limit < text.length
  · rw [truncateText_ascii hascii hlimit]
    have hlist : (take text limit ++ truncationMark).toList =
        text.toList.take limit ++ truncationMark.toList := by
      rw [String.toList_append, take, String.toList_ofList]
    have hascii' : ∀ c ∈ (take text limit ++ truncationMark).toList, c.utf8Size = 1 := by
      rw [hlist, List.forall_mem_append]
      exact ⟨fun c hc => hascii c (List.mem_of_mem_take hc), by decide⟩
    have hlength : (text.toList.take limit).length = limit := by
      rw [List.length_take, String.length_toList, Nat.min_eq_left (Nat.le_of_lt hlimit)]
    rw [truncateText_ascii hascii', take, hlist, List.take_append_of_le_length (by omega),
      List.take_take, Nat.min_eq_left (Nat.le_of_lt hlt)]
    · rfl
    · rw [← String.length_toList, hlist, List.length_append, hlength]
      omega
  · have hsize : text.utf8ByteSize ≤ limit := by
      have hbytes := utf8ByteSize_ascii hascii
      rw [String.ofList_toList, String.length_toList] at hbytes
      omega
    rw [truncateText_of_le hsize, truncateText_ascii hascii hlarge]

/-- If a sensitive text of one-byte characters is cut and kept, what is written
    for it is its beginning and the mark. -/
theorem lookup_of_not_uncut
    (hascii : ∀ field ∈ sensitiveStateFields, ∀ text, d.lookup field = some (.str text) →
      ∀ c ∈ text.toList, c.utf8Size = 1) (hcut : ¬ Uncut maxBytes d) :
    ∃ field ∈ sensitiveStateFields, ∃ text n, d.lookup field = some (.str text) ∧
      (n = perField maxBytes ∨ n = perText maxBytes) ∧ n < text.length ∧
      (clampStateSize maxBytes d).lookup field = some (.str (take text n ++ truncationMark)) := by
  unfold Uncut at hcut
  push Not at hcut
  rcases hcut with ⟨field, hfield, text, htext, hcut⟩
  have hchars := hascii field hfield text htext
  have hbytes := utf8ByteSize_ascii hchars
  rw [String.ofList_toList, String.length_toList] at hbytes
  rcases clampStateSize_cases maxBytes d with ⟨done, hdone, heq, hsmall, hbefore⟩ | ⟨heq, hall⟩
  · -- The state got small, so the text was reached and cut.
    have hnot : ¬ NeverSmall maxBytes d := fun hnever => hsmall (hnever done hdone)
    by_cases hkept : ¬ NeverSmall maxBytes d → Reached maxBytes d field →
        text.utf8ByteSize ≤ perField maxBytes
    · exact absurd (hcut hkept).1 hnot
    · push Not at hkept
      rcases hkept with ⟨-, hreached, hlarge⟩
      rw [hbytes] at hlarge
      refine ⟨field, hfield, text, perField maxBytes, htext, Or.inl rfl, hlarge, ?_⟩
      rw [heq, lookup_cutFields _ _ (nodup_of_start hdone), htext,
        if_pos ((reached_iff hdone hsmall hbefore field).mp hreached), Option.map_some,
        clampValue_str, truncateText_ascii hchars hlarge]
  · -- Everything was cut and the lists emptied, so it is the answer.
    rcases hcut (fun hnot => absurd hall hnot) with ⟨-, rfl, hlarge⟩
    rw [hbytes] at hlarge
    refine ⟨_, hfield, text, perText maxBytes, htext, Or.inr rfl, hlarge, ?_⟩
    rw [heq, lookup_dropCollections _ _ hfield,
      lookup_cutFields _ _ (nodup_of_start (List.prefix_refl _)),
      if_pos (sensitive_large hfield), if_pos rfl, htext, Option.map_some, Option.map_some,
      clampValue_str, clampText,
      truncateText_twice hchars (perText_lt_perField maxBytes) hlarge]

end Uncut

section Recovered

variable {ivs : String → ι} {maxBytes : Nat} {state : Dict}

/-- What a sensitive field shows of a value. -/
def content (env : CryptoEnv ι β) (field : String) (value : Val) : Val :=
  if field = "final_answer" then .str (value.toStr env.unicode)
  else upgradeValue env .list (.list []) value

/-- A restored field has its default, or shows a value obtained by truncation
    from the plaintext: the value itself, or what its encrypted text says. -/
def Recovered (env : CryptoEnv ι β) (state restored : Dict) (field : String) : Prop :=
  restored.lookup field = defaultStateValues.lookup field ∨
  ∃ v plain w, state.lookup field = some v ∧
    (plain = v ∨ plain = valueOfPlaintext env (plaintextOf v)) ∧ Truncated plain w ∧
    restored.lookup field = some (content env field w)

/-- A restored field shows a ciphertext, or the list of its characters: what
    was written is not decrypted, and is the content of the field. -/
def Leaked (env : CryptoEnv ι β) (written restored : Dict) (field : String) : Prop :=
  env.hasAes = true ∧ ∃ ciphertext, written.lookup field = some (.str ciphertext) ∧
    env.decryptText ciphertext = none ∧
    restored.lookup field = some (content env field (.str ciphertext))

/-- The state comes back from the running workflow and from a checkpoint with
    every sensitive field recovered and none leaked. -/
def Restores (env : CryptoEnv ι β) (ivs : String → ι) (maxBytes : Nat) (state : Dict) : Prop :=
  ∃ restored,
    secureDeserializeRuntime env (secureSerializeRuntime env ivs maxBytes state) =
      some restored ∧
    (secureSerializePersistent env ivs maxBytes state).bind (secureDeserializePersistent env) =
      some restored ∧
    ∀ field ∈ sensitiveStateFields, Recovered env state restored field ∧
      ¬ Leaked env (protectedState env ivs maxBytes state) restored field

theorem plain_protectedState (ivs : String → ι) (maxBytes : Nat) (hb64 : env.Base64)
    (hplain : Json.Plain env.readFloat env.decodeDepth (.dict state)) :
    Json.Plain env.readFloat env.decodeDepth
      (.dict (protectedState env ivs maxBytes state)) :=
  plain_clampStateSize hb64.nests (plain_protected ivs hplain) maxBytes

/-- What a restored sensitive field shows of what was written for it. -/
theorem lookup_restored {d : Dict} {field : String} (h : field ∈ sensitiveStateFields) :
    (upgradeState env (.dict d)).lookup field =
      (d.lookup field).elim (defaultStateValues.lookup field)
        (fun value => some (content env field value)) := by
  cases hvalue : d.lookup field with
  | some value => exact lookup_upgradeState_sensitive h hvalue
  | none =>
      rw [Option.elim_none, lookup_upgradeState, hvalue]
      simp only [sensitiveStateFields, List.mem_cons, List.not_mem_nil, or_false] at h
      rcases h with rfl | rfl | rfl | rfl <;> rfl

theorem content_empty {field : String} (h : field ∈ sensitiveStateFields)
    (hanswer : field ≠ "final_answer") :
    some (content env field (.list [])) = defaultStateValues.lookup field := by
  rw [content, if_neg hanswer]
  simp only [sensitiveStateFields, List.mem_cons, List.not_mem_nil, or_false] at h
  rcases h with rfl | rfl | rfl | rfl
  · rfl
  · rfl
  · exact absurd rfl hanswer
  · rfl

/-- Without the cipher every sensitive field is recovered. -/
theorem recovered_of_not_aes (d : Dict) {field : String} (h : field ∈ sensitiveStateFields) :
    Recovered env d (upgradeState env (.dict (clampStateSize maxBytes d))) field := by
  rw [Recovered, lookup_restored h]
  rcases lookup_clampStateSize maxBytes d h with ⟨hanswer, hempty⟩ | hrel
  · rw [hempty, Option.elim_some]
    exact Or.inl (content_empty h hanswer)
  · generalize (clampStateSize maxBytes d).lookup field = left at hrel
    cases hvalue : d.lookup field with
    | none =>
        rw [hvalue] at hrel
        cases hrel
        exact Or.inl rfl
    | some v =>
        rw [hvalue] at hrel
        cases hrel with
        | some htruncated => exact Or.inr ⟨v, v, _, rfl, Or.inl rfl, htruncated, rfl⟩

theorem truncated_none {v w : Val} (h : Truncated v w) (hv : v = .none) : w = .none := by
  induction h with
  | same v => exact hv
  | again _ _ ih ih' => exact ih' (ih hv)
  | _ => cases hv

/-- What is written for a sensitive field that is not cut: an empty list for
    one that was dropped, nothing, or its ciphertext. -/
theorem written_of_uncut (huncut : Uncut maxBytes (encryptSensitiveFields env ivs state))
    {field : String} (h : field ∈ sensitiveStateFields) {left : Option Val}
    (hleft : (clampStateSize maxBytes (encryptSensitiveFields env ivs state)).lookup field = left) :
    (field ≠ "final_answer" ∧ left = some (.list [])) ∨
    (state.lookup field = none ∧ left = none) ∨
    (state.lookup field = some .none ∧ left = some .none) ∨
    ∃ v, state.lookup field = some v ∧ left = some (.str (encryptValue env (ivs field) v)) := by
  have hencrypted : (encryptSensitiveFields env ivs state).lookup field =
      (state.lookup field).map (stored env (ivs field)) := by
    rw [lookup_encrypt, if_pos h]
  rcases lookup_clampStateSize maxBytes (encryptSensitiveFields env ivs state) h with
    ⟨hanswer, hempty⟩ | hrel
  · exact Or.inl ⟨hanswer, hleft ▸ hempty⟩
  · rw [hencrypted, hleft] at hrel
    cases hvalue : state.lookup field with
    | none =>
        rw [hvalue] at hrel
        cases hrel
        exact Or.inr (Or.inl ⟨rfl, rfl⟩)
    | some v =>
        rw [hvalue, Option.map_some] at hrel hencrypted
        -- Only what is nothing is not encrypted.
        by_cases hnone : v = .none
        · subst hnone
          cases hrel with
          | some htruncated =>
              rw [truncated_none htruncated rfl]
              exact Or.inr (Or.inr (Or.inl ⟨rfl, rfl⟩))
        · have hstored : stored env (ivs field) v = .str (encryptValue env (ivs field) v) := by
            cases v with
            | none => exact absurd rfl hnone
            | _ => rfl
          rw [hstored] at hencrypted
          rcases lookup_of_uncut huncut h hencrypted with hkept | ⟨hanswer, hempty⟩
          · exact Or.inr (Or.inr (Or.inr ⟨v, rfl, hleft ▸ hkept⟩))
          · exact Or.inl ⟨hanswer, hleft ▸ hempty⟩

/-- With the cipher a sensitive field that is not cut is recovered, and what
    was written for it is decrypted. -/
theorem recovered_of_uncut (hlaw : env.Lawful)
    (huncut : Uncut maxBytes (encryptSensitiveFields env ivs state)) {field : String}
    (h : field ∈ sensitiveStateFields) :
    Recovered env state (upgradeState env (.dict (decryptSensitiveFields env
      (clampStateSize maxBytes (encryptSensitiveFields env ivs state))))) field ∧
    ∀ text, (clampStateSize maxBytes (encryptSensitiveFields env ivs state)).lookup field =
      some (.str text) → env.decryptText text ≠ none := by
  rw [Recovered, lookup_restored h, lookup_decrypt, if_pos h]
  rcases written_of_uncut huncut h rfl with
    ⟨hanswer, hleft⟩ | ⟨hvalue, hleft⟩ | ⟨hvalue, hleft⟩ | ⟨v, hvalue, hleft⟩
  · rw [hleft]
    refine ⟨Or.inl (content_empty h hanswer), ?_⟩
    intro text htext
    cases htext
  · rw [hleft]
    refine ⟨Or.inl rfl, ?_⟩
    intro text htext
    cases htext
  · rw [hleft]
    refine ⟨Or.inr ⟨.none, .none, .none, hvalue, Or.inl rfl, .same _, rfl⟩, ?_⟩
    intro text htext
    cases htext
  · have hdecrypt := hlaw.decrypts (ivs field) (plaintextOf v)
    rw [hleft]
    constructor
    · refine Or.inr ⟨v, _, _, hvalue, Or.inr rfl, .same _, ?_⟩
      rw [Option.map_some, Option.elim_some, opened, decryptValue, encryptValue, hdecrypt,
        Option.map_some, Option.getD_some]
    · intro text htext
      cases htext
      rw [encryptValue, hdecrypt]
      exact Option.some_ne_none _

/-- What is restored is what was written, decrypted and brought up to the
    schema. -/
theorem restored_eq (ivs : String → ι) (maxBytes : Nat) (hlaw : env.Lawful) (hb64 : env.Base64)
    (hplain : Json.Plain env.readFloat env.decodeDepth (.dict state)) :
    secureDeserializeRuntime env (secureSerializeRuntime env ivs maxBytes state) =
      restoredState env (.dict (protectedState env ivs maxBytes state)) ∧
    (secureSerializePersistent env ivs maxBytes state).bind (secureDeserializePersistent env) =
      restoredState env (.dict (protectedState env ivs maxBytes state)) :=
  ⟨deserialize_runtime (plain_protectedState ivs maxBytes hb64 hplain),
    deserialize_persistent hlaw (plain_protectedState ivs maxBytes hb64 hplain)⟩

theorem restores_of_uncut (hlaw : env.Lawful) (hb64 : env.Base64)
    (hplain : Json.Plain env.readFloat env.decodeDepth (.dict state))
    (huncut : env.hasAes = true → Uncut maxBytes (encryptSensitiveFields env ivs state)) :
    Restores env ivs maxBytes state := by
  rcases restored_eq ivs maxBytes hlaw hb64 hplain with ⟨hruntime, hcheckpoint⟩
  have hnodup := keys_nodup_of_plain (plain_protectedState ivs maxBytes hb64 hplain)
  rw [Restores, hruntime, hcheckpoint]
  by_cases haes : env.hasAes = true
  · refine ⟨_, restoredState_of_aes haes hnodup, restoredState_of_aes haes hnodup, ?_⟩
    intro field hfield
    rcases recovered_of_uncut hlaw (huncut haes) hfield with ⟨hrecovered, hdecrypts⟩
    have hwritten : protectedState env ivs maxBytes state =
        clampStateSize maxBytes (encryptSensitiveFields env ivs state) := by
      rw [protectedState, if_pos haes]
    rw [hwritten]
    refine ⟨hrecovered, ?_⟩
    rintro ⟨-, text, htext, hrefused, -⟩
    exact hdecrypts text htext hrefused
  · refine ⟨_, restoredState_of_not_aes _ haes, restoredState_of_not_aes _ haes, ?_⟩
    intro field hfield
    have hwritten : protectedState env ivs maxBytes state = clampStateSize maxBytes state := by
      rw [protectedState, if_neg haes]
    rw [hwritten]
    exact ⟨recovered_of_not_aes state hfield, fun hleaked => haes hleaked.1⟩

/-- A ciphertext that is cut and kept leaks, for sizes whose cuts Base64 does
    not decode. -/
theorem uncut_of_restores (hlaw : env.Lawful) (hb64 : env.Base64)
    (hplain : Json.Plain env.readFloat env.decodeDepth (.dict state)) (haes : env.hasAes = true)
    (hfield : (perField maxBytes + 9) % 4 ≠ 0) (htext : (perText maxBytes + 9) % 4 ≠ 0)
    (h : Restores env ivs maxBytes state) :
    Uncut maxBytes (encryptSensitiveFields env ivs state) := by
  by_contra hcut
  -- A text in a sensitive field of the encrypted state is a ciphertext.
  have hcipher : ∀ field ∈ sensitiveStateFields, ∀ text,
      (encryptSensitiveFields env ivs state).lookup field = some (.str text) →
      ∃ v, text = env.encryptText (ivs field) (plaintextOf v) := by
    intro field hfield text htext
    rw [lookup_encrypt, if_pos hfield] at htext
    rcases Option.map_eq_some_iff.mp htext with ⟨v, -, hstored⟩
    cases v with
    | none => cases hstored
    | _ =>
        cases hstored
        exact ⟨_, rfl⟩
  have hascii : ∀ field ∈ sensitiveStateFields, ∀ text,
      (encryptSensitiveFields env ivs state).lookup field = some (.str text) →
      ∀ c ∈ text.toList, c.utf8Size = 1 := by
    intro field hfield text htext
    rcases hcipher field hfield text htext with ⟨v, rfl⟩
    exact hb64.ascii _ _
  rcases lookup_of_not_uncut hascii hcut with ⟨field, hsensitive, text, n, hlookup, hn, hlt, hleft⟩
  rcases hcipher field hsensitive text hlookup with ⟨v, rfl⟩
  have hmod : (n + 9) % 4 ≠ 0 := by
    rcases hn with rfl | rfl
    · exact hfield
    · exact htext
  have hrefused := hb64.refuses _ _ n hlt hmod
  rcases restored_eq ivs maxBytes hlaw hb64 hplain with ⟨hruntime, -⟩
  rcases h with ⟨restored, hrestored, -, hfields⟩
  have hnodup := keys_nodup_of_plain (plain_protectedState ivs maxBytes hb64 hplain)
  have hwritten : protectedState env ivs maxBytes state =
      clampStateSize maxBytes (encryptSensitiveFields env ivs state) := by
    rw [protectedState, if_pos haes]
  rw [hruntime, restoredState_of_aes haes hnodup, Option.some.injEq] at hrestored
  rw [← hwritten] at hleft
  refine (hfields field hsensitive).2 ⟨haes, _, hleft, hrefused, ?_⟩
  rw [← hrestored, lookup_restored hsensitive, lookup_decrypt, if_pos hsensitive, hleft,
    Option.map_some, Option.elim_some, opened, decryptValue, hrefused, Option.map_none,
    Option.getD_none]

/-- Every sensitive field of a plain state is recovered and none leaks, if the
    state is not encrypted or no ciphertext is cut and kept. For sizes whose
    cuts Base64 does not decode this is the only way. -/
theorem sensitive_recovered_iff (hlaw : env.Lawful) (hb64 : env.Base64)
    (hplain : Json.Plain env.readFloat env.decodeDepth (.dict state)) :
    ((env.hasAes = true → Uncut maxBytes (encryptSensitiveFields env ivs state)) →
      Restores env ivs maxBytes state) ∧
    ((perField maxBytes + 9) % 4 ≠ 0 → (perText maxBytes + 9) % 4 ≠ 0 →
      Restores env ivs maxBytes state →
      env.hasAes = true → Uncut maxBytes (encryptSensitiveFields env ivs state)) :=
  ⟨restores_of_uncut hlaw hb64 hplain,
    fun hfield htext h haes => uncut_of_restores hlaw hb64 hplain haes hfield htext h⟩

/-- Read the characters of a ciphertext, counting the strokes. -/
def readStrokes : Nat → List Char → Option (List Char)
  | _, [] => none
  | n, '1' :: rest => readStrokes (n + 1) rest
  | n, '0' :: rest => (readStrokes 0 rest).map (Char.ofNat n :: ·)
  | 0, ['='] => some []
  | _, _ => none

/-- An environment with a cipher that writes a character as its number in
    strokes and ends with a sign, and does not decrypt without the sign. JSON
    stands for the packer. It is a toy: the lengths of its texts are not those AES
    and Base64 lead to. -/
def strokeEnv : CryptoEnv Unit String where
  unicode := default
  readFloat := fun _ => none
  decodeDepth := 1000
  toFloat := fun _ => .error .typeError
  hasAes := true
  encryptText := fun _ text => String.ofList
    (text.toList.flatMap (fun c => List.replicate c.toNat '1' ++ ['0']) ++ ['='])
  decryptText := fun ciphertext => (readStrokes 0 ciphertext.toList).map String.ofList
  packb := fun v => some v.dumps
  unpackb := fun data => (Json.loads (fun _ => none) 1000 data).toOption
  archive := id
  unarchive := some

theorem readStrokes_replicate (n k : Nat) (rest : List Char) :
    readStrokes n (List.replicate k '1' ++ '0' :: rest) =
      (readStrokes 0 rest).map (Char.ofNat (n + k) :: ·) := by
  induction k generalizing n with
  | zero => rfl
  | succ k ih =>
      rw [List.replicate_succ, List.cons_append, readStrokes, ih, Nat.add_right_comm, Nat.add_assoc]

theorem readStrokes_flatMap (cs : List Char) :
    readStrokes 0 (cs.flatMap (fun c => List.replicate c.toNat '1' ++ ['0']) ++ ['=']) =
      some cs := by
  induction cs with
  | nil => rfl
  | cons c rest ih =>
      rw [List.flatMap_cons, List.append_assoc, List.append_assoc, List.singleton_append,
        readStrokes_replicate, ih, Option.map_some, Nat.zero_add, Char.ofNat_toNat]

/-- The sign of the mark is no stroke. -/
theorem readStrokes_mark (n : Nat) (cs rest : List Char) :
    readStrokes n (cs ++ '.' :: rest) = none := by
  induction cs generalizing n with
  | nil => cases n <;> rfl
  | cons c cs ih =>
      rw [List.cons_append]
      unfold readStrokes
      split
      next heq => cases heq
      next heq =>
        cases heq
        exact ih _
      next heq =>
        cases heq
        rw [ih, Option.map_none]
      next heq =>
        rw [List.cons.injEq] at heq
        exact absurd heq.2 (by simp)
      · rfl

theorem strokeEnv_lawful : strokeEnv.Lawful where
  decrypts := by
    intro iv text
    simp only [strokeEnv, String.toList_ofList, readStrokes_flatMap, Option.map_some,
      String.ofList_toList]
  unpacks := plainEnv_lawful.unpacks
  unarchives := fun _ => rfl

theorem strokeEnv_base64 : strokeEnv.Base64 where
  ascii := by
    intro iv text c hc
    simp only [strokeEnv, String.toList_ofList, List.mem_append, List.mem_flatMap,
      List.mem_replicate, List.mem_singleton] at hc
    rcases hc with ⟨_, _, ⟨_, rfl⟩ | rfl⟩ | rfl <;> rfl
  refuses := by
    intro iv text n _ _
    have hmark : truncationMark.toList = '.' :: "..[truncated]".toList := rfl
    show ((readStrokes 0 (take _ n ++ truncationMark).toList).map String.ofList) = none
    rw [String.toList_append, hmark, readStrokes_mark, Option.map_none]
  nests := by decide

/-- A state with an answer that stays short when it is encrypted. -/
def shortAnswerState : Dict := [("final_answer", .str "7")]

/-- A state that is never small enough, with an answer that is not cut. -/
theorem sensitive_recovered_iff_short_answer :
    TooLarge 10 (encryptSensitiveFields strokeEnv (fun _ => ()) shortAnswerState) ∧
    Restores strokeEnv (fun _ => ()) 10 shortAnswerState := by
  have hplain : Json.Plain strokeEnv.readFloat strokeEnv.decodeDepth (.dict shortAnswerState) := by
    refine ⟨by decide, ?_⟩
    intro p hp
    rw [List.mem_singleton.mp hp]
    trivial
  refine ⟨by unfold TooLarge; decide, ?_⟩
  refine (sensitive_recovered_iff strokeEnv_lawful strokeEnv_base64 hplain).1 (fun _ => ?_)
  intro field hfield text htext
  rw [lookup_encrypt, if_pos hfield] at htext
  simp only [sensitiveStateFields, List.mem_cons, List.not_mem_nil, or_false] at hfield
  rcases hfield with rfl | rfl | rfl | rfl
  · cases htext
  · cases htext
  · cases htext
    exact ⟨fun _ _ => by decide, fun _ _ => by decide⟩
  · cases htext

/-- A history that is too long once it is encrypted. -/
def longHistory : Val := .list [.str "aaaaaaaaaaaaaaaa"]

/-- A state with a long history. -/
def longHistoryState : Dict := [("messages", longHistory)]

/-- The size of a state with one plain text. -/
theorem estimateSize_messages {text : String}
    (h : ∀ c ∈ text.toList, jsonChar c = [c] ∧ c.utf8Size = 1) :
    estimateSize (.dict [("messages", .str text)]) = 16 + text.length := by
  have hbytes := utf8ByteSize_ascii (fun c hc => (h c hc).2)
  rw [String.ofList_toList, String.length_toList] at hbytes
  have hflat : text.toList.flatMap jsonChar = text.toList := by
    rw [List.flatMap_congr (fun c hc => (h c hc).1), List.flatMap_singleton']
  have hjson : jsonStr text = "\"" ++ text ++ "\"" := by
    rw [jsonStr, hflat]
    simp [← String.toList_inj]
  have hkey : (jsonStr "messages").utf8ByteSize = 10 := by decide
  have hsign : "\"".utf8ByteSize = 1 ∧ ": ".utf8ByteSize = 2 ∧ "\x7b".utf8ByteSize = 1 ∧
      "\x7d".utf8ByteSize = 1 := by decide
  simp only [estimateSize, Val.dumps, Val.dumpsDict, join, hjson, String.utf8ByteSize_append, hkey,
    hbytes, hsign]
  omega

/-- The ciphertext of the history. -/
def longHistoryCipher : String := strokeEnv.encryptText () (plaintextOf longHistory)

theorem longHistoryCipher_chars (n : Nat) : ∀ c ∈ (take longHistoryCipher n).toList,
    jsonChar c = [c] ∧ c.utf8Size = 1 := by
  intro c hc
  rw [take, String.toList_ofList] at hc
  have hmem := List.mem_of_mem_take hc
  simp only [longHistoryCipher, strokeEnv, String.toList_ofList, List.mem_append, List.mem_flatMap,
    List.mem_replicate, List.mem_singleton] at hmem
  rcases hmem with ⟨_, _, ⟨_, rfl⟩ | rfl⟩ | rfl <;> decide

theorem longHistoryCipher_length : longHistoryCipher.length = 1825 := by
  have hplaintext : (plaintextOf longHistory).toList = "[\"aaaaaaaaaaaaaaaa\"]".toList := by
    decide
  show (String.ofList _).length = 1825
  rw [String.length_ofList, hplaintext]
  decide +kernel

theorem encrypt_longHistoryState :
    encryptSensitiveFields strokeEnv (fun _ => ()) longHistoryState =
      [("messages", .str longHistoryCipher)] := rfl

/-- The history is cut to a part of its ciphertext, and the state is then
    small enough. -/
theorem longHistoryState_not_uncut :
    ¬ Uncut 1153 (encryptSensitiveFields strokeEnv (fun _ => ()) longHistoryState) := by
  have hlength := longHistoryCipher_length
  have hchars := longHistoryCipher_chars 1825
  rw [take_of_length_le (Nat.le_of_eq hlength)] at hchars
  have hbytes := utf8ByteSize_ascii (fun c hc => (hchars c hc).2)
  rw [String.ofList_toList, String.length_toList, hlength] at hbytes
  have hperField : perField 1153 = 1024 := by decide
  rw [encrypt_longHistoryState]
  intro huncut
  have hle := (huncut "messages" (by decide) longHistoryCipher rfl).1 ?_ ?_
  · rw [hbytes, hperField] at hle
    omega
  · -- Cutting the history is enough.
    intro hnever
    have hcut : cutFields (perField 1153) [("messages", .str longHistoryCipher)] ["messages"] =
        [("messages", .str (take longHistoryCipher 1024 ++ truncationMark))] := by
      rw [← truncateText_ascii (fun c hc => (hchars c hc).2) (by omega), hperField]
      rfl
    have hlarge := hnever ["messages"] (by decide)
    rw [hcut, TooLarge, estimateSize_messages, String.length_append] at hlarge
    · have htake : (take longHistoryCipher 1024).length = 1024 := by
        rw [take, String.length_ofList, List.length_take, String.length_toList, hlength]
        rfl
      have hmark : truncationMark.length = 14 := by decide
      omega
    · rw [String.toList_append, List.forall_mem_append]
      exact ⟨longHistoryCipher_chars 1024, by decide⟩
  · -- The history is the first field that is cut.
    refine ⟨[], by decide, ?_⟩
    intro part hpart
    rw [List.prefix_nil.mp hpart, TooLarge]
    show 1153 < estimateSize (.dict [("messages", .str longHistoryCipher)])
    rw [estimateSize_messages hchars, hlength]
    omega

theorem longHistoryState_leaks :
    Json.Plain strokeEnv.readFloat strokeEnv.decodeDepth (.dict longHistoryState) ∧
    ¬ Restores strokeEnv (fun _ => ()) 1153 longHistoryState := by
  have hplain : Json.Plain strokeEnv.readFloat strokeEnv.decodeDepth (.dict longHistoryState) := by
    refine ⟨by decide, ?_⟩
    intro p hp
    rw [List.mem_singleton.mp hp]
    intro x hx
    rw [List.mem_singleton.mp hx]
    trivial
  refine ⟨hplain, fun h => longHistoryState_not_uncut ?_⟩
  exact uncut_of_restores strokeEnv_lawful strokeEnv_base64 hplain rfl (by decide) (by decide) h

end Recovered

end StateCrypto

end AgenticRag
