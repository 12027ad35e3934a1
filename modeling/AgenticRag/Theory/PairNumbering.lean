import AgenticRag.Core.PairVerifier

/-!
# How the Model Numbers Its Verdicts

The answer for a batch of pairs is a list of objects, each with the number of
the pair it is about. The numbers may start at one or at zero. Which of the two
it is only the whole list says, and the reader decides it object by object: a
number from one on is taken as it is, and only a zero is moved up.

So a list that is numbered from one is read right, in any order. One that is
numbered from zero is read one place off: the second pair gets the verdict of
the third, the first that of the first or of the second, whichever comes last,
and the last pair none (`lookup_positions`). It is read right only where there
is nothing to be read off: a batch of one pair, or a batch in which no object
but that of the first pair has a verdict, and that one is not written over by
the object behind it.

## Main definitions

* `NumberedFrom`: The objects are numbered without gaps, in any order.
* `Unmoved`: Moving the numbers makes no difference.

## Theorems

* `parseBatchResponse_getElem?`: What is read for a pair.
* `parseBatchResponse_assigned_iff`: When the verdicts go to their pairs.
-/

namespace AgenticRag

open Py Ordered

/-- The number an object gives, where it is a number. -/
def numberOf (item : Dict) : Option Int :=
  match item.lookup "pair_index" with
  | some (.int i) => some i
  | _ => none

/-- The objects of a batch of `n` pairs are numbered from a base, in any
    order. -/
def NumberedFrom (base n : Nat) (objects : List Dict) : Prop :=
  (objects.map numberOf).Perm ((List.range n).map (fun i : Nat => some ((base : Int) + i)))

/-- The verdict of an object, if both of its parts can be read. -/
def readVerdict (u : Unicode) (item : Dict) : Option (String × String) :=
  match nliOf u item, llmOf u item with
  | some nli, some llm => some (nli, llm)
  | _, _ => none

/-- Every pair has the verdict of its own object, and there are no others. -/
def Assigned (u : Unicode) (base n : Nat) (objects : List Dict)
    (verdicts : List (Option (String × String))) : Prop :=
  verdicts.length = n ∧
    ∀ item ∈ objects, ∀ i < n, numberOf item = some ((base : Int) + i) →
      verdicts[i]? = some (readVerdict u item)

/-- The object with the number zero stands behind that with the number one. -/
def ZeroLast (objects : List Dict) : Prop :=
  ∃ front one middle zero back, objects = front ++ one :: (middle ++ zero :: back) ∧
    numberOf one = some 1 ∧ numberOf zero = some 0

/-- Reading the numbers as numbers from one makes no difference: they are, or
    there is no other pair to take a verdict from, or no verdict but that of
    the first pair can be read, and it is not written over. -/
def Unmoved (u : Unicode) (base n : Nat) (objects : List Dict) : Prop :=
  base = 1 ∨ n ≤ 1 ∨
    ((∀ item ∈ objects, numberOf item ≠ some 0 → readVerdict u item = none) ∧
      ((∀ item ∈ objects, numberOf item = some 0 → readVerdict u item = none) ∨
        ZeroLast objects))

section Reading

variable {u : Unicode} {jsonLoads : String → Option Val} {response : String} {n : Nat}
  {v : Val} {objects : List Dict}

/-- The objects under the positions they are read for. -/
def positions (n : Nat) (objects : List Dict) : List (Nat × Dict) :=
  objects.filterMap (fun item => (pairPosition n item).map (fun i => (i, item)))

theorem mem_positions {i : Nat} {item : Dict} :
    (i, item) ∈ positions n objects ↔ item ∈ objects ∧ pairPosition n item = some i := by
  unfold positions
  rw [List.mem_filterMap]
  constructor
  · rintro ⟨found, hmem, hpos⟩
    rcases Option.map_eq_some_iff.mp hpos with ⟨j, hj, heq⟩
    cases heq
    exact ⟨hmem, hj⟩
  · rintro ⟨hmem, hpos⟩
    exact ⟨item, hmem, by rw [hpos]; rfl⟩

/-- A pair is given the verdict of the object that is filed last under its
    position. -/
theorem parseBatchResponse_getElem? (hresponse : response ≠ "")
    (hread : jsonLoads (unfence response) = some v)
    (hitems : verdictItems v = some (objects.map Val.dict)) {i : Nat} (hi : i < n) :
    (parseBatchResponse u jsonLoads response n)[i]? =
      some (((dictOf (positions n objects)).lookup (i + 1)).bind (readVerdict u)) := by
  unfold parseBatchResponse
  simp only [if_neg hresponse, hread, Option.bind_some, hitems, List.filterMap_map]
  rw [List.getElem?_map, List.getElem?_range hi, Option.map_some]
  -- What was filed is `positions`, whatever the reader calls it.
  split
  next hnone =>
    have hlookup : (dictOf (positions n objects)).lookup (i + 1) = none := hnone
    rw [hlookup, Option.bind_none]
  next item hsome =>
    have hlookup : (dictOf (positions n objects)).lookup (i + 1) = some item := hsome
    rw [hlookup, Option.bind_some]
    rfl

theorem length_parseBatchResponse (u : Unicode) (jsonLoads : String → Option Val)
    (response : String) (n : Nat) : (parseBatchResponse u jsonLoads response n).length = n := by
  unfold parseBatchResponse
  dsimp only
  split
  · exact List.length_replicate
  · rw [List.length_map, List.length_range]

end Reading

section Numbers

variable {base n : Nat} {objects : List Dict} {item item' : Dict}

/-- Where a number is filed: as it is if it is from one on, and moved up if it
    is zero. -/
theorem pairPosition_of_number {k : Int} (h : numberOf item = some k) :
    pairPosition n item =
      if 1 ≤ k ∧ k ≤ n then some k.toNat
      else if 0 ≤ k ∧ k < n then some (k.toNat + 1)
      else none := by
  unfold numberOf at h
  unfold pairPosition
  split at h
  · next i hi =>
      cases h
      rw [hi]
  · cases h

theorem pairPosition_of_pos {j : Nat} (h : numberOf item = some (j : Int)) (hpos : 1 ≤ j)
    (hle : j ≤ n) : pairPosition n item = some j := by
  rw [pairPosition_of_number h, if_pos ⟨by omega, by omega⟩, Int.toNat_natCast]

theorem pairPosition_of_zero (h : numberOf item = some 0) (hn : 0 < n) :
    pairPosition n item = some 1 := by
  rw [pairPosition_of_number h, if_neg (by omega), if_pos ⟨le_refl 0, by omega⟩]
  rfl

variable (hnumbered : NumberedFrom base n objects)

include hnumbered

/-- Every object has a number of the batch. -/
theorem NumberedFrom.exists_number (hitem : item ∈ objects) :
    ∃ i < n, numberOf item = some ((base : Int) + i) := by
  have hmem := hnumbered.mem_iff.mp (List.mem_map_of_mem hitem)
  rcases List.mem_map.mp hmem with ⟨i, hi, hnumber⟩
  exact ⟨i, List.mem_range.mp hi, hnumber.symm⟩

/-- Every number of the batch has an object. -/
theorem NumberedFrom.exists_item {i : Nat} (hi : i < n) :
    ∃ item ∈ objects, numberOf item = some ((base : Int) + i) := by
  have hmem := hnumbered.mem_iff.mpr (List.mem_map.mpr ⟨i, List.mem_range.mpr hi, rfl⟩)
  exact List.mem_map.mp hmem

/-- No number stands twice. -/
theorem NumberedFrom.nodup : (objects.map numberOf).Nodup := by
  refine hnumbered.nodup_iff.mpr (List.Nodup.map ?_ List.nodup_range)
  intro i j hij
  have hcast : (base : Int) + i = base + j := Option.some.inj hij
  omega

/-- No two objects have one number. -/
theorem NumberedFrom.item_unique (hitem : item ∈ objects) (hitem' : item' ∈ objects)
    (h : numberOf item = numberOf item') : item = item' :=
  List.inj_on_of_nodup_map hnumbered.nodup hitem hitem' h

/-- The object that alone is filed under a position is found there. -/
theorem NumberedFrom.lookup_positions {i : Nat} (hitem : item ∈ objects)
    (hpos : pairPosition n item = some i)
    (hsole : ∀ other ∈ objects, pairPosition n other = some i → numberOf other = numberOf item) :
    (dictOf (positions n objects)).lookup i = some item := by
  refine lookup_dictOf_of_mem (mem_positions.mpr ⟨hitem, hpos⟩) fun other hother => ?_
  rcases mem_positions.mp hother with ⟨hmem, hat⟩
  exact hnumbered.item_unique hmem hitem (hsole other hmem hat)

end Numbers

section Bases

variable {u : Unicode} {n : Nat} {objects : List Dict}

/-- Numbers from one are positions, and so is the only number from zero. -/
theorem NumberedFrom.position {base : Nat} (hnumbered : NumberedFrom base n objects)
    (hbase : base = 1 ∨ base = 0 ∧ n ≤ 1) {item : Dict} {i : Nat} (hi : i < n)
    (h : numberOf item = some ((base : Int) + i)) : pairPosition n item = some (i + 1) := by
  rcases hbase with rfl | ⟨rfl, hn⟩
  · refine pairPosition_of_pos ?_ (Nat.le_add_left 1 i) hi
    rw [h, Nat.cast_add, add_comm]
  · -- The batch has one pair.
    have hzero : i = 0 := by omega
    subst hzero
    exact pairPosition_of_zero h (by omega)

/-- Then the object of a pair is found under the position of the pair. -/
theorem NumberedFrom.lookup_own {base : Nat} (hnumbered : NumberedFrom base n objects)
    (hbase : base = 1 ∨ base = 0 ∧ n ≤ 1) {item : Dict} (hitem : item ∈ objects) {i : Nat}
    (hi : i < n) (h : numberOf item = some ((base : Int) + i)) :
    (dictOf (positions n objects)).lookup (i + 1) = some item := by
  refine hnumbered.lookup_positions hitem (hnumbered.position hbase hi h) ?_
  intro other hother hat
  rcases hnumbered.exists_number hother with ⟨j, hj, hnumber⟩
  have hposition := hnumbered.position hbase hj hnumber
  rw [hat, Option.some.injEq, Nat.add_right_cancel_iff] at hposition
  rw [hnumber, h, hposition]

variable (hzero : NumberedFrom 0 n objects)

include hzero

theorem NumberedFrom.number_eq {item : Dict} (hitem : item ∈ objects) :
    ∃ j < n, numberOf item = some (j : Int) := by
  rcases hzero.exists_number hitem with ⟨j, hj, hnumber⟩
  exact ⟨j, hj, by rw [hnumber, Nat.cast_zero, zero_add]⟩

/-- Numbered from zero, the second and the later pairs are given the object of
    the pair behind them, and the last pair none. -/
theorem NumberedFrom.lookup_next {i : Nat} (hi : 1 ≤ i) :
    (∀ item ∈ objects, numberOf item = some ((i + 1 : Nat) : Int) →
      (dictOf (positions n objects)).lookup (i + 1) = some item) ∧
    (i + 1 = n → (dictOf (positions n objects)).lookup (i + 1) = none) := by
  -- What is filed from the second position on has its number.
  have hfiled : ∀ other ∈ objects, pairPosition n other = some (i + 1) →
      numberOf other = some ((i + 1 : Nat) : Int) := by
    intro other hother hat
    rcases hzero.number_eq hother with ⟨j, hj, hnumber⟩
    rcases Nat.eq_zero_or_pos j with rfl | hpos
    · rw [pairPosition_of_zero hnumber (by omega), Option.some.injEq] at hat
      omega
    · rw [pairPosition_of_pos hnumber hpos hj.le, Option.some.injEq] at hat
      rw [hnumber, hat]
  constructor
  · intro item hitem hnumber
    rcases hzero.number_eq hitem with ⟨j, hj, hj'⟩
    have heq : j = i + 1 := by
      rw [hnumber, Option.some.injEq] at hj'
      omega
    refine hzero.lookup_positions hitem
      (pairPosition_of_pos hnumber (by omega) (by omega)) fun other hother hat => ?_
    rw [hfiled other hother hat, hnumber]
  · intro hlast
    cases hlook : (dictOf (positions n objects)).lookup (i + 1) with
    | none => rfl
    | some other =>
        rcases mem_positions.mp (mem_dictOf _ _ (mem_of_lookup hlook)) with ⟨hother, hat⟩
        rcases hzero.number_eq hother with ⟨j, hj, hnumber⟩
        have hsame := hfiled other hother hat
        rw [hnumber, Option.some.injEq] at hsame
        omega

end Bases

section First

variable {u : Unicode} {n : Nat} {objects : List Dict}

/-- Of the objects numbered zero and one the last is found under the first
    position. -/
theorem NumberedFrom.lookup_first (hn : 2 ≤ n) {front back : List Dict} {last : Dict}
    (hsplit : objects = front ++ last :: back)
    (hlast : numberOf last = some 0 ∨ numberOf last = some 1)
    (hzero : NumberedFrom 0 n objects)
    (hback : ∀ other ∈ back, numberOf other ≠ some 0 ∧ numberOf other ≠ some 1) :
    (dictOf (positions n objects)).lookup 1 = some last := by
  have hat : pairPosition n last = some 1 := by
    rcases hlast with h | h
    · exact pairPosition_of_zero h (by omega)
    · exact pairPosition_of_pos (j := 1) h (le_refl 1) (by omega)
  have hfiled : positions n objects = positions n front ++ (1, last) :: positions n back := by
    rw [hsplit, positions, positions, positions, List.filterMap_append,
      List.filterMap_cons_some (by rw [hat]; rfl)]
  rw [hfiled]
  refine lookup_dictOf_last _ last fun hmem => ?_
  rcases List.mem_map.mp hmem with ⟨⟨i, other⟩, hother, rfl⟩
  rcases mem_positions.mp hother with ⟨hin, hposition⟩
  have hmember : other ∈ objects := by
    rw [hsplit]
    exact List.mem_append_right _ (List.mem_cons_of_mem _ hin)
  -- Only zero and one are filed under the first position.
  rcases hzero.number_eq hmember with ⟨j, hj, hnumber⟩
  rcases Nat.eq_zero_or_pos j with rfl | hpos
  · exact (hback other hin).1 hnumber
  · rw [pairPosition_of_pos hnumber hpos hj.le, Option.some.injEq] at hposition
    rw [hposition] at hnumber
    exact (hback other hin).2 hnumber

/-- Behind an object there is none with its number. -/
theorem NumberedFrom.not_behind {base : Nat} (hnumbered : NumberedFrom base n objects)
    {front back : List Dict} {item : Dict} (hsplit : objects = front ++ item :: back) :
    ∀ other ∈ back, numberOf other ≠ numberOf item := by
  have hnodup := hnumbered.nodup
  rw [hsplit, List.map_append, List.map_cons] at hnodup
  have hrest := (List.nodup_cons.mp (List.nodup_append.mp hnodup).2.1).1
  intro other hother heq
  exact hrest (heq ▸ List.mem_map_of_mem hother)

/-- The first pair is given its own object if that stands last, and else the
    object of the second pair. -/
theorem NumberedFrom.lookup_zero (hzero : NumberedFrom 0 n objects) (hn : 2 ≤ n) {zero one : Dict}
    (hz : zero ∈ objects) (ho : one ∈ objects) (hz0 : numberOf zero = some 0)
    (ho1 : numberOf one = some 1) :
    (ZeroLast objects → (dictOf (positions n objects)).lookup 1 = some zero) ∧
      (¬ ZeroLast objects → (dictOf (positions n objects)).lookup 1 = some one) := by
  constructor
  · rintro ⟨front, one', middle, zero', back, hsplit, hone, hlast⟩
    have hsplit' : objects = (front ++ one' :: middle) ++ zero' :: back := by
      rw [hsplit, List.append_assoc, List.cons_append]
    have hself : zero' = zero := by
      refine hzero.item_unique ?_ hz (hlast.trans hz0.symm)
      rw [hsplit']
      exact List.mem_append_right _ List.mem_cons_self
    subst hself
    refine hzero.lookup_first hn hsplit' (Or.inl hlast) fun other hother => ⟨?_, ?_⟩
    · rw [← hlast]
      exact hzero.not_behind hsplit' other hother
    · rw [← hone]
      exact hzero.not_behind hsplit other
        (List.mem_append_right _ (List.mem_cons_of_mem _ hother))
  · intro hfirst
    rcases List.append_of_mem ho with ⟨front, back, hsplit⟩
    refine hzero.lookup_first hn hsplit (Or.inr ho1) fun other hother => ⟨fun hnumber => ?_, ?_⟩
    · -- A zero behind would stand last.
      rcases List.append_of_mem hother with ⟨middle, rest, hback⟩
      exact hfirst ⟨front, one, middle, other, rest, by rw [hsplit, hback], ho1, hnumber⟩
    · rw [← ho1]
      exact hzero.not_behind hsplit other hother

end First

section Assignment

variable {u : Unicode} {jsonLoads : String → Option Val} {response : String} {base n : Nat}
  {v : Val} {objects : List Dict}

/-- Whether the verdicts go to their pairs, object by object. -/
theorem assigned_iff_lookup (hresponse : response ≠ "")
    (hread : jsonLoads (unfence response) = some v)
    (hitems : verdictItems v = some (objects.map Val.dict)) :
    Assigned u base n objects (parseBatchResponse u jsonLoads response n) ↔
      ∀ item ∈ objects, ∀ i < n, numberOf item = some ((base : Int) + i) →
        ((dictOf (positions n objects)).lookup (i + 1)).bind (readVerdict u) =
          readVerdict u item := by
  unfold Assigned
  constructor
  · rintro ⟨-, h⟩ item hitem i hi hnumber
    have hat := h item hitem i hi hnumber
    rwa [parseBatchResponse_getElem? hresponse hread hitems hi, Option.some.injEq] at hat
  · intro h
    refine ⟨length_parseBatchResponse u jsonLoads response n, fun item hitem i hi hnumber => ?_⟩
    rw [parseBatchResponse_getElem? hresponse hread hitems hi, h item hitem i hi hnumber]

/-- Where the verdicts go to their pairs although the numbers are moved, no
    object but the first has one: the last pair is given none, so it has none,
    and each other pair is given that of the pair behind it. -/
theorem silent_of_assigned (hzero : NumberedFrom 0 n objects)
    (h : ∀ item ∈ objects, ∀ i < n, numberOf item = some (((0 : Nat) : Int) + i) →
      ((dictOf (positions n objects)).lookup (i + 1)).bind (readVerdict u) = readVerdict u item)
    (d j : Nat) (hj : 1 ≤ j) (hd : j + d + 1 = n) {item : Dict} (hitem : item ∈ objects)
    (hnumber : numberOf item = some (j : Int)) : readVerdict u item = none := by
  induction d generalizing j item with
  | zero =>
      have hat := h item hitem j (by omega) (by rw [hnumber, Nat.cast_zero, zero_add])
      rwa [(hzero.lookup_next hj).2 (by omega), Option.bind_none, eq_comm] at hat
  | succ d ih =>
      rcases hzero.exists_item (show j + 1 < n by omega) with ⟨next, hnext, hnumber'⟩
      rw [Nat.cast_zero, zero_add] at hnumber'
      have hat := h item hitem j (by omega) (by rw [hnumber, Nat.cast_zero, zero_add])
      rwa [(hzero.lookup_next hj).1 next hnext hnumber', Option.bind_some,
        ih (j + 1) (by omega) (by omega) hnext hnumber', eq_comm] at hat

/-- What is found under a position is one of the objects, filed there. -/
theorem filed_of_lookup {i : Nat} {other : Dict}
    (h : (dictOf (positions n objects)).lookup (i + 1) = some other) :
    other ∈ objects ∧ pairPosition n other = some (i + 1) :=
  mem_positions.mp (mem_dictOf _ _ (mem_of_lookup h))

/-- Where no object but the first has a verdict, nothing that is found elsewhere has
    one. -/
theorem lookup_silent (hn : 2 ≤ n)
    (hsilent : ∀ item ∈ objects, numberOf item ≠ some 0 → readVerdict u item = none) {i : Nat}
    (hpos : 0 < i) :
    ((dictOf (positions n objects)).lookup (i + 1)).bind (readVerdict u) = none := by
  cases hlook : (dictOf (positions n objects)).lookup (i + 1) with
  | none => rfl
  | some other =>
      rw [Option.bind_some]
      rcases filed_of_lookup hlook with ⟨hmem, hat⟩
      refine hsilent other hmem fun hother => ?_
      rw [pairPosition_of_zero hother (by omega), Option.some.injEq] at hat
      omega

/-- Where no object has a verdict, nothing that is found has one. -/
theorem lookup_silent_zero
    (hsilent : ∀ item ∈ objects, numberOf item ≠ some 0 → readVerdict u item = none)
    (hnone : ∀ item ∈ objects, numberOf item = some 0 → readVerdict u item = none) (i : Nat) :
    ((dictOf (positions n objects)).lookup (i + 1)).bind (readVerdict u) = none := by
  cases hlook : (dictOf (positions n objects)).lookup (i + 1) with
  | none => rfl
  | some other =>
      rw [Option.bind_some]
      by_cases hother : numberOf other = some 0
      · exact hnone other (filed_of_lookup hlook).1 hother
      · exact hsilent other (filed_of_lookup hlook).1 hother

/-- Where the numbers are moved, no object but the first may have a verdict. -/
theorem silent_unless_first (hzero : NumberedFrom 0 n objects)
    (h : ∀ item ∈ objects, ∀ i < n, numberOf item = some (((0 : Nat) : Int) + i) →
      ((dictOf (positions n objects)).lookup (i + 1)).bind (readVerdict u) = readVerdict u item) :
    ∀ item ∈ objects, numberOf item ≠ some 0 → readVerdict u item = none := by
  intro item hitem hne
  rcases hzero.number_eq hitem with ⟨j, hj, hnumber⟩
  have hpos : 1 ≤ j := by
    rcases Nat.eq_zero_or_pos j with rfl | hpos
    · exact absurd hnumber hne
    · exact hpos
  exact silent_of_assigned hzero h (n - 1 - j) j hpos (by omega) hitem hnumber

/-- The verdicts of a batch go to their pairs exactly when the batch is
    numbered from one or moving the numbers makes no difference. -/
theorem parseBatchResponse_assigned_iff (hbase : base = 0 ∨ base = 1) (hresponse : response ≠ "")
    (hread : jsonLoads (unfence response) = some v)
    (hitems : verdictItems v = some (objects.map Val.dict))
    (hnumbered : NumberedFrom base n objects) :
    Assigned u base n objects (parseBatchResponse u jsonLoads response n) ↔
      Unmoved u base n objects := by
  rw [assigned_iff_lookup hresponse hread hitems]
  by_cases hown : base = 1 ∨ base = 0 ∧ n ≤ 1
  · -- Here each object is found under the position of its pair.
    refine iff_of_true (fun item hitem i hi hnumber => ?_)
      (hown.imp id fun h => Or.inl h.2)
    rw [hnumbered.lookup_own hown hitem hi hnumber, Option.bind_some]
  have hbase : base = 0 := hbase.resolve_right fun h => hown (Or.inl h)
  subst hbase
  have hn : 2 ≤ n := by
    by_contra hlt
    exact hown (Or.inr ⟨rfl, by omega⟩)
  rcases hnumbered.exists_item (show 0 < n by omega) with ⟨zero, hz, hz0⟩
  rcases hnumbered.exists_item (show 1 < n by omega) with ⟨one, ho, ho1⟩
  have hlookup := hnumbered.lookup_zero hn hz ho hz0 ho1
  constructor
  · intro h
    have hsilent := silent_unless_first hnumbered h
    refine Or.inr (Or.inr ⟨hsilent, ?_⟩)
    by_cases hlast : ZeroLast objects
    · exact Or.inr hlast
    refine Or.inl fun item hitem hnumber => ?_
    -- The first pair is given the object of the second, which has no verdict.
    have hat := h item hitem 0 (by omega) hnumber
    rwa [Nat.zero_add, hlookup.2 hlast, Option.bind_some,
      hsilent one ho (by rw [ho1]; decide), eq_comm] at hat
  · rintro (h | h | ⟨hsilent, hfirst⟩)
    · exact absurd h (by decide)
    · omega
    intro item hitem i hi hnumber
    rcases Nat.eq_zero_or_pos i with rfl | hpos
    · rcases hfirst with hnone | hlast
      · rw [hnone item hitem hnumber]
        exact lookup_silent_zero hsilent hnone 0
      · rw [Nat.zero_add, hlookup.1 hlast, Option.bind_some,
          hnumbered.item_unique hz hitem (hz0.trans hnumber.symm)]
    · rw [hsilent item hitem (by rw [hnumber]; simp; omega)]
      exact lookup_silent hn hsilent hpos

end Assignment

section Samples

/-- The object of a pair: its number and the two answers. -/
def verdictObject (number : Int) (nli llm : String) : Dict :=
  [("pair_index", .int number), ("nli", .str nli), ("llm", .str llm)]

/-- A classification that leaves texts as they are. -/
def plainUnicode : Unicode := { (default : Unicode) with upper := id, lower := id }

/-- The answer for two pairs, the first supported and the second
    contradicted. -/
def twoVerdicts (base : Int) : List Dict :=
  [verdictObject base "entailment" "SUPPORTED",
    verdictObject (base + 1) "contradiction" "CONTRADICTED"]

theorem parseBatchResponse_assigned_iff_two :
    NumberedFrom 1 2 (twoVerdicts 1) ∧
      (Assigned plainUnicode 1 2 (twoVerdicts 1)
          (parseBatchResponse plainUnicode
            (fun _ => some (.list ((twoVerdicts 1).map Val.dict))) "[]" 2) ↔
        Unmoved plainUnicode 1 2 (twoVerdicts 1)) := by
  have hnumbered : NumberedFrom 1 2 (twoVerdicts 1) := by
    unfold NumberedFrom
    decide
  exact ⟨hnumbered, parseBatchResponse_assigned_iff (Or.inr rfl) (by decide) rfl rfl hnumbered⟩

/-- Numbered from zero, the first pair is given the contradiction of the
    second, and the second pair nothing. -/
theorem numbered_from_zero_moved :
    NumberedFrom 0 2 (twoVerdicts 0) ∧
      parseBatchResponse plainUnicode
          (fun _ => some (.list ((twoVerdicts 0).map Val.dict))) "[]" 2 =
        [some ("contradiction", "CONTRADICTED"), none] ∧
      ¬ Assigned plainUnicode 0 2 (twoVerdicts 0)
        (parseBatchResponse plainUnicode
          (fun _ => some (.list ((twoVerdicts 0).map Val.dict))) "[]" 2) := by
  have hparsed : parseBatchResponse plainUnicode
      (fun _ => some (.list ((twoVerdicts 0).map Val.dict))) "[]" 2 =
      [some ("contradiction", "CONTRADICTED"), none] := by
    decide
  refine ⟨by unfold NumberedFrom; decide, hparsed, fun h => ?_⟩
  have hfirst := h.2 (verdictObject 0 "entailment" "SUPPORTED") List.mem_cons_self 0
    (by decide) rfl
  rw [hparsed] at hfirst
  exact absurd hfirst (by decide)

end Samples

end AgenticRag
