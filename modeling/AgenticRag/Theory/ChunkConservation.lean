import AgenticRag.Core.ParentExpansion

/-!
# What Parent Expansion Does With Every Chunk

Every chunk that goes into the expansion is represented once in what comes out:
it is there itself, with its marks and perhaps a window in the place of its
text, or it went into the one chunk that stands for all pieces of its parent.
To see this the chunks are numbered, and with every chunk of the output goes the
list of the numbers it stands for (`tagged`); together these lists hold every
number once, and sorting moves them along.

The counts are another matter. A chunk that keeps its place is counted in all of
the branches, but the branch that merges counts the merged chunk and not the
pieces. So the counts add up exactly when no chunk was merged with another.

## Main definitions

* `pieces`, `outcome`: The pieces of a parent, and what becomes of a chunk.
* `Conserves`: Nothing is lost, nothing is doubled, and the counts say so.

## Theorems

* `standsFor_tagged`, `flatten_tagged_perm`: Every chunk of the output stands
  for some of the input, and together they stand for all.
* `countP_outcome`: The chunks by what became of them.
* `expandParents_conserves_iff`: When the expansion conserves chunks.
-/

namespace AgenticRag

namespace Retrieval

open Py Ordered

section Outcomes

variable (store : ParentStore) (config : ExpansionConfig) (tenantId : String)
  (kbIds : List String)

/-- The chunks of a list with a parent. -/
def pieces (chunks : List SubChunk) (momId : String) : List SubChunk :=
  chunks.filter (fun ck => ck.parentId = some momId)

/-- How an expansion is counted. -/
def Regime.outcome : Regime → ParentExpansion
  | .missing => .subChunkOnly
  | .full _ => .fullParent
  | .window _ => .windowContext
  | .tooLarge => .subChunkOnly

/-- What becomes of a chunk of a list. -/
def outcome (chunks : List SubChunk) (ck : SubChunk) : ParentExpansion :=
  match ck.parentId with
  | none => .subChunkOnly
  | some momId => (regimeOf store config tenantId kbIds momId (pieces chunks momId)).outcome

/-- A chunk that keeps its place: only its marks are new, and its text if it
    got a window. -/
structure KeptAs (ck out : SubChunk) : Prop where
  frame : out =
    { ck with
      contentWithWeight := out.contentWithWeight
      parentExpansion := out.parentExpansion
      parentMomId := out.parentMomId
      parentTooLarge := out.parentTooLarge }
  text : out.parentExpansion ≠ some .windowContext → out.contentWithWeight = ck.contentWithWeight

/-- What a chunk of the output stands for: the chunk of the input with a number,
    or all of those with some numbers, which have one parent and are merged. -/
inductive StandsFor (chunks : List SubChunk) : List Nat → SubChunk → Prop where
  | itself {i : Nat} {ck out : SubChunk} (hat : chunks[i]? = some ck) (hkept : KeptAs ck out) :
      StandsFor chunks [i] out
  | merged {is : List Nat} {first : SubChunk} {rest : List SubChunk} {parentContent momId : String}
      (hat : is.map (fun i => chunks[i]?) = (first :: rest).map some)
      (hparent : ∀ ck ∈ first :: rest, ck.parentId = some momId) :
      StandsFor chunks is (buildMergedParentChunk first rest parentContent momId)

/-- Every chunk of the input is represented once and as it should be, the output
    is sorted, and every count is that of the chunks of the input. -/
structure Conserves (chunks : List SubChunk) (out : List SubChunk) (stats : ExpansionStats) :
    Prop where
  represented : ∃ origins : List (List Nat),
    List.Forall₂ (fun is c => StandsFor chunks is c ∧ ∀ i ∈ is, ∀ ck, chunks[i]? = some ck →
      c.parentExpansion = some (outcome store config tenantId kbIds chunks ck)) origins out ∧
      origins.flatten.Perm (List.range chunks.length)
  sorted : out.Pairwise (fun c d => d.relevance ≤ c.relevance)
  total : stats.total = chunks.length
  sum : stats.fullParent + stats.windowContext + stats.subChunkOnly = stats.total
  fullParent : stats.fullParent =
    chunks.countP (fun ck => outcome store config tenantId kbIds chunks ck = .fullParent)
  windowContext : stats.windowContext =
    chunks.countP (fun ck => outcome store config tenantId kbIds chunks ck = .windowContext)
  subChunkOnly : stats.subChunkOnly =
    chunks.countP (fun ck => outcome store config tenantId kbIds chunks ck = .subChunkOnly)

end Outcomes

section Loop

variable {store : ParentStore} {config : ExpansionConfig} {tenantId : String}
  {kbIds : List String}

/-- What a group is counted with, by outcome. -/
def counted (regime : Regime) (n : Nat) (e : ParentExpansion) : Nat :=
  if regime.outcome = e then if e = .fullParent then 1 else n else 0

theorem count_eq (stats : ExpansionStats) (n : Nat) (regime : Regime) :
    stats.count n regime =
      { total := stats.total
        fullParent := stats.fullParent + counted regime n .fullParent
        windowContext := stats.windowContext + counted regime n .windowContext
        subChunkOnly := stats.subChunkOnly + counted regime n .subChunkOnly } := by
  cases regime <;> rfl

variable (store config tenantId kbIds) in
/-- What all groups together are counted with. -/
def countedIn (groups : List (String × List SubChunk)) (e : ParentExpansion) : Nat :=
  (groups.map (fun g =>
    counted (regimeOf store config tenantId kbIds g.1 g.2) g.2.length e)).sum

/-- The loop over the parents appends what each group becomes and adds up what
    each is counted with. -/
theorem foldl_expandStep (groups : List (String × List SubChunk)) (acc : List SubChunk)
    (stats : ExpansionStats) :
    groups.foldl (expandStep store config tenantId kbIds) (acc, stats) =
      (acc ++ groups.flatMap (fun g =>
          expandGroup config g.1 g.2 (regimeOf store config tenantId kbIds g.1 g.2)),
        { total := stats.total
          fullParent := stats.fullParent +
            countedIn store config tenantId kbIds groups .fullParent
          windowContext := stats.windowContext +
            countedIn store config tenantId kbIds groups .windowContext
          subChunkOnly := stats.subChunkOnly +
            countedIn store config tenantId kbIds groups .subChunkOnly }) := by
  induction groups generalizing acc stats with
  | nil => simp [countedIn]
  | cons g rest ih =>
      rw [List.foldl_cons, expandStep, ih, count_eq]
      simp only [countedIn, List.map_cons, List.sum_cons, List.flatMap_cons, List.append_assoc,
        Nat.add_assoc]

/-- A group of chunks is the pieces of its parent. -/
theorem mem_parentGroups {chunks : List SubChunk} {momId : String} {g : List SubChunk}
    (h : (momId, g) ∈ parentGroups chunks) : g = pieces chunks momId ∧ g ≠ [] := by
  rcases mem_groupBy _ _ _ _ h with ⟨hg, hne⟩
  refine ⟨?_, hne⟩
  rw [hg, pieces, List.filter_filter]
  refine List.filter_congr fun ck _ => ?_
  cases hparent : ck.parentId with
  | none =>
      -- A chunk without a parent is in no group.
      simp
  | some p => simp

end Loop

section Tagged

variable (store : ParentStore) (config : ExpansionConfig) (tenantId : String)
  (kbIds : List String)

/-- The chunks that name a parent, with their numbers. -/
def numberedGroups (chunks : List SubChunk) : List (String × List (SubChunk × Nat)) :=
  groupBy (fun p => p.1.parentId.getD "") (chunks.zipIdx.filter (fun p => p.1.parentId.isSome))

/-- A filter finds the same when the elements are numbered. -/
theorem filter_eq_map_zipIdx (p : SubChunk → Bool) (chunks : List SubChunk) :
    chunks.filter p = (chunks.zipIdx.filter (fun q => p q.1)).map Prod.fst := by
  have hmap := List.filter_map (f := Prod.fst) (p := p) (l := chunks.zipIdx)
  rwa [List.zipIdx_map_fst] at hmap

theorem flatten_singletons (is : List Nat) : (is.map (fun i => [i])).flatten = is :=
  List.flatMap_singleton' is

theorem parentGroups_eq (chunks : List SubChunk) :
    parentGroups chunks = (numberedGroups chunks).map (fun g => (g.1, g.2.map Prod.fst)) := by
  rw [parentGroups, filter_eq_map_zipIdx, groupBy_map]
  rfl

/-- The numbers each chunk made of a group stands for. -/
def origins (is : List Nat) : Regime → List (List Nat)
  | .full _ => [is]
  | _ => is.map (fun i => [i])

/-- What a group becomes, each chunk with the numbers it stands for. -/
def taggedGroup (g : String × List (SubChunk × Nat)) : List (List Nat × SubChunk) :=
  let regime := regimeOf store config tenantId kbIds g.1 (g.2.map Prod.fst)
  (origins (g.2.map Prod.snd) regime).zip (expandGroup config g.1 (g.2.map Prod.fst) regime)

/-- The output before it is sorted, each chunk with the numbers it stands for. -/
def tagged (chunks : List SubChunk) : List (List Nat × SubChunk) :=
  (chunks.zipIdx.filter (fun p => p.1.parentId.isNone)).map (fun p =>
      ([p.2], { p.1 with parentExpansion := some .subChunkOnly })) ++
    (numberedGroups chunks).flatMap (taggedGroup store config tenantId kbIds)

variable {store config tenantId kbIds}

theorem length_origins {momId : String} {g : List (SubChunk × Nat)} (hne : g ≠ [])
    (regime : Regime) :
    (origins (g.map Prod.snd) regime).length =
      (expandGroup config momId (g.map Prod.fst) regime).length := by
  cases g with
  | nil => exact absurd rfl hne
  | cons p rest => cases regime <;> simp [origins, expandGroup]

theorem taggedGroup_snd {g : String × List (SubChunk × Nat)} (hne : g.2 ≠ []) :
    (taggedGroup store config tenantId kbIds g).map Prod.snd =
      expandGroup config g.1 (g.2.map Prod.fst)
        (regimeOf store config tenantId kbIds g.1 (g.2.map Prod.fst)) :=
  List.map_snd_zip (length_origins hne _).ge

theorem taggedGroup_fst {g : String × List (SubChunk × Nat)} (hne : g.2 ≠ []) :
    ((taggedGroup store config tenantId kbIds g).map Prod.fst).flatten = g.2.map Prod.snd := by
  rw [taggedGroup, List.map_fst_zip (length_origins hne _).le]
  cases regimeOf store config tenantId kbIds g.1 (g.2.map Prod.fst) with
  | full parentContent => exact List.append_nil _
  | missing => exact flatten_singletons _
  | window parentContent => exact flatten_singletons _
  | tooLarge => exact flatten_singletons _

theorem numberedGroups_ne_nil {chunks : List SubChunk} {g : String × List (SubChunk × Nat)}
    (h : g ∈ numberedGroups chunks) : g.2 ≠ [] :=
  (mem_groupBy _ _ _ _ h).2

/-- The output of the loop is what is tagged. -/
theorem tagged_snd (chunks : List SubChunk) :
    (tagged store config tenantId kbIds chunks).map Prod.snd =
      (chunks.filter (fun ck => ck.parentId.isNone)).map (fun ck =>
          { ck with parentExpansion := some .subChunkOnly }) ++
        (parentGroups chunks).flatMap (fun g =>
          expandGroup config g.1 g.2 (regimeOf store config tenantId kbIds g.1 g.2)) := by
  rw [tagged, List.map_append, List.map_flatMap, parentGroups_eq, List.flatMap_map,
    filter_eq_map_zipIdx, List.map_map, List.map_map]
  refine congrArg _ (List.flatMap_congr fun g hg => ?_)
  exact taggedGroup_snd (numberedGroups_ne_nil hg)

/-- Together the chunks of the output stand for every chunk of the input once. -/
theorem flatten_tagged_perm (chunks : List SubChunk) :
    ((tagged store config tenantId kbIds chunks).map Prod.fst).flatten.Perm
      (List.range chunks.length) := by
  have hgroups : ((numberedGroups chunks).flatMap (fun g =>
      ((taggedGroup store config tenantId kbIds g).map Prod.fst).flatten)) =
      ((numberedGroups chunks).flatMap Prod.snd).map Prod.snd := by
    rw [List.map_flatMap]
    exact List.flatMap_congr fun g hg => taggedGroup_fst (numberedGroups_ne_nil hg)
  have hflat : ((tagged store config tenantId kbIds chunks).map Prod.fst).flatten =
      (chunks.zipIdx.filter (fun p => p.1.parentId.isNone)).map Prod.snd ++
        ((numberedGroups chunks).flatMap Prod.snd).map Prod.snd := by
    rw [← hgroups, tagged, List.map_append, List.flatten_append, List.map_map]
    refine congrArg₂ _ ?_ ?_
    · have hsingle := flatten_singletons
        ((chunks.zipIdx.filter (fun p => p.1.parentId.isNone)).map Prod.snd)
      rwa [List.map_map] at hsingle
    · rw [List.map_flatMap, List.flatMap_def, List.flatMap_def, List.flatten_flatten, List.map_map]
      rfl
  have hrange : List.range chunks.length = chunks.zipIdx.map Prod.snd := by
    rw [List.zipIdx_map_snd, List.range_eq_range']
  rw [hflat, ← List.map_append, hrange]
  refine List.Perm.map Prod.snd ?_
  -- A chunk names a parent or it does not.
  have hsome : (chunks.zipIdx.filter (fun p => p.1.parentId.isSome)) =
      chunks.zipIdx.filter (fun p => !p.1.parentId.isNone) :=
    List.filter_congr fun p _ => by rw [Option.not_isNone]
  refine ((groupBy_flatMap_perm _ _).append_left _).trans ?_
  rw [hsome]
  exact List.filter_append_perm _ _

/-- A numbered piece is the chunk with its number, and names the parent. -/
theorem mem_numberedGroups {chunks : List SubChunk} {g : String × List (SubChunk × Nat)}
    (h : g ∈ numberedGroups chunks) {p : SubChunk × Nat} (hp : p ∈ g.2) :
    chunks[p.2]? = some p.1 ∧ p.1.parentId = some g.1 := by
  rcases g with ⟨momId, ps⟩
  have hmem := hp
  rw [(mem_groupBy _ _ _ _ h).1] at hmem
  rcases List.mem_filter.mp hmem with ⟨hin, hkey⟩
  rcases List.mem_filter.mp hin with ⟨hnum, hnamed⟩
  refine ⟨List.mem_zipIdx_iff_getElem?.mp hnum, ?_⟩
  rcases Option.isSome_iff_exists.mp hnamed with ⟨m, hm⟩
  have hkey' := of_decide_eq_true hkey
  dsimp only at hkey' hm ⊢
  rw [hm, Option.getD_some] at hkey'
  rw [hm, hkey']

theorem pieces_eq_numbered {chunks : List SubChunk} {g : String × List (SubChunk × Nat)}
    (h : g ∈ numberedGroups chunks) : g.2.map Prod.fst = pieces chunks g.1 := by
  refine (mem_parentGroups ?_).1
  rw [parentGroups_eq]
  exact List.mem_map.mpr ⟨g, h, rfl⟩

/-- A group whose chunks are rewritten one by one. -/
theorem mem_zip_kept {g : List (SubChunk × Nat)} {F : SubChunk → SubChunk}
    {t : List Nat × SubChunk}
    (h : t ∈ ((g.map Prod.snd).map (fun i => [i])).zip ((g.map Prod.fst).map F)) :
    ∃ p ∈ g, t = ([p.2], F p.1) := by
  rw [List.map_map, List.map_map, List.zip_map'] at h
  rcases List.mem_map.mp h with ⟨p, hp, rfl⟩
  exact ⟨p, hp, rfl⟩

/-- Every chunk of the output stands for chunks of the input, and says what
    became of them. -/
theorem standsFor_tagged {chunks : List SubChunk} {t : List Nat × SubChunk}
    (h : t ∈ tagged store config tenantId kbIds chunks) :
    StandsFor chunks t.1 t.2 ∧ ∀ i ∈ t.1, ∀ ck, chunks[i]? = some ck →
      t.2.parentExpansion = some (outcome store config tenantId kbIds chunks ck) := by
  rcases List.mem_append.mp h with halone | hgroup
  · rcases List.mem_map.mp halone with ⟨p, hp, rfl⟩
    rcases List.mem_filter.mp hp with ⟨hnum, hnone⟩
    have hat : chunks[p.2]? = some p.1 := List.mem_zipIdx_iff_getElem?.mp hnum
    refine ⟨.itself hat ⟨rfl, fun _ => rfl⟩, fun i hi ck hck => ?_⟩
    rw [List.mem_singleton.mp hi, hat] at hck
    cases hck
    rw [outcome, Option.isNone_iff_eq_none.mp hnone]
  · rcases List.mem_flatMap.mp hgroup with ⟨g, hg, ht⟩
    have hpieces := pieces_eq_numbered hg
    -- What became of a piece is what is done with its group.
    have houtcome : ∀ p ∈ g.2, ∀ ck, chunks[p.2]? = some ck →
        outcome store config tenantId kbIds chunks ck =
          (regimeOf store config tenantId kbIds g.1 (g.2.map Prod.fst)).outcome := by
      intro p hp ck hck
      rcases mem_numberedGroups hg hp with ⟨hat, hparent⟩
      rw [hat] at hck
      cases hck
      rw [outcome, hparent, hpieces]
    unfold taggedGroup at ht
    generalize hregime : regimeOf store config tenantId kbIds g.1 (g.2.map Prod.fst) = regime
      at ht houtcome
    -- A piece that is not merged stands for itself only.
    have hitself : ∀ p ∈ g.2, ∀ i ∈ [p.2], ∀ ck, chunks[i]? = some ck →
        outcome store config tenantId kbIds chunks ck = regime.outcome := by
      intro p hp i hi ck hck
      rw [List.mem_singleton.mp hi] at hck
      exact houtcome p hp ck hck
    cases regime with
    | full parentContent =>
        cases hmembers : g.2 with
        | nil => exact absurd hmembers (numberedGroups_ne_nil hg)
        | cons p rest =>
            rw [hmembers] at ht
            rw [List.mem_singleton.mp ht]
            refine ⟨.merged ?_ ?_, fun i hi ck hck => ?_⟩
            · rw [List.map_map, ← List.map_cons (f := Prod.fst), List.map_map]
              refine List.map_congr_left fun q hq => ?_
              exact (mem_numberedGroups hg (hmembers ▸ hq)).1
            · intro ck hck
              rw [← List.map_cons (f := Prod.fst)] at hck
              rcases List.mem_map.mp hck with ⟨q, hq, rfl⟩
              exact (mem_numberedGroups hg (hmembers ▸ hq)).2
            · rcases List.mem_map.mp hi with ⟨q, hq, rfl⟩
              rw [houtcome q (hmembers ▸ hq) ck hck]
              rfl
    | missing =>
        rcases mem_zip_kept ht with ⟨p, hp, rfl⟩
        refine ⟨.itself (mem_numberedGroups hg hp).1 ⟨rfl, fun _ => rfl⟩, fun i hi ck hck => ?_⟩
        rw [hitself p hp i hi ck hck]
        rfl
    | window parentContent =>
        rcases mem_zip_kept ht with ⟨p, hp, rfl⟩
        refine ⟨.itself (mem_numberedGroups hg hp).1 ⟨rfl, fun hno => absurd rfl hno⟩,
          fun i hi ck hck => ?_⟩
        rw [hitself p hp i hi ck hck]
        rfl
    | tooLarge =>
        rcases mem_zip_kept ht with ⟨p, hp, rfl⟩
        refine ⟨.itself (mem_numberedGroups hg hp).1 ⟨rfl, fun _ => rfl⟩, fun i hi ck hck => ?_⟩
        rw [hitself p hp i hi ck hck]
        rfl

end Tagged

section Counts

variable {store : ParentStore} {config : ExpansionConfig} {tenantId : String}
  {kbIds : List String}

/-- The chunks in a group with an outcome are all of the group or none. -/
theorem countP_pieces (chunks : List SubChunk) (momId : String) (e : ParentExpansion) :
    (pieces chunks momId).countP
        (fun ck => outcome store config tenantId kbIds chunks ck = e) =
      if (regimeOf store config tenantId kbIds momId (pieces chunks momId)).outcome = e then
        (pieces chunks momId).length
      else 0 := by
  have houtcome : ∀ ck ∈ pieces chunks momId, outcome store config tenantId kbIds chunks ck =
      (regimeOf store config tenantId kbIds momId (pieces chunks momId)).outcome := by
    intro ck hck
    rw [outcome, of_decide_eq_true (List.mem_filter.mp hck).2]
  split_ifs with he
  · rw [List.countP_eq_length]
    intro ck hck
    rw [houtcome ck hck, he]
    exact decide_eq_true rfl
  · rw [List.countP_eq_zero]
    intro ck hck hcount
    rw [houtcome ck hck] at hcount
    exact he (of_decide_eq_true hcount)

/-- The chunks with an outcome: those without a parent, which are left alone,
    and those of the groups it is the outcome of. -/
theorem countP_outcome (chunks : List SubChunk) (e : ParentExpansion) :
    chunks.countP (fun ck => outcome store config tenantId kbIds chunks ck = e) =
      (if e = .subChunkOnly then (chunks.filter (fun ck => ck.parentId.isNone)).length else 0) +
        ((parentGroups chunks).map (fun g =>
          if (regimeOf store config tenantId kbIds g.1 g.2).outcome = e then g.2.length
          else 0)).sum := by
  have hperm : ((chunks.filter (fun ck => ck.parentId.isNone)) ++
      (parentGroups chunks).flatMap Prod.snd).Perm chunks := by
    have hsome : chunks.filter (fun ck => ck.parentId.isSome) =
        chunks.filter (fun ck => !ck.parentId.isNone) :=
      List.filter_congr fun ck _ => by rw [Option.not_isNone]
    refine ((groupBy_flatMap_perm _ _).append_left _).trans ?_
    rw [hsome]
    exact List.filter_append_perm _ _
  rw [← hperm.countP_eq, List.countP_append, List.countP_flatMap]
  congr 1
  · split_ifs with he
    · rw [List.countP_eq_length]
      intro ck hck
      rw [outcome, Option.isNone_iff_eq_none.mp (List.mem_filter.mp hck).2, he]
      exact decide_eq_true rfl
    · rw [List.countP_eq_zero]
      intro ck hck hcount
      rw [outcome, Option.isNone_iff_eq_none.mp (List.mem_filter.mp hck).2] at hcount
      exact he (of_decide_eq_true hcount).symm
  · refine congrArg List.sum (List.map_congr_left fun g hg => ?_)
    rcases g with ⟨momId, g⟩
    rw [Function.comp_apply, (mem_parentGroups hg).1]
    exact countP_pieces chunks momId e

theorem countP_outcomes {α : Type} (f : α → ParentExpansion) (xs : List α) :
    xs.countP (fun x => f x = .fullParent) + xs.countP (fun x => f x = .windowContext) +
      xs.countP (fun x => f x = .subChunkOnly) = xs.length := by
  induction xs with
  | nil => rfl
  | cons x xs ih =>
      rw [List.countP_cons, List.countP_cons, List.countP_cons, List.length_cons, ← ih]
      cases f x <;> simp <;> omega

/-- Sums of terms that are in order are equal when the terms are. -/
theorem sum_eq_sum_iff {α : Type} {f g : α → Nat} {xs : List α} (hle : ∀ x ∈ xs, f x ≤ g x) :
    (xs.map f).sum = (xs.map g).sum ↔ ∀ x ∈ xs, f x = g x := by
  induction xs with
  | nil => simp
  | cons x xs ih =>
      have hfirst := hle x List.mem_cons_self
      have hrest := ih (fun y hy => hle y (List.mem_cons_of_mem x hy))
      have hsum : (xs.map f).sum ≤ (xs.map g).sum :=
        List.sum_le_sum (fun y hy => hle y (List.mem_cons_of_mem x hy))
      rw [List.map_cons, List.map_cons, List.sum_cons, List.sum_cons, List.forall_mem_cons, ← hrest]
      omega

/-- A chunk that names a parent is in the group of the parent. -/
theorem exists_mem_parentGroups {chunks : List SubChunk} {ck : SubChunk} {momId : String}
    (hck : ck ∈ chunks) (hparent : ck.parentId = some momId) :
    (momId, pieces chunks momId) ∈ parentGroups chunks := by
  have hkey : momId ∈ (parentGroups chunks).map Prod.fst := by
    rw [parentGroups, mem_keys_groupBy]
    exact ⟨ck, List.mem_filter.mpr ⟨hck, by rw [hparent]; rfl⟩, by rw [hparent]; rfl⟩
  rcases List.mem_map.mp hkey with ⟨⟨m, g⟩, hg, rfl⟩
  rwa [(mem_parentGroups hg).1] at hg

end Counts

section Conservation

variable (store : ParentStore) (config : ExpansionConfig) (tenantId : String)
  (kbIds : List String)

/-- The expansion in closed form. -/
theorem expandParents_eq (chunks : List SubChunk) :
    expandParents store config tenantId kbIds chunks =
      (sortDesc SubChunk.relevance ((tagged store config tenantId kbIds chunks).map Prod.snd),
        { total := chunks.length
          fullParent := countedIn store config tenantId kbIds (parentGroups chunks) .fullParent
          windowContext :=
            countedIn store config tenantId kbIds (parentGroups chunks) .windowContext
          subChunkOnly := (chunks.filter (fun ck => ck.parentId.isNone)).length +
            countedIn store config tenantId kbIds (parentGroups chunks) .subChunkOnly }) := by
  unfold expandParents
  split_ifs with hnil
  · subst hnil
    rfl
  · dsimp only
    rw [foldl_expandStep, tagged_snd, List.length_map, Nat.zero_add, Nat.zero_add]

/-- Whatever the counts say, no chunk is lost or doubled. -/
theorem expandParents_represented (chunks : List SubChunk) :
    ∃ origins : List (List Nat),
      List.Forall₂ (fun is c => StandsFor chunks is c ∧ ∀ i ∈ is, ∀ ck, chunks[i]? = some ck →
        c.parentExpansion = some (outcome store config tenantId kbIds chunks ck)) origins
        (expandParents store config tenantId kbIds chunks).1 ∧
      origins.flatten.Perm (List.range chunks.length) := by
  -- The numbers are sorted along with the chunks that stand for them.
  let sorted := sortDesc (fun t => SubChunk.relevance t.2)
    (tagged store config tenantId kbIds chunks)
  have hsorted : sorted.Perm (tagged store config tenantId kbIds chunks) := sortDesc_perm _ _
  refine ⟨sorted.map Prod.fst, ?_, ?_⟩
  · rw [expandParents_eq, sortDesc_map, List.forall₂_map_left_iff, List.forall₂_map_right_iff,
      List.forall₂_same]
    exact fun t ht => standsFor_tagged (hsorted.mem_iff.mp ht)
  · exact (hsorted.map Prod.fst).flatten.trans (flatten_tagged_perm chunks)

/-- The parents of chunks are the groups. -/
theorem forall_fullParent_iff (chunks : List SubChunk) :
    (∀ ck ∈ chunks, ∀ momId, ck.parentId = some momId →
        outcome store config tenantId kbIds chunks ck = .fullParent →
        (pieces chunks momId).length = 1) ↔
      ∀ g ∈ parentGroups chunks,
        (regimeOf store config tenantId kbIds g.1 g.2).outcome = .fullParent → g.2.length = 1 := by
  constructor
  · rintro h ⟨momId, g⟩ hg hfull
    rcases mem_parentGroups hg with ⟨rfl, hne⟩
    rcases List.exists_mem_of_ne_nil _ hne with ⟨ck, hck⟩
    rcases List.mem_filter.mp hck with ⟨hin, hparent⟩
    have hparent' := of_decide_eq_true hparent
    exact h ck hin momId hparent' (by rw [outcome, hparent']; exact hfull)
  · intro h ck hck momId hparent hfull
    rw [outcome, hparent] at hfull
    exact h _ (exists_mem_parentGroups hck hparent) hfull

/-- Merged groups are counted once each, so all their pieces are counted exactly when
    each has one. -/
theorem countedIn_fullParent_iff (chunks : List SubChunk) :
    countedIn store config tenantId kbIds (parentGroups chunks) .fullParent =
        chunks.countP
          (fun ck => outcome store config tenantId kbIds chunks ck = .fullParent) ↔
      ∀ g ∈ parentGroups chunks,
        (regimeOf store config tenantId kbIds g.1 g.2).outcome = .fullParent → g.2.length = 1 := by
  rw [countP_outcome, if_neg (by decide), Nat.zero_add, countedIn, sum_eq_sum_iff]
  · refine forall₂_congr fun g _ => ?_
    rw [counted]
    by_cases he : (regimeOf store config tenantId kbIds g.1 g.2).outcome = .fullParent
    · rw [if_pos he, if_pos rfl, if_pos he]
      exact ⟨fun h _ => h.symm, fun h => (h he).symm⟩
    · rw [if_neg he, if_neg he]
      exact ⟨fun _ h => absurd h he, fun _ => rfl⟩
  -- No group is without pieces, so none counts for more than it has.
  · intro g hg
    rw [counted, if_pos rfl]
    split_ifs
    · exact List.length_pos_iff.mpr (mem_parentGroups hg).2
    · exact le_refl 0

/-- The expansion conserves chunks, counts included, exactly when every parent
    that takes the place of its pieces has only one of them. -/
theorem expandParents_conserves_iff (chunks : List SubChunk) :
    Conserves store config tenantId kbIds chunks
        (expandParents store config tenantId kbIds chunks).1
        (expandParents store config tenantId kbIds chunks).2 ↔
      ∀ ck ∈ chunks, ∀ momId, ck.parentId = some momId →
        outcome store config tenantId kbIds chunks ck = .fullParent →
        (pieces chunks momId).length = 1 := by
  -- A chunk that keeps its place is counted in every group.
  have hwindow : countedIn store config tenantId kbIds (parentGroups chunks) .windowContext =
      chunks.countP (fun ck => outcome store config tenantId kbIds chunks ck = .windowContext) := by
    rw [countP_outcome, if_neg (by decide), Nat.zero_add]
    rfl
  have hsub : (chunks.filter (fun ck => ck.parentId.isNone)).length +
      countedIn store config tenantId kbIds (parentGroups chunks) .subChunkOnly =
      chunks.countP (fun ck => outcome store config tenantId kbIds chunks ck = .subChunkOnly) := by
    rw [countP_outcome, if_pos rfl]
    rfl
  rw [forall_fullParent_iff, ← countedIn_fullParent_iff]
  constructor
  · intro h
    have hcount := h.fullParent
    rwa [expandParents_eq] at hcount
  · intro hcount
    have hparts := countP_outcomes (outcome store config tenantId kbIds chunks) chunks
    refine
      { represented := expandParents_represented store config tenantId kbIds chunks
        sorted := ?_
        total := ?_
        sum := ?_
        fullParent := ?_
        windowContext := ?_
        subChunkOnly := ?_ }
    · rw [expandParents_eq]
      exact sortDesc_pairwise _ _
    · rw [expandParents_eq]
    · rw [expandParents_eq]
      dsimp only
      rw [hcount, hwindow, hsub, hparts]
    · rw [expandParents_eq]
      exact hcount
    · rw [expandParents_eq]
      exact hwindow
    · rw [expandParents_eq]
      exact hsub

end Conservation

section Samples

/-- A store with a small parent. -/
def smallParent : ParentStore where
  get := fun _ _ _ => .ok (some ⟨some "年度报告全文"⟩)
  numTokensFromString := fun text => text.toList.length

/-- Two pieces of one parent. -/
def twoPieces : List SubChunk :=
  [{ chunkId := "c1", momId := .str "p1", content := "年度", score := some (9 / 10) },
   { chunkId := "c2", momId := .str "p1", content := "报告", score := some (7 / 10) }]

/-- Two pieces are merged and counted as one. -/
theorem merged_pieces_miscounted :
    (expandParents smallParent {} "t1" ["kb1"] twoPieces).2 =
        { total := 2, fullParent := 1, windowContext := 0, subChunkOnly := 0 } ∧
      ¬ Conserves smallParent {} "t1" ["kb1"] twoPieces
        (expandParents smallParent {} "t1" ["kb1"] twoPieces).1
        (expandParents smallParent {} "t1" ["kb1"] twoPieces).2 := by
  have hstats : (expandParents smallParent {} "t1" ["kb1"] twoPieces).2 =
      { total := 2, fullParent := 1, windowContext := 0, subChunkOnly := 0 } := by
    decide
  refine ⟨hstats, fun h => ?_⟩
  have hsum := h.sum
  rw [hstats] at hsum
  cases hsum

end Samples

end Retrieval

end AgenticRag
