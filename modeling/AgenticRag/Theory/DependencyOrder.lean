import AgenticRag.Core.DependencyGraph
import AgenticRag.Lib.Precedence

/-!
# Dependencies Come First

What a graph that was built by calls stands for, and the order of its nodes.

Whatever the calls, the two mappings hold the edges that were added, in the
order of the calls, and the nodes are those that were named (`Represents`).
What follows is said of the edges.

The order keeps one count for each node: how many of its edges lead to a skill
that was not taken yet, with every edge counted as often as it was added. Taking
a node takes its edges off these counts, one at a time, and a count that falls
to zero puts its node into the queue. Since a count never falls below the edges
that are left, this happens to a node once (`notify_queue`).

When the queue is empty, a node was taken exactly if all it depends on was. So
the nodes taken are founded, and each of the others depends on another of them,
which leads around a cycle (`mem_topologicalSort`).

## Main definitions

* `Edge`: One skill depends on another.
* `Ordering`: What every round keeps.

## Theorems

* `represents_build`: Any sequence of calls builds what it says.
* `notify_counts`, `notify_queue`: What taking a node does to the counts and the queue.
* `exists_topologicalSort`: The order ends, with the invariant.
-/

namespace AgenticRag

namespace SkillGraph

open Ordered Precedence

section Building

/-- The first skill depends on the second. -/
def Edge (edges : List SkillDependency) (id dep : String) : Prop :=
  ∃ d ∈ edges, d.skillId = id ∧ d.linkedSkillId = dep

/-- The edge a call adds. -/
def GraphOp.edge? : GraphOp → Option SkillDependency
  | .addNode _ => none
  | .addEdge dependency => some dependency

/-- The skills a call names. -/
def GraphOp.ids : GraphOp → List String
  | .addNode skillId => [skillId]
  | .addEdge dependency => [dependency.skillId, dependency.linkedSkillId]

/-- The edges that were added, as often as they were. -/
def edgesOf (ops : List GraphOp) : List SkillDependency := ops.filterMap GraphOp.edge?

/-- A graph holds these edges, and the nodes that were named. -/
structure Represents (g : SkillDependencyGraph) (ops : List GraphOp) : Prop where
  adj : ∀ id, edgesAt g.adj id = (edgesOf ops).filter (fun d => d.skillId = id)
  radj : ∀ id, edgesAt g.radj id = (edgesOf ops).filter (fun d => d.linkedSkillId = id)
  nodes : ∀ id, id ∈ g.nodes ↔ ∃ op ∈ ops, id ∈ op.ids
  nodup : g.nodes.Nodup

theorem edgesAt_setDefault (key id : String) (d : List (String × List SkillDependency)) :
    edgesAt (setDefault key d) id = edgesAt d id := by
  rw [setDefault, edgesAt, edgesAt]
  by_cases hkey : key ∈ d.map Prod.fst
  · rw [if_pos hkey]
  · rw [if_neg hkey, List.lookup_append]
    by_cases hid : id = key
    · rw [hid, lookup_eq_none_of_not_mem hkey]
      simp
    · simp [List.lookup_cons, beq_eq_false_iff_ne.mpr hid]

theorem edgesAt_push (key id : String) (dep : SkillDependency)
    (d : List (String × List SkillDependency)) :
    edgesAt (push key dep d) id = edgesAt d id ++ if id = key then [dep] else [] := by
  rw [edgesAt, edgesAt, lookup_push]
  by_cases hid : id = key
  · rw [if_pos hid, if_pos hid, hid]
    rfl
  · rw [if_neg hid, if_neg hid, List.append_nil]

theorem represents_apply {g : SkillDependencyGraph} {ops : List GraphOp} (h : Represents g ops)
    (op : GraphOp) : Represents (op.apply g) (ops ++ [op]) := by
  have hedges : edgesOf (ops ++ [op]) = edgesOf ops ++ op.edge?.toList := by
    rw [edgesOf, List.filterMap_append]
    cases op <;> rfl
  have hids : ∀ id, (∃ op' ∈ ops ++ [op], id ∈ op'.ids) ↔ id ∈ op.ids ∨ id ∈ g.nodes := by
    intro id
    rw [h.nodes]
    constructor
    · rintro ⟨op', hop, hid⟩
      rcases List.mem_append.mp hop with hold | hnew
      · exact .inr ⟨op', hold, hid⟩
      · rw [List.mem_singleton] at hnew
        exact .inl (hnew ▸ hid)
    · rintro (hid | ⟨op', hop, hid⟩)
      · exact ⟨op, List.mem_append_right _ List.mem_cons_self, hid⟩
      · exact ⟨op', List.mem_append_left _ hop, hid⟩
  cases op with
  | addNode skillId =>
      refine ⟨fun id => ?_, fun id => ?_, fun id => ?_, h.nodup.insert⟩
      · rw [hedges]
        exact (edgesAt_setDefault ..).trans (by rw [h.adj]; simp [GraphOp.edge?])
      · rw [hedges]
        exact (edgesAt_setDefault ..).trans (by rw [h.radj]; simp [GraphOp.edge?])
      · rw [hids]
        exact List.mem_insert_iff.trans (by simp [GraphOp.ids])
  | addEdge dep =>
      refine ⟨fun id => ?_, fun id => ?_, fun id => ?_, h.nodup.insert.insert⟩
      · rw [hedges, List.filter_append, ← h.adj]
        refine (edgesAt_push ..).trans ?_
        rw [addNode, addNode, edgesAt_setDefault, edgesAt_setDefault]
        by_cases hid : id = dep.skillId
        · simp [GraphOp.edge?, hid]
        · simp [GraphOp.edge?, hid, Ne.symm hid]
      · rw [hedges, List.filter_append, ← h.radj]
        refine (edgesAt_push ..).trans ?_
        rw [addNode, addNode, edgesAt_setDefault, edgesAt_setDefault]
        by_cases hid : id = dep.linkedSkillId
        · simp [GraphOp.edge?, hid]
        · simp [GraphOp.edge?, hid, Ne.symm hid]
      · rw [hids]
        refine List.mem_insert_iff.trans ?_
        rw [addNode, List.mem_insert_iff]
        simp only [GraphOp.ids, List.mem_cons, List.not_mem_nil, or_false]
        tauto

theorem represents_build (ops : List GraphOp) : Represents (build ops) ops := by
  induction ops using List.reverseRecOn with
  | nil => exact ⟨fun _ => rfl, fun _ => rfl, by simp [build], List.nodup_nil⟩
  | append_singleton ops op ih =>
      rw [build, List.foldl_append]
      exact represents_apply ih op

variable {g : SkillDependencyGraph} {ops : List GraphOp}

/-- Both ends of an edge are nodes. -/
theorem ends_mem_nodes (h : Represents g ops) {id dep : String}
    (hedge : Edge (edgesOf ops) id dep) : id ∈ g.nodes ∧ dep ∈ g.nodes := by
  rcases hedge with ⟨d, hd, rfl, rfl⟩
  rw [h.nodes, h.nodes]
  rcases List.mem_filterMap.mp hd with ⟨op, hop, hsome⟩
  cases op with
  | addNode skillId => cases hsome
  | addEdge dependency =>
      cases hsome
      exact ⟨⟨_, hop, by simp [GraphOp.ids]⟩, ⟨_, hop, by simp [GraphOp.ids]⟩⟩

theorem mem_sorted {ids : List String} {id : String} : id ∈ sorted ids ↔ id ∈ ids :=
  (List.perm_insertionSort _ ids).mem_iff

end Building

section Counts

/-- How many of these edges are of the skill. -/
def edgesOfSkill (deps : List SkillDependency) (n : String) : Nat :=
  deps.countP (fun d => d.skillId = n)

/-- The edges of a skill to those that were not taken. -/
def pending (edges : List SkillDependency) (order : List String) (n : String) : Nat :=
  edges.countP (fun d => d.skillId = n ∧ d.linkedSkillId ∉ order)

theorem pending_eq_zero {edges : List SkillDependency} {order : List String} {n : String} :
    pending edges order n = 0 ↔ ∀ dep, Edge edges n dep → dep ∈ order := by
  rw [pending, List.countP_eq_zero]
  constructor
  · rintro h dep ⟨d, hd, rfl, rfl⟩
    by_contra hnot
    exact h d hd (decide_eq_true ⟨rfl, hnot⟩)
  · intro h d hd hpending
    have hcond := of_decide_eq_true hpending
    exact hcond.2 (h _ ⟨d, hd, hcond.1, rfl⟩)

theorem pending_cons (d : SkillDependency) (edges : List SkillDependency) (order : List String)
    (n : String) : pending (d :: edges) order n = pending edges order n +
      if d.skillId = n ∧ d.linkedSkillId ∉ order then 1 else 0 := by
  rw [pending, List.countP_cons, pending]
  simp only [decide_eq_true_eq]

theorem edgesOfSkill_cons (d : SkillDependency) (deps : List SkillDependency) (n : String) :
    edgesOfSkill (d :: deps) n = edgesOfSkill deps n + if d.skillId = n then 1 else 0 := by
  rw [edgesOfSkill, List.countP_cons, edgesOfSkill]
  simp only [decide_eq_true_eq]

/-- Taking a node takes its edges off what is pending. -/
theorem pending_concat (edges : List SkillDependency) {order : List String} {node : String}
    (hnode : node ∉ order) (n : String) :
    pending edges order n = pending edges (order ++ [node]) n +
      edgesOfSkill (edges.filter (fun d => d.linkedSkillId = node)) n := by
  induction edges with
  | nil => rfl
  | cons d edges ih =>
      rw [pending_cons, pending_cons, ih, List.filter_cons]
      by_cases hlinked : d.linkedSkillId = node
      · -- The edge is pending no more.
        have hnow : d.linkedSkillId ∉ order := hlinked ▸ hnode
        have hlater : d.linkedSkillId ∈ order ++ [node] :=
          List.mem_append_right _ (List.mem_singleton.mpr hlinked)
        rw [if_pos (decide_eq_true hlinked), edgesOfSkill_cons]
        simp only [hnow, hlater, not_true_eq_false, not_false_eq_true, and_true, and_false,
          if_false]
        omega
      · have hsame : d.linkedSkillId ∈ order ++ [node] ↔ d.linkedSkillId ∈ order := by
          rw [List.mem_append, List.mem_singleton, or_iff_left hlinked]
        rw [if_neg (fun h => hlinked (of_decide_eq_true h))]
        simp only [hsame]
        omega

/-- One edge changes one count. -/
theorem update_inDegree (inDegree : String → Int) (id n : String) :
    Function.update inDegree id (inDegree id - 1) n =
      inDegree n - if id = n then 1 else 0 := by
  by_cases hn : id = n
  · rw [← hn, Function.update_self, if_pos rfl]
  · rw [Function.update_of_ne (Ne.symm hn), if_neg hn, Int.sub_zero]

/-- What the edges to one node do to the counts: each takes one off the count of
    its skill. -/
theorem notify_counts (deps : List SkillDependency) (inDegree : String → Int)
    (queue : List String) (n : String) :
    (deps.foldl notify (inDegree, queue)).1 n = inDegree n - edgesOfSkill deps n := by
  induction deps generalizing inDegree queue with
  | nil => simp [edgesOfSkill]
  | cons d deps ih =>
      rw [List.foldl_cons, notify, ih, update_inDegree, edgesOfSkill_cons]
      by_cases hid : d.skillId = n
      · simp only [if_pos hid]
        omega
      · simp only [if_neg hid]
        omega

/-- What they do to the queue: the skills whose count falls to zero are queued,
    once. -/
theorem notify_queue (deps : List SkillDependency) (inDegree : String → Int) (queue : List String)
    (hle : ∀ n, (edgesOfSkill deps n : Int) ≤ inDegree n) :
    ∃ added, (deps.foldl notify (inDegree, queue)).2 = queue ++ added ∧ added.Nodup ∧
      ∀ n, n ∈ added ↔ 0 < edgesOfSkill deps n ∧ inDegree n = edgesOfSkill deps n := by
  induction deps generalizing inDegree queue with
  | nil => exact ⟨[], by simp, List.nodup_nil, fun n => by simp [edgesOfSkill]⟩
  | cons d deps ih =>
      have hle' : ∀ n, (edgesOfSkill deps n : Int) ≤
          Function.update inDegree d.skillId (inDegree d.skillId - 1) n := by
        intro n
        have hn := hle n
        rw [edgesOfSkill_cons] at hn
        rw [update_inDegree]
        by_cases hid : d.skillId = n
        · rw [if_pos hid] at hn ⊢
          omega
        · rw [if_neg hid] at hn ⊢
          omega
      have hself := update_inDegree inDegree d.skillId d.skillId
      rw [if_pos rfl] at hself
      have hbound := hle' d.skillId
      rw [hself] at hbound
      rw [List.foldl_cons, notify]
      rcases ih _ (if Function.update inDegree d.skillId (inDegree d.skillId - 1) d.skillId = 0
          then queue ++ [d.skillId] else queue) hle' with ⟨added, hadded, hnodup, hmem⟩
      rw [hadded, hself]
      by_cases hzero : inDegree d.skillId - 1 = 0
      · -- The count of this skill falls to zero, so no edge of it is left.
        rw [if_pos hzero, List.append_assoc]
        have hnone : edgesOfSkill deps d.skillId = 0 := by omega
        have hnot : d.skillId ∉ added := fun h => absurd ((hmem _).mp h).1 (by omega)
        refine ⟨d.skillId :: added, rfl, List.nodup_cons.mpr ⟨hnot, hnodup⟩, fun n => ?_⟩
        rw [List.mem_cons, hmem, update_inDegree, edgesOfSkill_cons]
        by_cases hid : d.skillId = n
        · subst hid
          simp only [if_true, true_or, true_iff]
          omega
        · have hne : n ≠ d.skillId := Ne.symm hid
          simp only [if_neg hid, hne, false_or]
          omega
      · rw [if_neg hzero]
        refine ⟨added, rfl, hnodup, fun n => ?_⟩
        rw [hmem, update_inDegree, edgesOfSkill_cons]
        by_cases hid : d.skillId = n
        · -- A count that is left at this edge still has edges behind it.
          subst hid
          simp only [if_true]
          omega
        · simp only [if_neg hid]
          omega

end Counts

section Rounds

variable {g : SkillDependencyGraph} {ops : List GraphOp}

/-- What every round keeps: the counts are of the edges that are pending, the
    nodes that wait for nothing were taken or are queued, once, and each node
    was taken after what it depends on. -/
structure Ordering (g : SkillDependencyGraph) (ops : List GraphOp) (s : OrderState) : Prop where
  counts : ∀ n, s.inDegree n = pending (edgesOf ops) s.order n
  free : ∀ n, n ∈ s.order ++ s.queue ↔ n ∈ g.nodes ∧ pending (edgesOf ops) s.order n = 0
  nodup : (s.order ++ s.queue).Nodup
  after : ∀ before n later, s.order = before ++ n :: later →
    ∀ dep, Edge (edgesOf ops) n dep → dep ∈ before

theorem ordering_startOrder (h : Represents g ops) : Ordering g ops (startOrder g) := by
  have hcounts : ∀ n, ((edgesAt g.adj n).length : Int) = pending (edgesOf ops) [] n := by
    intro n
    rw [h.adj, pending, List.countP_eq_length_filter]
    simp
  refine ⟨hcounts, fun n => ?_, ?_, ?_⟩
  · simp only [startOrder, List.nil_append, mem_sorted, List.mem_filter, decide_eq_true_eq,
      hcounts, Int.natCast_eq_zero]
  · exact (List.perm_insertionSort _ _).nodup_iff.mpr (h.nodup.filter _)
  · intro before n later heq
    exact absurd heq.symm (by simp [startOrder])

/-- Where everything taken so far comes after what it depends on, so does a node
    with nothing pending. -/
theorem after_concat {edges : List SkillDependency} {order : List String} {node : String}
    (h : ∀ before n later, order = before ++ n :: later → ∀ dep, Edge edges n dep → dep ∈ before)
    (hnode : ∀ dep, Edge edges node dep → dep ∈ order) :
    ∀ before n later, order ++ [node] = before ++ n :: later →
      ∀ dep, Edge edges n dep → dep ∈ before := by
  intro before n later heq
  rcases List.eq_nil_or_concat later with rfl | ⟨later', last, rfl⟩
  · rcases List.append_inj' heq rfl with ⟨rfl, hlast⟩
    rw [List.cons.inj hlast |>.1] at hnode
    exact hnode
  · refine h before n later' ?_
    rw [List.concat_eq_append, ← List.cons_append, ← List.append_assoc] at heq
    exact (List.append_inj' heq rfl).1

/-- One round keeps the invariant. -/
theorem ordering_round (h : Represents g ops) {s : OrderState} (hs : Ordering g ops s)
    {node : String} {queue : List String} (hqueue : s.queue = node :: queue) :
    Ordering g ops
      { inDegree := ((edgesAt g.radj node).foldl notify (s.inDegree, queue)).1
        queue := ((edgesAt g.radj node).foldl notify (s.inDegree, queue)).2
        order := s.order ++ [node] } := by
  have hnodup := hs.nodup
  have hfree := hs.free
  rw [hqueue] at hnodup hfree
  have hnode : node ∉ s.order :=
    fun hmem => (List.nodup_append.mp hnodup).2.2 node hmem node List.mem_cons_self rfl
  have hsplit := pending_concat (edgesOf ops) hnode
  have hradj := h.radj node
  rw [← hradj] at hsplit
  have hle : ∀ n, (edgesOfSkill (edgesAt g.radj node) n : Int) ≤ s.inDegree n := by
    intro n
    rw [hs.counts, hsplit]
    omega
  rcases notify_queue (edgesAt g.radj node) s.inDegree queue hle with
    ⟨added, hadded, haddednodup, hmem⟩
  have hzero : pending (edgesOf ops) s.order node = 0 :=
    ((hfree node).mp (List.mem_append_right _ List.mem_cons_self)).2
  -- The nodes added had something pending before and have nothing pending now.
  have hadd : ∀ n, n ∈ added ↔ 0 < pending (edgesOf ops) s.order n ∧
      pending (edgesOf ops) (s.order ++ [node]) n = 0 := by
    intro n
    rw [hmem, hs.counts, hsplit]
    omega
  have hdependent : ∀ n, 0 < edgesOfSkill (edgesAt g.radj node) n → n ∈ g.nodes := by
    intro n hn
    rcases List.countP_pos_iff.mp hn with ⟨d, hd, hid⟩
    rw [hradj, List.mem_filter] at hd
    exact (ends_mem_nodes h ⟨d, hd.1, of_decide_eq_true hid, rfl⟩).1
  have hlist : s.order ++ [node] ++ (queue ++ added) = s.order ++ node :: queue ++ added := by
    simp only [List.append_assoc, List.cons_append, List.nil_append]
  refine ⟨fun n => ?_, fun n => ?_, ?_, ?_⟩
  · dsimp only
    rw [notify_counts, hs.counts, hsplit n]
    omega
  · dsimp only
    rw [hadded, hlist, List.mem_append, hfree, hadd]
    constructor
    · rintro (⟨hn, hpending⟩ | ⟨hpos, hnow⟩)
      · exact ⟨hn, by have := hsplit n; omega⟩
      · exact ⟨hdependent n (by have := hsplit n; omega), hnow⟩
    · rintro ⟨hn, hnow⟩
      rcases Nat.eq_zero_or_pos (pending (edgesOf ops) s.order n) with hold | hpos
      · exact .inl ⟨hn, hold⟩
      · exact .inr ⟨hpos, hnow⟩
  · dsimp only
    rw [hadded, hlist]
    refine List.nodup_append.mpr ⟨hnodup, haddednodup, ?_⟩
    rintro n hn _ hnew rfl
    have hold := ((hfree n).mp hn).2
    have hpos := ((hadd n).mp hnew).1
    omega
  · exact after_concat hs.after (pending_eq_zero.mp hzero)

/-- No more nodes are taken than there are. -/
theorem length_order_le {s : OrderState} (hs : Ordering g ops s) :
    (s.order ++ s.queue).length ≤ g.nodes.length :=
  (hs.nodup.subperm (fun n hn => ((hs.free n).mp hn).1)).length_le

/-- The rounds end with an empty queue. -/
theorem exists_orderLoop (h : Represents g ops) {fuel : Nat} {s : OrderState}
    (hs : Ordering g ops s) (hfuel : g.nodes.length < fuel + s.order.length) :
    ∃ t, orderLoop g fuel s = some t.order ∧ t.queue = [] ∧ Ordering g ops t := by
  induction fuel generalizing s with
  | zero =>
      have hle := length_order_le hs
      rw [List.length_append] at hle
      omega
  | succ fuel ih =>
      rw [orderLoop]
      cases hqueue : s.queue with
      | nil => exact ⟨s, rfl, hqueue, hs⟩
      | cons node queue =>
          refine ih (ordering_round h hs hqueue) ?_
          rw [List.length_append, List.length_singleton]
          omega

theorem exists_topologicalSort (h : Represents g ops) :
    ∃ t, topologicalSort g = some t.order ∧ t.queue = [] ∧ Ordering g ops t :=
  exists_orderLoop h (ordering_startOrder h) (by rw [startOrder, List.length_nil]; omega)

/-- The nodes taken are those that cannot reach a cycle. -/
theorem mem_order_iff (h : Represents g ops) {t : OrderState} (ht : Ordering g ops t)
    (hqueue : t.queue = []) (n : String) :
    n ∈ t.order ↔ n ∈ g.nodes ∧ ¬ ReachesCycle (Edge (edgesOf ops)) n := by
  have hfree := ht.free
  rw [hqueue] at hfree
  simp only [List.append_nil, pending_eq_zero] at hfree
  constructor
  · intro hn
    exact ⟨((hfree n).mp hn).1, not_cycle_of_founded (founded_of_after ht.after n hn)⟩
  · rintro ⟨hn, hfounded⟩
    by_contra hnot
    -- A node that is left depends on another one that is left.
    refine hfounded (exists_cycle (S := g.nodes.filter (fun n => n ∉ t.order)) ?_
      (List.mem_filter.mpr ⟨hn, decide_eq_true hnot⟩))
    intro a ha
    rw [List.mem_filter, decide_eq_true_eq] at ha
    have hsome : ∃ dep, Edge (edgesOf ops) a dep ∧ dep ∉ t.order := by
      by_contra hall
      push Not at hall
      exact ha.2 ((hfree a).mpr ⟨ha.1, hall⟩)
    rcases hsome with ⟨dep, hedge, hleft⟩
    refine ⟨dep, List.mem_filter.mpr ⟨(ends_mem_nodes h hedge).2, decide_eq_true hleft⟩, hedge⟩

end Rounds

end SkillGraph

end AgenticRag
