import AgenticRag.Theory.DependencyOrder

/-!
# The Search for a Cycle

That the search finds a cycle if there is one, that what it finds is one, and
that it agrees with the order.

While the search runs, the gray nodes are those on the path, each of which
depends on the next. So an edge to a gray node closes a cycle. A node turns
black when all it depends on is black. So a black node is founded, and reaches
no cycle (`OnPath`). A call leaves the path as it was and its node black, or
comes back with a cycle (`Explored`).

The path has no node twice, so it is never longer than there are nodes. The
count of a call is what is left of them.

## Main definitions

* `OnPath`: What the colors say.
* `SkillGraphExact`: What should hold of the two algorithms.

## Theorems

* `explored_dfs`: One call.
* `searched_searchFrom`: The whole search.
* `skillGraph_exact`: Order and search are right, and agree.
-/

namespace AgenticRag

namespace SkillGraph

open Ordered Precedence

variable {g : SkillDependencyGraph} {ops : List GraphOp}

section Exploring

/-- The gray nodes are those of the path, along which each depends on the next,
    and the black ones are founded. -/
structure OnPath (g : SkillDependencyGraph) (ops : List GraphOp) (path : List String)
    (color : Colors) : Prop where
  gray : ∀ n, color n = .gray ↔ n ∈ path
  black : ∀ n, color n = .black → Founded (Edge (edgesOf ops)) n
  chain : List.IsChain (Edge (edgesOf ops)) path
  nodup : path.Nodup
  nodes : path ⊆ g.nodes

/-- What exploring comes back with: a cycle, or the colors as they should be
    with these nodes black. -/
def Explored (g : SkillDependencyGraph) (ops : List GraphOp) (path : List String)
    (color : Colors) (targets : List String) : Walk → Prop
  | .found cycle => IsCycle (Edge (edgesOf ops)) cycle
  | .finished color' => OnPath g ops path color' ∧
      (∀ n, color n = .black → color' n = .black) ∧ ∀ n ∈ targets, color' n = .black

/-- An edge from the end of the path to a gray node closes a cycle. -/
theorem isCycle_of_gray {path : List String} {node target : String} {color : Colors}
    (h : OnPath g ops (path ++ [node]) color) (hedge : Edge (edgesOf ops) node target)
    (hgray : color target = .gray) :
    IsCycle (Edge (edgesOf ops))
      ((path ++ [node]).drop ((path ++ [node]).idxOf target) ++ [target]) := by
  have hmem : target ∈ path ++ [node] := (h.gray target).mp hgray
  have hidx : (path ++ [node]).idxOf target < (path ++ [node]).length :=
    List.idxOf_lt_length_iff.mpr hmem
  have hdrop : (path ++ [node]).drop ((path ++ [node]).idxOf target) =
      target :: (path ++ [node]).drop ((path ++ [node]).idxOf target + 1) := by
    rw [List.drop_eq_getElem_cons hidx, List.getElem_idxOf]
  have hlast : ((path ++ [node]).drop ((path ++ [node]).idxOf target)).getLast? = some node := by
    rw [List.getLast?_drop, if_neg (Nat.not_le.mpr hidx), List.getLast?_concat]
  refine ⟨?_, ?_, ?_⟩
  · rw [hdrop]
    simp
  · refine (h.chain.drop _).append (.singleton target) ?_
    intro last hmemlast first hfirst
    rw [hlast] at hmemlast
    cases hmemlast
    cases hfirst
    exact hedge
  · rw [List.getLast?_concat, hdrop]
    rfl

theorem explored_visitEach {path : List String} {node : String}
    {search : String → Colors → Option Walk} {deps : List SkillDependency}
    (hsearch : ∀ d ∈ deps, ∀ color, OnPath g ops (path ++ [node]) color →
      color d.linkedSkillId = .white → ∃ w, search d.linkedSkillId color = some w ∧
        Explored g ops (path ++ [node]) color [d.linkedSkillId] w)
    (hdeps : ∀ d ∈ deps, Edge (edgesOf ops) node d.linkedSkillId) {color : Colors}
    (h : OnPath g ops (path ++ [node]) color) :
    ∃ w, visitEach search (path ++ [node]) deps color = some w ∧
      Explored g ops (path ++ [node]) color (deps.map SkillDependency.linkedSkillId) w := by
  induction deps generalizing color with
  | nil => exact ⟨.finished color, rfl, h, fun _ hn => hn, fun n hn => absurd hn List.not_mem_nil⟩
  | cons d deps ih =>
      have ih' : ∀ {color : Colors}, OnPath g ops (path ++ [node]) color → _ :=
        ih (fun d' hd' => hsearch d' (List.mem_cons_of_mem _ hd'))
          (fun d' hd' => hdeps d' (List.mem_cons_of_mem _ hd'))
      rw [visitEach]
      cases hcolor : color d.linkedSkillId with
      | gray => exact ⟨_, rfl, isCycle_of_gray h (hdeps d List.mem_cons_self) hcolor⟩
      | black =>
          rcases ih' h with ⟨w, hw, hexplored⟩
          refine ⟨w, hw, ?_⟩
          cases w with
          | found cycle => exact hexplored
          | finished color' =>
              refine ⟨hexplored.1, hexplored.2.1, fun n hn => ?_⟩
              rcases List.mem_cons.mp hn with rfl | hlater
              · exact hexplored.2.1 _ hcolor
              · exact hexplored.2.2 n hlater
      | white =>
          rcases hsearch d List.mem_cons_self color h hcolor with ⟨w, hw, hfirst⟩
          cases w with
          | found cycle => exact ⟨.found cycle, by simp only [hw], hfirst⟩
          | finished color' =>
              rcases ih' hfirst.1 with ⟨w', hw', hrest⟩
              refine ⟨w', by simp only [hw]; exact hw', ?_⟩
              cases w' with
              | found cycle => exact hrest
              | finished color'' =>
                  refine ⟨hrest.1, fun n hn => hrest.2.1 n (hfirst.2.1 n hn), fun n hn => ?_⟩
                  rcases List.mem_cons.mp hn with rfl | hlater
                  · exact hrest.2.1 _ (hfirst.2.2 _ List.mem_cons_self)
                  · exact hrest.2.2 n hlater

/-- A node goes on the path. -/
theorem onPath_enter {path : List String} {node : String} {color : Colors}
    (h : OnPath g ops path color) (hwhite : color node = .white) (hnode : node ∈ g.nodes)
    (hlast : ∀ last ∈ path.getLast?, Edge (edgesOf ops) last node) :
    OnPath g ops (path ++ [node]) (Function.update color node .gray) where
  gray := by
    intro n
    rw [List.mem_append, List.mem_singleton, ← h.gray]
    by_cases hn : n = node
    · simp [hn]
    · rw [Function.update_of_ne hn, or_iff_left hn]
  black := by
    intro n hn
    by_cases heq : n = node
    · rw [heq, Function.update_self] at hn
      cases hn
    · rw [Function.update_of_ne heq] at hn
      exact h.black n hn
  chain := by
    refine h.chain.append (.singleton node) ?_
    intro last hmem first hfirst
    cases hfirst
    exact hlast last hmem
  nodup := by
    refine List.nodup_append.mpr ⟨h.nodup, List.nodup_singleton node, ?_⟩
    rintro n hn m hm rfl
    rw [List.mem_singleton] at hm
    have hgray := (h.gray n).mpr hn
    rw [hm, hwhite] at hgray
    cases hgray
  nodes := by
    intro n hn
    rcases List.mem_append.mp hn with hold | hnew
    · exact h.nodes hold
    · exact List.mem_singleton.mp hnew ▸ hnode

/-- A node whose dependencies are all black leaves the path. -/
theorem onPath_leave {path : List String} {node : String} {color : Colors}
    (h : OnPath g ops (path ++ [node]) color)
    (hdeps : ∀ dep, Edge (edgesOf ops) node dep → color dep = .black) :
    OnPath g ops path (Function.update color node .black) where
  gray := by
    intro n
    have hdisjoint := (List.nodup_append.mp h.nodup).2.2
    by_cases hn : n = node
    · rw [hn, Function.update_self]
      refine ⟨fun hgray => (nomatch hgray), fun hmem => ?_⟩
      exact absurd rfl (hdisjoint node hmem node List.mem_cons_self)
    · rw [Function.update_of_ne hn, h.gray, List.mem_append, List.mem_singleton, or_iff_left hn]
  black := by
    intro n hn
    by_cases heq : n = node
    · rw [heq]
      exact founded_of_forall (fun dep hedge => h.black dep (hdeps dep hedge))
    · rw [Function.update_of_ne heq] at hn
      exact h.black n hn
  chain := h.chain.left_of_append
  nodup := (List.nodup_append.mp h.nodup).1
  nodes := fun n hn => h.nodes (List.mem_append_left _ hn)

theorem edge_iff (hg : Represents g ops) {node dep : String} :
    Edge (edgesOf ops) node dep ↔
      dep ∈ (edgesAt g.adj node).map SkillDependency.linkedSkillId := by
  rw [hg.adj, List.mem_map]
  constructor
  · rintro ⟨d, hd, hid, hlinked⟩
    exact ⟨d, List.mem_filter.mpr ⟨hd, decide_eq_true hid⟩, hlinked⟩
  · rintro ⟨d, hd, hlinked⟩
    rw [List.mem_filter, decide_eq_true_eq] at hd
    exact ⟨d, hd.1, hd.2, hlinked⟩

theorem explored_dfs (hg : Represents g ops) {fuel : Nat} {path : List String} {node : String}
    {color : Colors} (h : OnPath g ops path color) (hwhite : color node = .white)
    (hnode : node ∈ g.nodes) (hlast : ∀ last ∈ path.getLast?, Edge (edgesOf ops) last node)
    (hfuel : g.nodes.length < fuel + path.length) :
    ∃ w, dfs g fuel path node color = some w ∧ Explored g ops path color [node] w := by
  induction fuel generalizing path node color with
  | zero =>
      have hle := (h.nodup.subperm h.nodes).length_le
      omega
  | succ fuel ih =>
      have hpath := onPath_enter h hwhite hnode hlast
      have hdeps : ∀ d ∈ edgesAt g.adj node, Edge (edgesOf ops) node d.linkedSkillId :=
        fun d hd => (edge_iff hg).mpr (List.mem_map_of_mem hd)
      have hsearch : ∀ d ∈ edgesAt g.adj node, ∀ color', OnPath g ops (path ++ [node]) color' →
          color' d.linkedSkillId = .white →
            ∃ w, dfs g fuel (path ++ [node]) d.linkedSkillId color' = some w ∧
              Explored g ops (path ++ [node]) color' [d.linkedSkillId] w := by
        intro d hd color' honpath hwhite'
        refine ih honpath hwhite' (ends_mem_nodes hg (hdeps d hd)).2 ?_ ?_
        · rintro last hmem
          rw [List.getLast?_concat] at hmem
          cases hmem
          exact hdeps d hd
        · rw [List.length_append, List.length_singleton]
          omega
      rcases explored_visitEach hsearch hdeps hpath with ⟨w, hw, hexplored⟩
      rw [dfs, hw]
      cases w with
      | found cycle => exact ⟨.found cycle, rfl, hexplored⟩
      | finished color' =>
          refine ⟨_, rfl, onPath_leave hexplored.1 ?_, fun n hn => ?_, fun n hn => ?_⟩
          · exact fun dep hedge => hexplored.2.2 dep ((edge_iff hg).mp hedge)
          · by_cases heq : n = node
            · rw [heq, Function.update_self]
            · rw [Function.update_of_ne heq]
              refine hexplored.2.1 n ?_
              rwa [Function.update_of_ne heq]
          · rw [List.mem_singleton.mp hn, Function.update_self]

end Exploring

section Searching

/-- The search from some of the nodes gives a cycle, or all of them are
    founded. -/
theorem searched_searchFrom (hg : Represents g ops) {roots : List String}
    (hroots : roots ⊆ g.nodes) {color : Colors} (h : OnPath g ops [] color) :
    ∃ result, searchFrom g roots color = some result ∧
      (∀ cycle, result = some cycle → IsCycle (Edge (edgesOf ops)) cycle) ∧
      (result = none → ∀ n ∈ roots, Founded (Edge (edgesOf ops)) n) := by
  induction roots generalizing color with
  | nil =>
      exact ⟨none, rfl, fun _ hnone => (nomatch hnone), fun _ n hn => absurd hn List.not_mem_nil⟩
  | cons n roots ih =>
      have hrest : roots ⊆ g.nodes := fun m hm => hroots (List.mem_cons_of_mem _ hm)
      rw [searchFrom]
      by_cases hwhite : color n = .white
      · rw [if_pos hwhite]
        have hfuel : g.nodes.length < g.nodes.length + 1 + ([] : List String).length :=
          Nat.lt_succ_self _
        rcases explored_dfs hg h hwhite (hroots List.mem_cons_self)
          (fun last hlast => (nomatch hlast)) hfuel with ⟨w, hw, hexplored⟩
        rw [hw]
        cases w with
        | found cycle =>
            refine ⟨some cycle, rfl, fun cycle' heq => ?_, fun hnone => (nomatch hnone)⟩
            cases heq
            exact hexplored
        | finished color' =>
            rcases ih hrest hexplored.1 with ⟨result, hresult, hcycle, hfounded⟩
            refine ⟨result, hresult, hcycle, fun hnone m hm => ?_⟩
            rcases List.mem_cons.mp hm with rfl | hlater
            · exact hexplored.1.black _ (hexplored.2.2 _ List.mem_cons_self)
            · exact hfounded hnone m hlater
      · rw [if_neg hwhite]
        rcases ih hrest h with ⟨result, hresult, hcycle, hfounded⟩
        refine ⟨result, hresult, hcycle, fun hnone m hm => ?_⟩
        rcases List.mem_cons.mp hm with rfl | hlater
        · -- Nothing is on the path, so a node that is not white is black.
          refine h.black m ?_
          cases hcolor : color m with
          | white => exact absurd hcolor hwhite
          | gray => exact absurd ((h.gray m).mp hcolor) List.not_mem_nil
          | black => rfl
        · exact hfounded hnone m hlater

theorem onPath_start : OnPath g ops [] (fun _ => .white) :=
  ⟨fun _ => ⟨fun h => (nomatch h), fun h => (nomatch h)⟩, fun _ h => (nomatch h), .nil,
    List.nodup_nil, List.nil_subset _⟩

/-- No skill depends on itself, over any number of edges. -/
def Acyclic (ops : List GraphOp) : Prop :=
  ∀ n, ¬ Relation.TransGen (Edge (edgesOf ops)) n n

theorem exists_detectCycle (hg : Represents g ops) :
    ∃ result, detectCycle g = some result ∧ (result = none ↔ Acyclic ops) ∧
      ∀ cycle, result = some cycle → IsCycle (Edge (edgesOf ops)) cycle := by
  rcases searched_searchFrom hg (fun n hn => mem_sorted.mp hn) onPath_start with
    ⟨result, hresult, hcycle, hfounded⟩
  refine ⟨result, hresult, ⟨fun hnone n hn => ?_, fun hacyclic => ?_⟩, hcycle⟩
  · -- What is on a cycle depends on something, so it is a node.
    rcases Relation.TransGen.head'_iff.mp hn with ⟨dep, hedge, -⟩
    have hnode := mem_sorted.mpr (ends_mem_nodes hg hedge).1
    exact not_transGen_of_founded (hfounded hnone n hnode) hn
  · cases result with
    | none => rfl
    | some cycle =>
        rcases exists_transGen_of_isCycle (hcycle cycle rfl) with ⟨n, hn⟩
        exact absurd hn (hacyclic n)

end Searching

section Main

/-- What should hold of a graph that was built by these calls. -/
structure SkillGraphExact (ops : List GraphOp) (cycle? : Option (List String))
    (order : List String) : Prop where
  detects : cycle? = none ↔ Acyclic ops
  real : ∀ cycle, cycle? = some cycle → IsCycle (Edge (edgesOf ops)) cycle
  once : order.Nodup
  after : ∀ before n later, order = before ++ n :: later →
    ∀ dep, Edge (edgesOf ops) n dep → dep ∈ before
  lists : ∀ n, n ∈ order ↔
    (∃ op ∈ ops, n ∈ op.ids) ∧ ¬ ReachesCycle (Edge (edgesOf ops)) n
  complete : order.Perm (build ops).nodes ↔ cycle? = none

/-- Whatever calls built the graph, both algorithms end. The search finds a
    cycle exactly if there is one. The order lists the nodes that reach no
    cycle, dependencies first, and so all of them exactly if the search finds
    none. -/
theorem skillGraph_exact (ops : List GraphOp) :
    ∃ cycle? order, detectCycle (build ops) = some cycle? ∧
      topologicalSort (build ops) = some order ∧ SkillGraphExact ops cycle? order := by
  have hg := represents_build ops
  rcases exists_detectCycle hg with ⟨cycle?, hsearch, hdetects, hreal⟩
  rcases exists_topologicalSort hg with ⟨t, hsort, hqueue, ht⟩
  have hmem := mem_order_iff hg ht hqueue
  have hnodup : t.order.Nodup := (List.nodup_append.mp ht.nodup).1
  refine ⟨cycle?, t.order, hsearch, hsort, hdetects, hreal, hnodup, ht.after, fun n => ?_, ?_⟩
  · rw [hmem, hg.nodes]
  · rw [hdetects]
    constructor
    · intro hperm n hn
      rcases Relation.TransGen.head'_iff.mp hn with ⟨dep, hedge, -⟩
      have hlisted := hperm.mem_iff.mpr (ends_mem_nodes hg hedge).1
      exact ((hmem n).mp hlisted).2 ⟨n, .refl, hn⟩
    · intro hacyclic
      refine (List.perm_ext_iff_of_nodup hnodup hg.nodup).mpr (fun n => ?_)
      rw [hmem, and_iff_left]
      rintro ⟨c, -, hc⟩
      exact hacyclic c hc

end Main

end SkillGraph

end AgenticRag
