import Mathlib.Data.String.Basic
import Mathlib.Logic.Function.Basic
import AgenticRag.Lib.Ordered

/-!
# The Graph of Skill Dependencies

Which skills a skill depends on. The graph keeps its edges twice, under the
skill that depends and under the skill it depends on, and its nodes as a set.
It is built by adding nodes and edges, in any order. An edge may be added more
than once, and a skill may depend on itself.

A skill comes after all it depends on. The order counts for every node the
edges it still waits for, and takes the nodes that wait for none. A search looks
for a cycle: a node is gray while it is on the path that is explored, and black
when all below it has been. Meeting a gray node closes a cycle.

Both loops run on a count of rounds. The order takes a round for each node, and
the search goes one node deeper at a time, so the number of nodes is enough for
either (`none` would say that it was not). The limit of the interpreter on the
depth of a recursion is left out.

## Main definitions

* `SkillDependency`, `SkillDependencyGraph`: Edges and graphs.
* `detectCycle`: A cycle, if there is one.
-/

namespace AgenticRag

namespace SkillGraph

open Ordered

section Graph

/-- What a linked skill is for. -/
inductive DependencyRole where
  | dataSource
  | evidenceProvider
  | reportParent
  | companion
  deriving DecidableEq, Repr

/-- How firmly a skill is linked. -/
inductive SelectionMode where
  | required
  | preferred
  | fallback
  deriving DecidableEq, Repr

/-- An edge of the graph. -/
structure SkillDependency where
  skillId : String
  linkedSkillId : String
  versionConstraint : String := "*"
  required : Bool := true
  role : DependencyRole := .dataSource
  selectionMode : SelectionMode := .required
  deriving DecidableEq, Repr

/-- The edges out of and into each skill. -/
structure SkillDependencyGraph where
  adj : List (String × List SkillDependency) := []
  radj : List (String × List SkillDependency) := []
  nodes : List String := []

/-- `d.get(key, [])`. -/
def edgesAt (d : List (String × List SkillDependency)) (key : String) : List SkillDependency :=
  (d.lookup key).getD []

/-- `d.setdefault(key, [])`. -/
def setDefault (key : String) (d : List (String × List SkillDependency)) :
    List (String × List SkillDependency) :=
  if key ∈ d.map Prod.fst then d else d ++ [(key, [])]

/-- Adds a skill. -/
def addNode (skillId : String) (g : SkillDependencyGraph) : SkillDependencyGraph :=
  { nodes := g.nodes.insert skillId
    adj := setDefault skillId g.adj
    radj := setDefault skillId g.radj }

/-- Adds an edge and its two skills. -/
def addEdge (dependency : SkillDependency) (g : SkillDependencyGraph) : SkillDependencyGraph :=
  let g := addNode dependency.linkedSkillId (addNode dependency.skillId g)
  { g with
    adj := push dependency.skillId dependency g.adj
    radj := push dependency.linkedSkillId dependency g.radj }

/-- A call that changes a graph. -/
inductive GraphOp where
  | addNode (skillId : String)
  | addEdge (dependency : SkillDependency)
  deriving DecidableEq, Repr

/-- A call, carried out. -/
def GraphOp.apply (g : SkillDependencyGraph) : GraphOp → SkillDependencyGraph
  | .addNode skillId => SkillGraph.addNode skillId g
  | .addEdge dependency => SkillGraph.addEdge dependency g

/-- The graph after a sequence of calls. -/
def build (ops : List GraphOp) : SkillDependencyGraph := ops.foldl GraphOp.apply {}

/-- `sorted(ids)`. -/
def sorted (ids : List String) : List String := ids.insertionSort (fun a b => a ≤ b)

end Graph

section Order

/-- What the order has come to: how many edges a node waits for, the nodes that
    wait for none, and those that were taken. -/
structure OrderState where
  inDegree : String → Int
  queue : List String
  order : List String

/-- One edge less to wait for. The skill that depends is a node, so that it is
    counted. -/
def notify (s : (String → Int) × List String) (dep : SkillDependency) :
    (String → Int) × List String :=
  let inDegree := Function.update s.1 dep.skillId (s.1 dep.skillId - 1)
  (inDegree, if inDegree dep.skillId = 0 then s.2 ++ [dep.skillId] else s.2)

/-- Takes skills off the queue until it is empty. -/
def orderLoop (g : SkillDependencyGraph) : Nat → OrderState → Option (List String)
  | 0, _ => none
  | fuel + 1, s =>
    match s.queue with
    | [] => some s.order
    | node :: queue =>
      let notified := (edgesAt g.radj node).foldl notify (s.inDegree, queue)
      orderLoop g fuel
        { inDegree := notified.1, queue := notified.2, order := s.order ++ [node] }

/-- The skills that wait for nothing are queued. -/
def startOrder (g : SkillDependencyGraph) : OrderState :=
  let inDegree := fun n => ((edgesAt g.adj n).length : Int)
  { inDegree := inDegree
    queue := sorted (g.nodes.filter (fun n => inDegree n = 0))
    order := [] }

/-- An order of the skills, if there is one. -/
def topologicalSort (g : SkillDependencyGraph) : Option (List String) :=
  orderLoop g (g.nodes.length + 1) (startOrder g)

end Order

section Search

/-- How far the search has come with a skill. -/
inductive Color where
  | white
  | gray
  | black
  deriving DecidableEq, Repr

/-- The colours of all skills. -/
abbrev Colors := String → Color

/-- What exploring a node gives: a cycle, or the colors afterwards. -/
inductive Walk where
  | found (cycle : List String)
  | finished (color : Colors)

/-- The edges of a node, one after the other. -/
def visitEach (dfs : String → Colors → Option Walk) (path : List String) :
    List SkillDependency → Colors → Option Walk
  | [], color => some (.finished color)
  | dep :: rest, color =>
    let target := dep.linkedSkillId
    match color target with
    -- An edge back to the path: what lies between is a cycle.
    | .gray => some (.found (path.drop (path.idxOf target) ++ [target]))
    | .white =>
      match dfs target color with
      | some (.finished color') => visitEach dfs path rest color'
      | result => result
    | .black => visitEach dfs path rest color

/-- The search below a skill. -/
def dfs (g : SkillDependencyGraph) : Nat → List String → String → Colors → Option Walk
  | 0, _, _, _ => none
  | fuel + 1, path, node, color =>
    match visitEach (dfs g fuel (path ++ [node])) (path ++ [node]) (edgesAt g.adj node)
        (Function.update color node .gray) with
    | some (.finished color') => some (.finished (Function.update color' node .black))
    | result => result

/-- The search from each skill not yet seen. -/
def searchFrom (g : SkillDependencyGraph) : List String → Colors → Option (Option (List String))
  | [], _ => some none
  | n :: rest, color =>
    if color n = .white then
      match dfs g (g.nodes.length + 1) [] n color with
      | some (.finished color') => searchFrom g rest color'
      | some (.found cycle) => some (some cycle)
      | none => none
    else searchFrom g rest color

/-- The first cycle found, if any. -/
def detectCycle (g : SkillDependencyGraph) : Option (Option (List String)) :=
  searchFrom g (sorted g.nodes) (fun _ => .white)

end Search

end SkillGraph

end AgenticRag
