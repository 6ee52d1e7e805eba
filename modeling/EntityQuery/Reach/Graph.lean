import EntityQuery.Filter.Tree
import EntityQuery.Reach.Digraph

/-!
The graph of the entities that a filter reaches through its references. The trees of a filter are
taken breadth first; only the first tree of an entity is looked into, and a reference to an
entity already looked into leaves no edge.
-/

namespace EntityQuery

structure ReferenceGraph where
  root : String
  nodes : List String
  edges : List (String × String)
deriving DecidableEq, Repr

namespace ReferenceGraph

def start (root : String) : ReferenceGraph :=
  ⟨root, [root], []⟩

def addEdge (g : ReferenceGraph) (source target : String) : ReferenceGraph :=
  { g with
    nodes := if target ∈ g.nodes then g.nodes else g.nodes ++ [target]
    edges := if (source, target) ∈ g.edges then g.edges else g.edges ++ [(source, target)] }

def fresh (visited : List String) (t : FilterTree) : List FilterTree :=
  t.references.filter fun r => r.entity ∉ t.entity :: visited

theorem totalSize_fresh_lt (visited : List String) (t : FilterTree) :
    FilterTree.totalSize (fresh visited t) < t.size := by
  have h := t.totalSize_references
  have hf := FilterTree.totalSize_filter_le (fun r => r.entity ∉ t.entity :: visited) t.references
  simp only [fresh]
  omega

def expand (g : ReferenceGraph) (visited : List String) : List FilterTree → ReferenceGraph
  | [] => g
  | t :: queue =>
      if t.entity ∈ visited then g.expand visited queue
      else
        ((fresh visited t).foldl (fun g r => g.addEdge t.entity r.entity) g).expand
          (t.entity :: visited) (queue ++ fresh visited t)
termination_by queue => FilterTree.totalSize queue
decreasing_by
  · have := t.totalSize_references
    simp only [FilterTree.totalSize_cons]
    omega
  · have := totalSize_fresh_lt visited t
    simp only [FilterTree.totalSize_cons, FilterTree.totalSize_append]
    omega

def ofTree (t : FilterTree) : ReferenceGraph :=
  (start t.entity).expand [] [t]

def neighbors (g : ReferenceGraph) (entity : String) : List String :=
  g.edges.filterMap fun (source, target) => if source = entity then some target else none

def toDigraph (g : ReferenceGraph) : Digraph String :=
  ⟨g.nodes, g.neighbors⟩

def chains (g : ReferenceGraph) : List (List String) :=
  g.toDigraph.chains g.root

def adjacency (g : ReferenceGraph) : List (String × List String) :=
  (g.nodes.mergeSort fun a b => a ≤ b).map fun n => (n, g.neighbors n)

def chainText (chain : List String) : String :=
  " -> ".intercalate chain

end ReferenceGraph

end EntityQuery
