/-!
Finite directed graphs and the walk that lists their maximal simple paths: depth first, neighbours in
order, never back to a node of the path. A path ends where no neighbour is left to go to.
-/

namespace EntityQuery

structure Digraph (α : Type) where
  nodes : List α
  next : α → List α

structure Walk (α : Type) where
  path : List α := []
  onPath : List α := []
  found : List (List α) := []

namespace Walk

variable {α : Type} [DecidableEq α]

def enter (w : Walk α) (node : α) : Walk α :=
  { w with path := w.path ++ [node], onPath := node :: w.onPath }

def leave (w : Walk α) (node : α) : Walk α :=
  { w with path := w.path.dropLast, onPath := w.onPath.erase node }

def record (w : Walk α) : Walk α :=
  { w with found := w.found ++ [w.path] }

end Walk

namespace Digraph

variable {α : Type} [DecidableEq α]

/-- Walks on from a node. The path grows with every step and never repeats a node, so fuel of as many
steps as there are nodes is enough. -/
def walk (g : Digraph α) : Nat → α → Walk α → Walk α
  | 0, _, w => w
  | fuel + 1, node, w =>
      let entered := w.enter node
      let onward := (g.next node).filter fun n => n ∉ entered.onPath
      let walked :=
        if onward.isEmpty then entered.record
        else onward.foldl (fun w n => g.walk fuel n w) entered
      walked.leave node

def chains (g : Digraph α) (root : α) : List (List α) :=
  if (g.next root).isEmpty then [] else (g.walk g.nodes.length root {}).found

example : (Digraph.mk [1, 2, 3] fun | 1 => [3, 2] | 3 => [2, 1] | _ => []).chains 1 =
    [[1, 3, 2], [1, 2]] := by decide

end Digraph

end EntityQuery
