import EntityQuery.Filter.Reading
import EntityQuery.Reach.Graph
import EntityQuery.Statement.Select

/-!
From filters to conditions. A tree gives the conditions of its own fields first. Those of the nested
trees follow in one of two ways: along the chains of the reference graph, each chain on its own,
so that a tree on several chains gives its conditions on each; or off a stack, every tree once,
the last reference first.
-/

namespace EntityQuery

inductive Strategy
  | graph | stack
deriving DecidableEq, Repr

namespace Strategy

def all : List Strategy := [graph, stack]

def name : Strategy → String
  | graph => "graph"
  | stack => "stack"

def ofName? (s : String) : Option Strategy :=
  all.find? (·.name == s)

def unknownMessage (name : String) : String :=
  "unknown algorithm: " ++ name

theorem ofName?_name (a : Strategy) : ofName? a.name = some a := by
  cases a <;> decide

end Strategy

def FieldTests.conditions (table : String) (f : FieldTests) : List Condition :=
  f.tests.map fun t =>
    { table, column := f.column, comparison := t.operator.comparison, operand := t.operand.operand? }

namespace Schema

def fieldConditions (s : Schema) (t : FilterTree) : Except FilterError (List Condition) := do
  let e ← s.entity t.entity
  let conditions := t.fields.flatMap (FieldTests.conditions e.table)
  conditions.forM Condition.validate
  .ok conditions

def chainConditions (s : Schema) (t : FilterTree) :
    List String → Except FilterError (List Condition)
  | [] => .ok []
  | entity :: rest =>
      match t.reference? entity with
      | none => .ok []
      | some nested => do
          let here ← s.fieldConditions nested
          let onward ← s.chainConditions nested rest
          .ok (here ++ onward)

def chainsConditions (s : Schema) (t : FilterTree) :
    List (List String) → Except FilterError (List Condition)
  | [] => .ok []
  | chain :: rest => do
      let first ← s.chainConditions t (chain.drop 1)
      let others ← s.chainsConditions t rest
      .ok (first ++ others)

def lowerByChains (s : Schema) (t : FilterTree) : Except FilterError (List Condition) := do
  let own ← s.fieldConditions t
  let nested ← s.chainsConditions t (ReferenceGraph.ofTree t).chains
  .ok (own ++ nested)

def stackConditions (s : Schema) : List FilterTree → Except FilterError (List Condition)
  | [] => .ok []
  | t :: stack => do
      let here ← s.fieldConditions t
      let onward ← s.stackConditions (t.references.reverse ++ stack)
      .ok (here ++ onward)
termination_by stack => FilterTree.totalSize stack
decreasing_by
  have := t.totalSize_references
  simp only [FilterTree.totalSize_cons, FilterTree.totalSize_append, FilterTree.totalSize_reverse]
  omega

def lowerByStack (s : Schema) (t : FilterTree) : Except FilterError (List Condition) := do
  let own ← s.fieldConditions t
  let nested ← s.stackConditions t.references.reverse
  .ok (own ++ nested)

def lower (s : Schema) (strategy : Strategy) (t : FilterTree) : Except FilterError (List Condition) :=
  match strategy with
  | .graph => s.lowerByChains t
  | .stack => s.lowerByStack t

def compile (s : Schema) (strategy : Strategy) (entity : String) (raw : Json) :
    Except FilterError (List Condition) := do
  let t ← s.readFilter entity raw
  s.lower strategy t

def referenceChains (s : Schema) (entity : String) (raw : Json) :
    Except FilterError (List (List String)) := do
  let t ← s.readFilter entity raw
  .ok (ReferenceGraph.ofTree t).chains

/-- A SELECT on the table of the entity under the conditions of a raw filter. The conditions on
referenced entities name their own tables; joining these is left to the caller. -/
def selectFor (s : Schema) (strategy : Strategy) (entity : String) (raw : Json)
    (columns : List String) : Except FilterError Select := do
  let e ← s.entity entity
  let conditions ← s.compile strategy entity raw
  .ok { table := e.table, columns, filter := some (.ofConditions conditions) }

end Schema

end EntityQuery
