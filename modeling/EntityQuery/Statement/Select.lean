import EntityQuery.Statement.Parts

/-!
SELECT statements, built up one step at a time. Columns, joins, groupings and orderings add up;
a filter, a limit or an offset replaces the one before.
-/

namespace EntityQuery

structure Select where
  table : String
  columns : List String := []
  joins : List Join := []
  filter : Option WhereClause := none
  grouping : List ColumnRef := []
  ordering : List SortKey := []
  limit : Option Nat := none
  offset : Option Nat := none
deriving DecidableEq, Repr

namespace Select

inductive Step
  | columns (names : List String)
  | join (j : Join)
  | filter (clause : WhereClause)
  | groupBy (column : ColumnRef)
  | orderBy (key : SortKey)
  | limit (n : Nat)
  | offset (n : Nat)
deriving DecidableEq, Repr

def step (s : Select) : Step → Select
  | .columns names => { s with columns := s.columns ++ names }
  | .join j => { s with joins := s.joins ++ [j] }
  | .filter clause => { s with filter := some clause }
  | .groupBy column => { s with grouping := s.grouping ++ [column] }
  | .orderBy key => { s with ordering := s.ordering ++ [key] }
  | .limit n => { s with limit := some n }
  | .offset n => { s with offset := some n }

def columnsText (s : Select) : String :=
  if s.columns.isEmpty then "*" else ", ".intercalate s.columns

def build (s : Select) : Except FilterError Query := do
  let condition ← renderFilter s.filter 1
  .ok { text := joinParts ["select " ++ s.columnsText, "from " ++ s.table, joinsText s.joins,
          condition.text, groupingText s.grouping, orderText s.ordering, limitText s.limit,
          offsetText s.offset]
        values := condition.values }

end Select

end EntityQuery
