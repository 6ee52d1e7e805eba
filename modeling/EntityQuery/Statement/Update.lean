import EntityQuery.Statement.Parts

/-!
UPDATE statements. The assignments take the first slots and the filter goes on after them.
-/

namespace EntityQuery

structure Update where
  table : String
  assignments : List Assignment := []
  joins : List Join := []
  filter : Option WhereClause := none
deriving DecidableEq, Repr

namespace Update

inductive Step
  | set (a : Assignment)
  | join (j : Join)
  | filter (clause : WhereClause)
deriving DecidableEq, Repr

def step (u : Update) : Step → Update
  | .set a => { u with assignments := u.assignments ++ [a] }
  | .join j => { u with joins := u.joins ++ [j] }
  | .filter clause => { u with filter := some clause }

def build (u : Update) : Except FilterError Query :=
  if u.assignments.isEmpty then .error (.noAssignments u.table)
  else do
    let set := renderAssignments u.assignments 1
    let condition ← renderFilter u.filter set.next
    .ok { text := joinParts ["update " ++ u.table, set.text, joinsText u.joins, condition.text,
            "returning *"]
          values := set.values ++ condition.values }

end Update

end EntityQuery
