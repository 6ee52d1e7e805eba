import EntityQuery.Condition.Clause

/-!
The parts of a statement other than its conditions. A part with nothing to say is empty.
-/

namespace EntityQuery

inductive JoinKind
  | inner | left | right
deriving DecidableEq, Repr

def JoinKind.keyword : JoinKind → String
  | inner => "join"
  | left => "left join"
  | right => "right join"

structure Join where
  kind : JoinKind := .inner
  source : String
  target : String
  columns : List (String × String) := []
deriving DecidableEq, Repr

namespace Join

def pairText (j : Join) (pair : String × String) : String :=
  j.source ++ "." ++ pair.1 ++ " = " ++ j.target ++ "." ++ pair.2

def text (j : Join) : String :=
  j.kind.keyword ++ " " ++ j.target ++
    if j.columns.isEmpty then "" else " on " ++ " and ".intercalate (j.columns.map j.pairText)

end Join

def joinsText (js : List Join) : String :=
  " ".intercalate (js.map Join.text)

structure Assignment where
  column : String
  value : Scalar
deriving DecidableEq, Repr

def renderAssignments (as : List Assignment) (start : Nat) : Rendered :=
  let start := firstSlot start
  if as.isEmpty then { next := start }
  else
    { text := "set " ++ ", ".intercalate
        ((as.zipIdx start).map fun (a, index) => a.column ++ " = " ++ placeholder index)
      values := as.map Assignment.value
      next := start + as.length }

inductive Direction
  | ascending | descending
deriving DecidableEq, Repr

def Direction.keyword : Direction → String
  | ascending => "asc"
  | descending => "desc"

structure SortKey where
  table : String
  column : String
  direction : Direction := .ascending
deriving DecidableEq, Repr

def SortKey.text (k : SortKey) : String :=
  k.table ++ "." ++ k.column ++ " " ++ k.direction.keyword

structure ColumnRef where
  table : String
  column : String
deriving DecidableEq, Repr

def ColumnRef.text (r : ColumnRef) : String :=
  r.table ++ "." ++ r.column

def keywordList (keyword : String) (items : List String) : String :=
  if items.isEmpty then "" else keyword ++ " " ++ ", ".intercalate items

def orderText (keys : List SortKey) : String :=
  keywordList "order by" (keys.map SortKey.text)

def groupingText (columns : List ColumnRef) : String :=
  keywordList "group by" (columns.map ColumnRef.text)

def keywordNumber (keyword : String) : Option Nat → String
  | none => ""
  | some n => if n = 0 then "" else keyword ++ " " ++ toString n

def limitText (n : Option Nat) : String :=
  keywordNumber "limit" n

def offsetText (n : Option Nat) : String :=
  keywordNumber "offset" n

def joinParts (parts : List String) : String :=
  " ".intercalate (parts.filter fun p => p ≠ "")

structure Query where
  text : String
  values : List Scalar
deriving DecidableEq, Repr

def Query.toJson (q : Query) : Json :=
  .object [("query", .string q.text), ("values", .array (q.values.map Scalar.toJson))]

def renderFilter (filter : Option WhereClause) (start : Nat) : Except FilterError Rendered :=
  match filter with
  | none => .ok { next := start }
  | some clause => clause.render start

end EntityQuery
