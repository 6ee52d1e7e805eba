import EntityQuery.Filter.Operator

/-!
The kinds of values a field can hold, and the operators each kind may be filtered with.
-/

namespace EntityQuery

inductive FieldKind
  | string | number | boolean | date
deriving DecidableEq, Repr

namespace FieldKind

def all : List FieldKind := [string, number, boolean, date]

def name : FieldKind → String
  | string => "string"
  | number => "number"
  | boolean => "boolean"
  | date => "date"

def ofName? (s : String) : Option FieldKind :=
  all.find? (·.name == s)

def allows : FieldKind → FilterOperator → Bool
  | string, op => op ∈ [.equals, .notEquals, .like, .iLike, .isIn, .notIn, .isNull, .isNotNull]
  | number, op => op ∈ [.equals, .notEquals, .greaterThan, .greaterThanEqualTo, .lessThan,
      .lessThanEqualTo, .isIn, .notIn]
  | boolean, op => op ∈ [.equals, .notEquals, .isNull, .isNotNull]
  | date, op => op ∈ [.equals, .notEquals, .greaterThan, .greaterThanEqualTo, .lessThan,
      .lessThanEqualTo, .isIn, .notIn, .isNull, .isNotNull]

theorem ofName?_name (k : FieldKind) : ofName? k.name = some k := by
  cases k <;> decide

end FieldKind

end EntityQuery
