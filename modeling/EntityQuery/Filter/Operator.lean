import EntityQuery.Comparison

/-!
The operators of a filter, named in business vocabulary. Each stands for one comparison,
and no two for the same.
-/

namespace EntityQuery

inductive FilterOperator
  | equals | notEquals | like | iLike | isIn | notIn | isNull | isNotNull
  | greaterThan | greaterThanEqualTo | lessThan | lessThanEqualTo
deriving DecidableEq, Repr

namespace FilterOperator

def all : List FilterOperator :=
  [equals, notEquals, like, iLike, isIn, notIn, isNull, isNotNull,
    greaterThan, greaterThanEqualTo, lessThan, lessThanEqualTo]

def name : FilterOperator → String
  | equals => "equals"
  | notEquals => "notEquals"
  | like => "like"
  | iLike => "iLike"
  | isIn => "in"
  | notIn => "notIn"
  | isNull => "isNull"
  | isNotNull => "isNotNull"
  | greaterThan => "greaterThan"
  | greaterThanEqualTo => "greaterThanEqualTo"
  | lessThan => "lessThan"
  | lessThanEqualTo => "lessThanEqualTo"

def ofName? (s : String) : Option FilterOperator :=
  all.find? (·.name == s)

def comparison : FilterOperator → Comparison
  | equals => .eq
  | notEquals => .ne
  | like => .like
  | iLike => .ilike
  | isIn => .isIn
  | notIn => .notIn
  | isNull => .isNull
  | isNotNull => .isNotNull
  | greaterThan => .gt
  | greaterThanEqualTo => .ge
  | lessThan => .lt
  | lessThanEqualTo => .le

theorem mem_all (op : FilterOperator) : op ∈ all := by
  cases op <;> decide

theorem ofName?_name (op : FilterOperator) : ofName? op.name = some op := by
  cases op <;> decide

theorem comparison_injective {a b : FilterOperator} (h : a.comparison = b.comparison) : a = b := by
  cases a <;> cases b <;> first | rfl | cases h

end FilterOperator

end EntityQuery
