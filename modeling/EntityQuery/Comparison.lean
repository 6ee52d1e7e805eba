/-!
The comparisons a condition can make, with the tokens that stand for them in SQL text.
Null checks bind no value, membership tests bind one value per element, all others bind one.
-/

namespace EntityQuery

inductive Comparison
  | eq | ne | like | ilike | isIn | notIn | isNull | isNotNull | gt | ge | lt | le
deriving DecidableEq, Repr

namespace Comparison

def all : List Comparison :=
  [eq, ne, like, ilike, isIn, notIn, isNull, isNotNull, gt, ge, lt, le]

def token : Comparison → String
  | eq => "="
  | ne => "!="
  | like => "like"
  | ilike => "ilike"
  | isIn => "in"
  | notIn => "not in"
  | isNull => "is null"
  | isNotNull => "is not null"
  | gt => ">"
  | ge => ">="
  | lt => "<"
  | le => "<="

def ofToken? (s : String) : Option Comparison :=
  all.find? (·.token == s)

def isNullCheck : Comparison → Bool
  | isNull | isNotNull => true
  | _ => false

def takesList : Comparison → Bool
  | isIn | notIn => true
  | _ => false

theorem mem_all (c : Comparison) : c ∈ all := by
  cases c <;> decide

theorem ofToken?_token (c : Comparison) : ofToken? c.token = some c := by
  cases c <;> decide

end Comparison

end EntityQuery
