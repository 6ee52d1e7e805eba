import EntityQuery.Binding.Scalar
import EntityQuery.Filter.Error

/-!
Positional slots. A condition reserves as many consecutive slots as it binds values, and the next
condition goes on where it ended.
-/

namespace EntityQuery

def placeholder (index : Nat) : String :=
  "$" ++ toString index

inductive Slots
  | none
  | one (index : Nat)
  | many (indices : List Nat)
deriving DecidableEq, Repr

namespace Slots

def count : Slots → Nat
  | none => 0
  | one _ => 1
  | many indices => indices.length

def isEmpty (s : Slots) : Bool :=
  s.count == 0

def text : Slots → String
  | none => ""
  | one index => placeholder index
  | many indices => "(" ++ ", ".intercalate (indices.map placeholder) ++ ")"

/-- Reserves the slots of a comparison from `start` on. A null check needs none whatever it is given;
every other comparison needs an operand of its own form, and a membership test at least one element. -/
def reserve (comparison : Comparison) (operand : Option Operand) (start : Nat) :
    Except FilterError Slots :=
  if comparison.isNullCheck then .ok none
  else match operand with
    | Option.none => .error (.missingValue comparison)
    | some (.scalar _) =>
        if comparison.takesList then .error (.listRequired comparison) else .ok (one start)
    | some (.list vs) =>
        if ¬ comparison.takesList then .error (.scalarRequired comparison)
        else if vs.isEmpty then .error (.missingValue comparison)
        else .ok (many (List.range' start vs.length))

end Slots

end EntityQuery
