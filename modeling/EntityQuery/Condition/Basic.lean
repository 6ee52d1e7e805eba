import EntityQuery.Binding.Slots

/-!
One condition on one column, and its text with numbered slots.
-/

namespace EntityQuery

structure Condition where
  table : String
  column : String
  comparison : Comparison
  operand : Option Operand := none
deriving DecidableEq, Repr

structure Rendered where
  text : String := ""
  values : List Scalar := []
  next : Nat
deriving DecidableEq, Repr

def firstSlot (start : Nat) : Nat :=
  max start 1

namespace Condition

def columnRef (c : Condition) : String :=
  c.table ++ "." ++ c.column

def validate (c : Condition) : Except FilterError Unit :=
  (Slots.reserve c.comparison c.operand 1).map fun _ => ()

def boundValues (c : Condition) : List Scalar :=
  if c.comparison.isNullCheck then []
  else (c.operand.map Operand.values).getD []

def textWith (c : Condition) (slots : Slots) : String :=
  match slots with
  | .none => c.columnRef ++ " " ++ c.comparison.token
  | slots => c.columnRef ++ " " ++ c.comparison.token ++ " " ++ slots.text

def render (c : Condition) (start : Nat) : Except FilterError Rendered := do
  let slots ← Slots.reserve c.comparison c.operand (firstSlot start)
  .ok { text := c.textWith slots
        values := c.boundValues
        next := firstSlot start + slots.count }

def toJson (c : Condition) : Json :=
  .object ([("table", .string c.table), ("column", .string c.column),
    ("operator", .string c.comparison.token)] ++
    (c.operand.map fun v => ("value", v.toJson)).toList)

end Condition

end EntityQuery
