import EntityQuery.Condition.Basic

/-!
Conditions joined into a clause. A group joins its members by one connective inside parentheses;
a clause joins conditions and groups by `and` behind `where`, or is a bare group. Slots are numbered
from left to right through the whole clause, and what is empty leaves no text.
-/

namespace EntityQuery

inductive Connective
  | and | or
deriving DecidableEq, Repr

def Connective.name : Connective → String
  | and => "and"
  | or => "or"

structure Group where
  connective : Connective
  members : List Condition
deriving DecidableEq, Repr

inductive Term
  | condition (c : Condition)
  | group (g : Group)
deriving DecidableEq, Repr

inductive WhereClause
  | terms (ts : List Term)
  | group (g : Group)
deriving DecidableEq, Repr

structure RenderedParts where
  texts : List String
  values : List Scalar
  next : Nat
deriving DecidableEq, Repr

def renderConditions : List Condition → Nat → Except FilterError RenderedParts
  | [], start => .ok ⟨[], [], start⟩
  | c :: rest, start => do
      let first ← c.render start
      let others ← renderConditions rest first.next
      .ok ⟨first.text :: others.texts, first.values ++ others.values, others.next⟩

namespace Group

def render (g : Group) (start : Nat) : Except FilterError Rendered := do
  let parts ← renderConditions g.members (firstSlot start)
  let text :=
    if parts.texts.isEmpty then ""
    else "(" ++ (" " ++ g.connective.name ++ " ").intercalate parts.texts ++ ")"
  .ok { text, values := parts.values, next := parts.next }

def toJson (g : Group) : Json :=
  .object [("mode", .string g.connective.name), ("predicates", .array (g.members.map Condition.toJson))]

end Group

def Term.render : Term → Nat → Except FilterError Rendered
  | condition c, start => c.render start
  | group g, start => g.render start

def renderTerms : List Term → Nat → Except FilterError RenderedParts
  | [], start => .ok ⟨[], [], start⟩
  | t :: rest, start => do
      let first ← t.render start
      let others ← renderTerms rest first.next
      let texts := if first.text = "" then others.texts else first.text :: others.texts
      .ok ⟨texts, first.values ++ others.values, others.next⟩

namespace WhereClause

def ofConditions (cs : List Condition) : WhereClause :=
  terms (cs.map Term.condition)

def isEmpty : WhereClause → Bool
  | terms ts => ts.isEmpty
  | group g => g.members.isEmpty

def conditions : WhereClause → List Condition
  | terms ts => ts.flatMap fun
      | .condition c => [c]
      | .group g => g.members
  | group g => g.members

def render : WhereClause → Nat → Except FilterError Rendered
  | group g, start => g.render start
  | terms ts, start => do
      let parts ← renderTerms ts (firstSlot start)
      let text := if parts.texts.isEmpty then "" else "where " ++ " and ".intercalate parts.texts
      .ok { text, values := parts.values, next := parts.next }

end WhereClause

end EntityQuery
