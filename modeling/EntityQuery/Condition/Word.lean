import EntityQuery.Condition.Clause

/-!
Clauses whose slots are numbered in machine words, from any word on. Where the numbers leave the range, the build
of the program decides: one with checks stops, one without goes on from zero. A statement numbers its slots from
one and holds a value for each, so its numbers never come that far and `WhereClause.render` is all it needs.
-/

namespace EntityQuery

def wordSize : Nat :=
  twoTo 64

/-- What an addition does whose sum is no word. -/
inductive Overflow
  | traps | wraps
deriving DecidableEq, Repr

inductive Halt
  | rejected (e : FilterError)
  | overflow
deriving DecidableEq, Repr

def Overflow.add (o : Overflow) (a b : Nat) : Except Halt Nat :=
  if a + b < wordSize then .ok (a + b)
  else match o with
    | traps => .error .overflow
    | wraps => .ok ((a + b) % wordSize)

/-- The slots of a list are those from the start up to the word behind the last, and none when that word has
wrapped around. -/
def Slots.reserveAt (o : Overflow) (comparison : Comparison) (operand : Option Operand) (start : Nat) :
    Except Halt Slots := do
  match ← (reserve comparison operand start).mapError .rejected with
  | many indices =>
      let stop ← o.add start indices.length
      .ok (many (List.range' start (stop - start)))
  | slots => .ok slots

def Condition.slotsAt (o : Overflow) (c : Condition) (start : Nat) : Except Halt Slots :=
  Slots.reserveAt o c.comparison c.operand (firstSlot start)

def renderConditionsAt (o : Overflow) : List Condition → Nat → Except Halt RenderedParts
  | [], start => .ok ⟨[], [], start⟩
  | c :: rest, start => do
      let slots ← c.slotsAt o start
      let next ← o.add start slots.count
      let others ← renderConditionsAt o rest next
      .ok ⟨c.textWith slots :: others.texts, c.boundValues ++ others.values, others.next⟩

def Group.renderAt (o : Overflow) (g : Group) (start : Nat) : Except Halt Rendered := do
  let parts ← renderConditionsAt o g.members (firstSlot start)
  let text :=
    if parts.texts.isEmpty then ""
    else "(" ++ (" " ++ g.connective.name ++ " ").intercalate parts.texts ++ ")"
  .ok { text, values := parts.values, next := parts.next }

def Term.renderAt (o : Overflow) : Term → Nat → Except Halt Rendered
  | condition c, start => do
      let slots ← c.slotsAt o start
      let next ← o.add start slots.count
      .ok { text := c.textWith slots, values := c.boundValues, next }
  | group g, start => g.renderAt o start

def renderTermsAt (o : Overflow) : List Term → Nat → Except Halt RenderedParts
  | [], start => .ok ⟨[], [], start⟩
  | t :: rest, start => do
      let first ← t.renderAt o start
      let others ← renderTermsAt o rest first.next
      let texts := if first.text = "" then others.texts else first.text :: others.texts
      .ok ⟨texts, first.values ++ others.values, others.next⟩

def WhereClause.renderAt (o : Overflow) (clause : WhereClause) (start : UInt64) : Except Halt Rendered :=
  match clause with
  | group g => g.renderAt o start.toNat
  | terms ts => do
      let parts ← renderTermsAt o ts (firstSlot start.toNat)
      let text := if parts.texts.isEmpty then "" else "where " ++ " and ".intercalate parts.texts
      .ok { text, values := parts.values, next := parts.next }

end EntityQuery
