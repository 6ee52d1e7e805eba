import EntityQuery.Binding.Scalar
import EntityQuery.Calendar.Instant
import EntityQuery.Schema.Kind

/-!
Checked filters. A tree belongs to an entity and has an entry for each key, in the order of the keys:
tests on a field, or the tree of a referenced entity.
-/

namespace EntityQuery

inductive Datum
  | text (s : String)
  | integer (n : Int)
  | float (x : Binary64)
  | boolean (b : Bool)
  | date (t : Instant)
deriving DecidableEq, Repr

def Datum.scalar : Datum → Scalar
  | text s => .text s
  | integer n => .integer n
  | float x => .float x
  | boolean b => .boolean b
  | date t => .text t.text

inductive TestOperand
  | flag (b : Bool)
  | value (d : Datum)
  | list (ds : List Datum)
deriving DecidableEq, Repr

def TestOperand.operand? : TestOperand → Option Operand
  | flag _ => none
  | value d => some (.scalar d.scalar)
  | list ds => some (.list (ds.map Datum.scalar))

structure Test where
  operator : FilterOperator
  operand : TestOperand
deriving DecidableEq, Repr

structure FieldTests where
  key : String
  column : String
  kind : FieldKind
  tests : List Test
deriving DecidableEq, Repr

mutual

inductive FilterTree
  | node (entity : String) (entries : List FilterEntry)

inductive FilterEntry
  | field (f : FieldTests)
  | reference (t : FilterTree)

end

namespace FilterTree

def entity : FilterTree → String
  | node entity _ => entity

def entries : FilterTree → List FilterEntry
  | node _ entries => entries

def empty (entity : String) : FilterTree :=
  node entity []

def fields (t : FilterTree) : List FieldTests :=
  t.entries.filterMap fun
    | .field f => some f
    | .reference _ => none

def references (t : FilterTree) : List FilterTree :=
  t.entries.filterMap fun
    | .field _ => none
    | .reference r => some r

def reference? (t : FilterTree) (entity : String) : Option FilterTree :=
  t.references.find? (·.entity == entity)

end FilterTree

mutual

def FilterTree.size : FilterTree → Nat
  | .node _ entries => FilterEntry.totalSize entries + 1

def FilterEntry.totalSize : List FilterEntry → Nat
  | [] => 0
  | e :: rest => e.size + FilterEntry.totalSize rest

def FilterEntry.size : FilterEntry → Nat
  | .field _ => 0
  | .reference t => t.size

end

def FilterTree.totalSize : List FilterTree → Nat
  | [] => 0
  | t :: ts => t.size + totalSize ts

namespace FilterTree

theorem totalSize_cons (t : FilterTree) (ts : List FilterTree) :
    totalSize (t :: ts) = t.size + totalSize ts :=
  rfl

theorem totalSize_append (ts us : List FilterTree) :
    totalSize (ts ++ us) = totalSize ts + totalSize us := by
  induction ts with
  | nil => simp [totalSize]
  | cons t ts ih => simp [totalSize, ih, Nat.add_assoc]

theorem totalSize_reverse (ts : List FilterTree) : totalSize ts.reverse = totalSize ts := by
  induction ts with
  | nil => rfl
  | cons t ts ih => simp [totalSize, totalSize_append, ih, Nat.add_comm]

theorem totalSize_filter_le (p : FilterTree → Bool) (ts : List FilterTree) :
    totalSize (ts.filter p) ≤ totalSize ts := by
  induction ts with
  | nil => simp [totalSize]
  | cons t ts ih =>
    rw [List.filter_cons]
    split <;> simp only [totalSize_cons] <;> omega

theorem totalSize_references (t : FilterTree) : totalSize t.references + 1 = t.size := by
  obtain ⟨entity, es⟩ := t
  simp only [references, entries, size, Nat.add_right_cancel_iff]
  induction es with
  | nil => rfl
  | cons e es ih =>
    cases e with
    | field f => simpa [FilterEntry.totalSize, FilterEntry.size] using ih
    | reference r =>
      simp only [List.filterMap_cons, totalSize_cons, ih, FilterEntry.totalSize, FilterEntry.size]

end FilterTree

end EntityQuery
