import EntityQuery.Proofs.Json.Place
import EntityQuery.Proofs.Reading.Tests
import EntityQuery.Proofs.Schema.Registered

/-! What is wrong with a raw filter, item by item, and where each item stands. A filter that has a fault anywhere
is not read. -/

namespace EntityQuery

lemma FilterOperator.ofName?_eq_none_iff {name : String} :
    ofName? name = none ↔ ∀ op : FilterOperator, op.name ≠ name := by
  rw [ofName?, List.find?_eq_none]
  exact ⟨fun h op => by simpa using h op op.mem_all, fun h op _ => by simpa using h op⟩

lemma FilterOperator.takesList_eq_false {op : FilterOperator} (h : op.comparison.isNullCheck = true) :
    op.comparison.takesList = false := by
  cases op <;> first | rfl | cases h

namespace FieldKind

def HasForm : FieldKind → Json → Prop
  | string, raw | date, raw => ∃ s, raw = .string s
  | number, raw => (∃ n, raw = .integer n) ∨ ∃ x, raw = .float x
  | boolean, raw => ∃ b, raw = .bool b

inductive RefusesScalar : FieldKind → Json → ShapeFault → Prop
  | form {kind : FieldKind} {raw : Json} (h : ¬ kind.HasForm raw) : RefusesScalar kind raw (.scalarExpected kind)
  | date {s : String} (h : Instant.ofText? s = none) : RefusesScalar .date (.string s) (.invalidDate s)

inductive RefusesOperand (kind : FieldKind) (op : FilterOperator) : Json → Place → ShapeFault → Prop
  | null : RefusesOperand kind op .null .here .nullOperand
  | flag {raw : Json} (hop : op.comparison.isNullCheck = true) (hnull : raw ≠ .null) (h : ∀ b, raw ≠ .bool b) :
      RefusesOperand kind op raw .here .flagExpected
  | list {raw : Json} (hop : op.comparison.takesList = true) (hnull : raw ≠ .null)
      (h : ∀ elements, raw ≠ .array elements) : RefusesOperand kind op raw .here (.listExpected kind)
  | element {pre post : List Json} {raw : Json} {fault : ShapeFault} (hop : op.comparison.takesList = true)
      (h : kind.RefusesScalar raw fault) :
      RefusesOperand kind op (.array (pre ++ raw :: post)) (.within pre.length .here) fault
  | scalar {raw : Json} {fault : ShapeFault} (hflag : op.comparison.isNullCheck = false)
      (hlist : op.comparison.takesList = false) (hnull : raw ≠ .null) (h : kind.RefusesScalar raw fault) :
      RefusesOperand kind op raw .here fault

inductive RefusesTest (kind : FieldKind) (i : Nat) (name : String) : Json → Place → ShapeFault → Prop
  | unknown {raw : Json} (h : ∀ op : FilterOperator, op.name ≠ name) :
      RefusesTest kind i name raw (.key i) .unknownOperator
  | notAllowed {raw : Json} {op : FilterOperator} (hname : op.name = name) (h : kind.allows op = false) :
      RefusesTest kind i name raw (.key i) (.operatorNotAllowed kind)
  | operand {raw : Json} {op : FilterOperator} {p : Place} {fault : ShapeFault} (hname : op.name = name)
      (hallows : kind.allows op = true) (h : kind.RefusesOperand op raw p fault) :
      RefusesTest kind i name raw (.within i p) fault

end FieldKind

namespace Entity

inductive RefusesOperators (e : Entity) (key : String) (kind : FieldKind) : Json → Place → FilterError → Prop
  | notObject {raw : Json} (h : ∀ operators, raw ≠ .object operators) :
      RefusesOperators e key kind raw .here (.invalidShape e.name (some key) .operatorsNotObject)
  | empty : RefusesOperators e key kind (.object []) .here (.invalidShape e.name (some key) .noOperators)
  | test {pre post : List (String × Json)} {name : String} {raw : Json} {p : Place} {fault : ShapeFault}
      (h : kind.RefusesTest pre.length name raw p fault) :
      RefusesOperators e key kind (.object (pre ++ (name, raw) :: post)) p
        (.invalidShape e.name (some (key ++ "." ++ name)) fault)

inductive RefusesField (e : Entity) (i : Nat) (key : String) : Json → Place → FilterError → Prop
  | unknown {raw : Json} (h : e.field? key = none) :
      RefusesField e i key raw (.key i) (.invalidShape e.name (some key) .unknownKey)
  | hidden {raw : Json} {f : Field} (hfield : e.field? key = some f) (h : f.column = none) :
      RefusesField e i key raw (.key i) (.invalidShape e.name (some key) .hiddenField)
  | operators {raw : Json} {f : Field} {column : String} {p : Place} {err : FilterError}
      (hfield : e.field? key = some f) (hcolumn : f.column = some column)
      (h : e.RefusesOperators key f.kind raw p err) : RefusesField e i key raw (.within i p) err

end Entity

namespace Schema

mutual

inductive Refuses (s : Schema) : String → Json → Place → FilterError → Prop
  | notObject {entity : String} {raw : Json} (h : ∀ members, raw ≠ .object members) :
      Refuses s entity raw .here (.invalidShape entity none .filterNotObject)
  | member {entity : String} {e : Entity} {pre post : List (String × Json)} {key : String} {raw : Json}
      {p : Place} {err : FilterError} (he : s.entity entity = .ok e)
      (h : RefusesMember s e pre.length key raw p err) :
      Refuses s entity (.object (pre ++ (key, raw) :: post)) p err

inductive RefusesMember (s : Schema) : Entity → Nat → String → Json → Place → FilterError → Prop
  | reference {e : Entity} {i : Nat} {key : String} {raw : Json} {p : Place} {err : FilterError}
      (href : e.refersTo key = true) (h : RefusesReference s e key raw p err) :
      RefusesMember s e i key raw (.within i p) err
  | field {e : Entity} {i : Nat} {key : String} {raw : Json} {p : Place} {err : FilterError}
      (href : e.refersTo key = false) (h : e.RefusesField i key raw p err) : RefusesMember s e i key raw p err

inductive RefusesReference (s : Schema) : Entity → String → Json → Place → FilterError → Prop
  | notObject {e : Entity} {key : String} {raw : Json} (hnull : raw ≠ .null)
      (h : ∀ members, raw ≠ .object members) :
      RefusesReference s e key raw .here (.invalidShape e.name (some key) .referenceNotObject)
  | nested {e : Entity} {key : String} {members : List (String × Json)} {p : Place} {err : FilterError}
      (h : Refuses s key (.object members) p err) : RefusesReference s e key (.object members) p err

end

/-- The entity of the innermost filter around a place, and the key that leads on from it: none where the filter as
a whole is meant, and the operator after the key within the operators of a field. -/
def site (s : Schema) : Place → String → Json → String × Option String
  | .here, entity, _ => (entity, none)
  | .key i, entity, raw => (entity, (raw.memberAt? i).map Prod.fst)
  | .within i p, entity, raw =>
      match raw.memberAt? i with
      | none => (entity, none)
      | some (key, v) =>
          match p.index? with
          | none => (entity, some key)
          | some j =>
              if (s.entity entity).toOption.any (·.refersTo key) then s.site p key v
              else (entity, (v.memberAt? j).map fun m => key ++ "." ++ m.1)

end Schema

end EntityQuery
