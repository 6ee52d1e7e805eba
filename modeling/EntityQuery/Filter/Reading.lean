import EntityQuery.Calendar.Reading
import EntityQuery.Filter.Tree
import EntityQuery.Schema.Basic

/-!
Reading a raw filter against a schema. Keys are read in order and the first item that does not fit
decides the error.
-/

namespace EntityQuery

def FieldKind.readScalar (kind : FieldKind) (raw : Json) : Except ShapeFault Datum :=
  match kind, raw with
  | string, .string s => .ok (.text s)
  | number, .integer n => .ok (.integer n)
  | number, .float x => .ok (.float x)
  | boolean, .bool b => .ok (.boolean b)
  | date, .string s =>
      match Instant.ofText? s with
      | some t => .ok (.date t)
      | none => .error (.invalidDate s)
  | _, _ => .error (.scalarExpected kind)

def FieldKind.readScalars (kind : FieldKind) : List Json → Except ShapeFault (List Datum)
  | [] => .ok []
  | raw :: rest => do
      let first ← kind.readScalar raw
      let others ← kind.readScalars rest
      .ok (first :: others)

def FieldKind.readOperand (kind : FieldKind) (op : FilterOperator) (raw : Json) :
    Except ShapeFault TestOperand :=
  match raw with
  | .null => .error .nullOperand
  | raw =>
      match op with
      | .isNull | .isNotNull =>
          match raw with
          | .bool b => .ok (.flag b)
          | _ => .error .flagExpected
      | .isIn | .notIn =>
          match raw with
          | .array elements => (kind.readScalars elements).map TestOperand.list
          | _ => .error (.listExpected kind)
      | _ => (kind.readScalar raw).map TestOperand.value

def FieldKind.readTest (kind : FieldKind) (name : String) (raw : Json) : Except ShapeFault Test :=
  match FilterOperator.ofName? name with
  | none => .error .unknownOperator
  | some op =>
      if kind.allows op then (kind.readOperand op raw).map fun operand => ⟨op, operand⟩
      else .error (.operatorNotAllowed kind)

def Entity.readTests (e : Entity) (key : String) (kind : FieldKind) :
    List (String × Json) → Except FilterError (List Test)
  | [] => .ok []
  | (name, raw) :: rest => do
      let first ← (kind.readTest name raw).mapError
        (.invalidShape e.name (some (key ++ "." ++ name)))
      let others ← e.readTests key kind rest
      .ok (first :: others)

def Entity.readField (e : Entity) (key : String) (raw : Json) : Except FilterError FieldTests :=
  match e.field? key with
  | none => .error (.invalidShape e.name (some key) .unknownKey)
  | some ⟨_, none⟩ => .error (.invalidShape e.name (some key) .hiddenField)
  | some ⟨kind, some column⟩ =>
      match raw with
      | .object [] => .error (.invalidShape e.name (some key) .noOperators)
      | .object operators => do
          let tests ← e.readTests key kind operators
          .ok { key, column, kind, tests }
      | _ => .error (.invalidShape e.name (some key) .operatorsNotObject)

namespace Schema

mutual

def readEntries (s : Schema) (e : Entity) :
    List (String × Json) → Except FilterError (List FilterEntry)
  | [] => .ok []
  | (key, raw) :: rest =>
      match s.readEntry e key raw with
      | .error err => .error err
      | .ok first => (s.readEntries e rest).map (first :: ·)

def readEntry (s : Schema) (e : Entity) (key : String) (raw : Json) :
    Except FilterError FilterEntry :=
  if e.refersTo key then
    match raw with
    | .null => .ok (.reference (.empty key))
    | .object members =>
        match s.entity key with
        | .error err => .error err
        | .ok nested =>
            (s.readEntries nested members).map fun entries => .reference (.node key entries)
    | _ => .error (.invalidShape e.name (some key) .referenceNotObject)
  else (e.readField key raw).map FilterEntry.field

end

def readFilter (s : Schema) (entity : String) (raw : Json) : Except FilterError FilterTree := do
  let e ← s.entity entity
  match raw with
  | .object members => (s.readEntries e members).map (FilterTree.node entity)
  | _ => .error (.invalidShape entity none .filterNotObject)

end Schema

end EntityQuery
