import EntityQuery.Schema.Build
import EntityQuery.Toml.Document

/-!
Schemas written in TOML. Below `entities` every table defines an entity: its `table`, its `references`
and its `fields`, each field a kind or a table with `kind`, `column` and `hidden`. Entities and
fields count in the order of their names, whatever their order in the text.
-/

namespace EntityQuery

namespace SchemaFile

open Toml (Value Table)

def kind? (v : Value) : Option FieldKind :=
  v.string?.bind FieldKind.ofName?

def field? : Value → Option FieldDef
  | .string s => (FieldKind.ofName? s).map FieldDef.kind
  | .table ms => do
      let kind ← Table.required? kind? ms "kind"
      let column ← Table.optional? (fun v => v.string?.map some) none ms "column"
      let isHidden ← Table.optional? Value.boolean? false ms "hidden"
      some (.detailed kind column isHidden)
  | _ => none

def members? (read : Value → Option α) : Value → Option (List (String × α))
  | .table ms =>
      (ms.mapM fun (m : String × Value) => (read m.2).map fun a => (m.1, a)).map fun items =>
        items.mergeSort fun a b => a.1 ≤ b.1
  | _ => none

def entityKeys : List String := ["table", "references", "fields"]

def entity? (v : Value) : Option EntityDef := do
  let ms ← v.record? entityKeys
  if ms.all fun m => m.1 ∈ entityKeys then
    let table ← Table.required? Value.string? ms "table"
    let references ← Table.optional? Value.strings? [] ms "references"
    let fields ← Table.optional? (members? field?) [] ms "fields"
    some { table, fields, references }
  else none

def definitions? (document : Table) : Option (List (String × EntityDef)) :=
  Table.optional? (members? entity?) [] document "entities"

end SchemaFile

namespace Schema

def ofTomlBy (toml : Toml.Reader) (text : String) : Except SchemaError Schema :=
  match (toml.parse text).bind SchemaFile.definitions? with
  | some defs => build defs
  | none => .error (.malformed (toml.schemaFault text))

def ofToml (text : String) : Except SchemaError Schema :=
  ofTomlBy Toml.reader text

end Schema

end EntityQuery
