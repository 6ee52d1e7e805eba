import EntityQuery.Schema.Basic

/-!
Building a schema from definitions. Definitions are checked in order, each for a repeated name, then
for repeated fields, then for its references; the entities and the fields of the result are
sorted.
-/

namespace EntityQuery

structure EntityDef where
  table : String
  fields : List (String × FieldDef) := []
  references : List String := []
deriving DecidableEq, Repr

inductive SchemaError
  | duplicateEntity (entity : String)
  | duplicateField (entity field : String)
  | unknownReference (entity reference : String)
  | selfReference (entity : String)
  | ambiguousKey (entity key : String)
  | unknownCatalog (name : String)
  | unreadable (path reason : String)
  | malformed (reason : String)
deriving DecidableEq, Repr

def SchemaError.message : SchemaError → String
  | duplicateEntity entity => "Duplicate entity: " ++ entity
  | duplicateField entity field => "Duplicate field " ++ field ++ " on entity " ++ entity
  | unknownReference entity reference =>
      "Entity " ++ entity ++ " references unregistered entity " ++ reference
  | selfReference entity => "Entity " ++ entity ++ " references itself"
  | ambiguousKey entity key =>
      "Entity " ++ entity ++ " declares " ++ key ++ " as both a field and a reference"
  | unknownCatalog name => "Unknown catalog: " ++ name
  | unreadable path reason => "Failed to read registry file " ++ path ++ ": " ++ reason
  | malformed reason => "Failed to parse registry: " ++ reason

namespace Schema

def checkFields (entity : String) (seen : List String) :
    List (String × FieldDef) → Except SchemaError Unit
  | [] => .ok ()
  | (key, _) :: rest =>
      if key ∈ seen then .error (.duplicateField entity key)
      else checkFields entity (key :: seen) rest

def checkReferences (entity : String) (names keys : List String) :
    List String → Except SchemaError Unit
  | [] => .ok ()
  | r :: rest =>
      if r = entity then .error (.selfReference entity)
      else if r ∉ names then .error (.unknownReference entity r)
      else if r ∈ keys then .error (.ambiguousKey entity r)
      else checkReferences entity names keys rest

def sortFields (fields : List (String × Field)) : List (String × Field) :=
  fields.mergeSort fun a b => a.1 ≤ b.1

def sortEntities (entities : List Entity) : List Entity :=
  entities.mergeSort fun a b => a.name ≤ b.name

def resolveEntity (names : List String) (name : String) (d : EntityDef) :
    Except SchemaError Entity := do
  checkFields name [] d.fields
  checkReferences name names (d.fields.map Prod.fst) d.references
  .ok { name
        table := d.table
        fields := sortFields (d.fields.map fun (key, f) => (key, f.resolve key))
        references := d.references }

def resolveEntities (names seen : List String) :
    List (String × EntityDef) → Except SchemaError (List Entity)
  | [] => .ok []
  | (name, d) :: rest => do
      if name ∈ seen then .error (.duplicateEntity name)
      else
        let first ← resolveEntity names name d
        let others ← resolveEntities names (name :: seen) rest
        .ok (first :: others)

def build (defs : List (String × EntityDef)) : Except SchemaError Schema := do
  let entities ← resolveEntities (defs.map Prod.fst) [] defs
  .ok ⟨sortEntities entities⟩

end Schema

end EntityQuery
