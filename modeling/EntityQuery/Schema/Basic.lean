import EntityQuery.Filter.Error
import EntityQuery.Schema.Field

/-!
Schemas: entities with a table, fields under keys, and references to other entities.
-/

namespace EntityQuery

structure Entity where
  name : String
  table : String
  fields : List (String × Field)
  references : List String
deriving DecidableEq, Repr

namespace Entity

def field? (e : Entity) (key : String) : Option Field :=
  e.fields.lookup key

def column? (e : Entity) (key : String) : Option String :=
  (e.field? key).bind Field.column

def hasField (e : Entity) (key : String) : Bool :=
  (e.field? key).isSome

def refersTo (e : Entity) (key : String) : Bool :=
  e.references.contains key

end Entity

structure Schema where
  entities : List Entity
deriving DecidableEq, Repr

namespace Schema

def entity? (s : Schema) (name : String) : Option Entity :=
  s.entities.find? (·.name == name)

def entity (s : Schema) (name : String) : Except FilterError Entity :=
  match s.entity? name with
  | some e => .ok e
  | none => .error (.unknownEntity name)

def isRegistered (s : Schema) (name : String) : Bool :=
  (s.entity? name).isSome

end Schema

end EntityQuery
