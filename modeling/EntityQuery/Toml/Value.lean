import EntityQuery.Decimal.Binary64

/-!
The values of a TOML document. Date-times are kept as their text.
-/

namespace EntityQuery.Toml

inductive Value
  | string (s : String)
  | integer (n : Int)
  | float (x : Binary64)
  | boolean (b : Bool)
  | dateTime (text : String)
  | array (elements : List Value)
  | table (members : List (String × Value))

abbrev Table := List (String × Value)

namespace Value

def string? : Value → Option String
  | string s => some s
  | _ => none

def boolean? : Value → Option Bool
  | boolean b => some b
  | _ => none

def strings? : Value → Option (List String)
  | array vs => vs.mapM string?
  | _ => none

def record? (keys : List String) : Value → Option Table
  | table ms => some ms
  | array vs => some (keys.zip vs)
  | dateTime _ => some []
  | _ => none

end Value

def Table.optional? (read : Value → Option α) (missing : α) (ms : Table) (key : String) : Option α :=
  match ms.lookup key with
  | none => some missing
  | some v => read v

def Table.required? (read : Value → Option α) (ms : Table) (key : String) : Option α :=
  (ms.lookup key).bind read

end EntityQuery.Toml
