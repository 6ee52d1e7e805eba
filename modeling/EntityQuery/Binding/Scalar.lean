import EntityQuery.Json.Printer

/-!
The values a statement binds, and how one is written as an SQL literal: text stands between single
quotes, each quote inside written twice.
-/

namespace EntityQuery

inductive Scalar
  | text (s : String)
  | integer (n : Int)
  | float (x : Binary64)
  | boolean (b : Bool)
deriving DecidableEq, Repr

namespace Scalar

def doubleQuotes : List Char → List Char
  | [] => []
  | '\'' :: rest => '\'' :: '\'' :: doubleQuotes rest
  | c :: rest => c :: doubleQuotes rest

def literal : Scalar → String
  | text s => String.ofList ('\'' :: doubleQuotes s.toList ++ ['\''])
  | integer n => toString n
  | float x => x.positionalText
  | boolean b => if b then "true" else "false"

def toJson : Scalar → Json
  | text s => .string s
  | integer n => .integer n
  | float x => .float x
  | boolean b => .bool b

end Scalar

inductive Operand
  | scalar (v : Scalar)
  | list (vs : List Scalar)
deriving DecidableEq, Repr

namespace Operand

def values : Operand → List Scalar
  | scalar v => [v]
  | list vs => vs

def toJson : Operand → Json
  | scalar v => v.toJson
  | list vs => .array (vs.map Scalar.toJson)

end Operand

end EntityQuery
