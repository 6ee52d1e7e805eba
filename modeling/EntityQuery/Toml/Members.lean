import EntityQuery.Toml.Value

/-!
Tables under construction. Every table knows where it came from, which decides what may still be added
to it: no key is given twice, no header is given twice, and what a value or a header has defined
as a whole is not extended by dotted keys.
-/

namespace EntityQuery.Toml

inductive Origin
  | closed
  | implied
  | dotted
deriving DecidableEq, Repr

inductive Node
  | value (v : Value)
  | table (origin : Origin) (members : List (String × Node))
  | tables (elements : List (List (String × Node)))

abbrev Members := List (String × Node)

namespace Node

mutual

def toValue : Node → Value
  | value v => v
  | table _ members => .table (membersValue members)
  | tables elements => .array (elementValues elements)

def membersValue : List (String × Node) → List (String × Value)
  | [] => []
  | (key, node) :: rest => (key, node.toValue) :: membersValue rest

def elementValues : List (List (String × Node)) → List Value
  | [] => []
  | members :: rest => .table (membersValue members) :: elementValues rest

end

end Node

namespace Members

def set (ms : Members) (key : String) (node : Node) : Members :=
  if ms.any (·.1 == key) then ms.map fun (k, n) => if k = key then (k, node) else (k, n)
  else ms ++ [(key, node)]

/-- Puts a value under a dotted key. No key is given twice, and a step goes only through tables that no
header and no value has closed. -/
def assign (ms : Members) (value : Value) : List String → Option Members
  | [] => none
  | [key] => if (ms.lookup key).isSome then none else some (ms ++ [(key, .value value)])
  | key :: path =>
      match ms.lookup key with
      | none => (assign [] value path).map fun inner => ms ++ [(key, .table .dotted inner)]
      | some (.table origin inner) =>
          if origin = .closed then none
          else (assign inner value path).map fun inner => ms.set key (.table origin inner)
      | some _ => none

def change (f : Option Node → Option Node) (ms : Members) :
    List String → Option Members
  | [] => none
  | [key] => (f (ms.lookup key)).map fun node => ms.set key node
  | key :: path =>
      match ms.lookup key with
      | none => (change f [] path).map fun inner => ms.set key (.table .implied inner)
      | some (.table origin inner) =>
          (change f inner path).map fun inner => ms.set key (.table origin inner)
      | some (.tables elements) =>
          match elements.getLast? with
          | none => none
          | some inner => (change f inner path).map fun inner =>
              ms.set key (.tables (elements.dropLast ++ [inner]))
      | some (.value _) => none

end Members

end EntityQuery.Toml
