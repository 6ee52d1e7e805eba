import EntityQuery.Toml.Expression

/-!
TOML documents. The expressions are applied in order to the table of the document; what would define a
key or a table twice is refused.
-/

namespace EntityQuery.Toml

structure Draft where
  root : Members := []
  header : List String := []

def openTable : Option Node → Option Node
  | none => some (.table .closed [])
  | some (.table .implied members) => some (.table .closed members)
  | some _ => none

def openElement : Option Node → Option Node
  | none => some (.tables [[]])
  | some (.tables elements) => some (.tables (elements ++ [[]]))
  | some _ => none

def assignWithin (path : List String) (value : Value) : Option Node → Option Node
  | some (.table origin members) =>
      (Members.assign members value path).map fun members => .table origin members
  | some (.tables elements) => do
      let members ← elements.getLast?
      let members ← Members.assign members value path
      some (.tables (elements.dropLast ++ [members]))
  | _ => none

def Draft.apply (d : Draft) : Expression → Option Draft
  | .assign path value =>
      if d.header.isEmpty then (Members.assign d.root value path).map fun root => { d with root }
      else (Members.change (assignWithin path value) d.root d.header).map fun root => { d with root }
  | .table path => (Members.change openTable d.root path).map fun root => { root, header := path }
  | .element path => (Members.change openElement d.root path).map fun root => { root, header := path }

def dropMark : List Char → List Char
  | '\ufeff' :: rest => rest
  | cs => cs

def parse (text : String) : Option Table := do
  let cs := dropMark text.toList
  let expressions ← expressions? (cs.length + 1) cs
  let d ← expressions.foldlM Draft.apply {}
  some (Node.membersValue d.root)

/-- A reader of documents, and what it says of a text that holds no schema or no settings. -/
structure Reader where
  parse : String → Option Table
  schemaFault : String → String
  settingsFault : String → String

def reader : Reader where
  parse := parse
  schemaFault _ := "not a registry in TOML"
  settingsFault _ := "not settings in TOML"

end EntityQuery.Toml
