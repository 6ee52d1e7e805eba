import EntityQuery.Filter.Lowering
import EntityQuery.Schema.Build
import EntityQuery.Toml.Document

/-!
Settings, as written in TOML: where the schema comes from, how filters are lowered, and what is logged.
Whatever is not given has its default, and unknown keys do not matter.
-/

namespace EntityQuery

structure Settings where
  catalog : String := "recruiting"
  path : Option String := none
  strategy : Strategy := .graph
  logging : String := "warn"
deriving DecidableEq, Repr

inductive SettingsError
  | fileNotFound (path : String)
  | unreadable (reason : String)
  | malformed (reason : String)
  | missingVariable (name : String)
  | schema (e : SchemaError)
  | noSource
deriving DecidableEq, Repr

def SettingsError.message : SettingsError → String
  | fileNotFound path => "Config file not found: " ++ path
  | unreadable reason => "Failed to read config file: " ++ reason
  | malformed reason => "Failed to parse config file: " ++ reason
  | missingVariable name => "Missing environment variable: " ++ name
  | schema e => "Registry error: " ++ e.message
  | noSource => "Invalid configuration: registry.catalog or registry.path must be set"

namespace Settings

open Toml (Value Table)

def choice? (v : Value) : Option String :=
  match v with
  | .string s => some s
  | .table [(name, .table [])] => some name
  | .table [(name, .array [])] => some name
  | _ => none

def strategy? (v : Value) : Option Strategy :=
  (choice? v).bind Strategy.ofName?

def section? (document : Table) (name : String) (keys : List String) : Option Table :=
  Table.optional? (Value.record? keys) [] document name

def ofTable? (document : Table) : Option Settings := do
  let registry ← section? document "registry" ["catalog", "path"]
  let catalog ← Table.optional? Value.string? "recruiting" registry "catalog"
  let path ← Table.optional? (fun v => v.string?.map some) none registry "path"
  let compiler ← section? document "compiler" ["algorithm"]
  let strategy ← Table.optional? strategy? .graph compiler "algorithm"
  let log ← section? document "logging" ["filter"]
  let logging ← Table.optional? Value.string? "warn" log "filter"
  some { catalog, path, strategy, logging }

def ofToml (toml : Toml.Reader) (text : String) : Except SettingsError Settings :=
  match (toml.parse text).bind ofTable? with
  | some s => .ok s
  | none => .error (.malformed (toml.settingsFault text))

end Settings

end EntityQuery
