import EntityQuery.Schema.Catalog
import EntityQuery.Schema.File
import EntityQuery.Settings.Basic
import EntityQuery.Settings.Expansion
import EntityQuery.World

/-!
Where settings and schemas come from. A source that is named has to be good; only the default settings
files may be absent.
-/

namespace EntityQuery

def Schema.ofFile (toml : Toml.Reader) (w : World) (path : String) : Except SchemaError Schema :=
  match w.read path with
  | .ok text => Schema.ofTomlBy toml text
  | .error fault => .error (.unreadable path fault.reason)

namespace Settings

def ofFile (toml : Toml.Reader) (w : World) (path : String) : Except SettingsError Settings :=
  match w.read path with
  | .ok text => ofToml toml text
  | .error .missing => .error (.fileNotFound path)
  | .error fault => .error (.unreadable fault.reason)

def variableName : String := "FILTERC_CONFIG"

def searchPaths (w : World) : List String :=
  "filterc.toml" :: (w.configHome.map fun dir => dir ++ "/filterc/config.toml").toList

/-- The file that the environment names, else the first default file there is, else the defaults. -/
def load (toml : Toml.Reader) (w : World) : Except SettingsError Settings :=
  match w.getVariable variableName with
  | some path => ofFile toml w path
  | none =>
      match (searchPaths w).find? w.isFile with
      | some path => ofFile toml w path
      | none => .ok {}

def resolvedPath (w : World) (s : Settings) : Except SettingsError (Option String) :=
  match s.path with
  | none => .ok none
  | some path =>
      match expandVariables w.getVariable path with
      | .ok path => .ok (some path)
      | .error name => .error (.missingVariable name)

def loadSchema (toml : Toml.Reader) (w : World) (s : Settings) : Except SettingsError Schema := do
  match ← s.resolvedPath w with
  | some path =>
      if w.hasEntry path then (Schema.ofFile toml w path).mapError SettingsError.schema
      else .error (.fileNotFound path)
  | none =>
      if s.catalog = "" then .error .noSource
      else (Catalog.find s.catalog).mapError SettingsError.schema

end Settings

end EntityQuery
