import EntityQuery.CommandLine.Libraries
import EntityQuery.Settings.Load

/-!
What a command does. Settings are loaded first, then the schema, then the filter is read and the command
carried out; the first failure ends the run. Configuration and filter files that are not good
exit with 2, all other failures with 1. The log goes to the standard error, before the message of a failure.
-/

namespace EntityQuery.CommandLine

inductive Failure
  | settings (e : SettingsError)
  | schema (e : SchemaError)
  | filterFile (path : String) (fault : ReadFault)
  | filterSyntax (reason : String)
  | compilation (e : FilterError)
  | invalidSql (reason text : String)
deriving DecidableEq, Repr

namespace Failure

def exitCode : Failure → Nat
  | settings _ | schema _ | filterFile .. => 2
  | filterSyntax _ | compilation _ | invalidSql .. => 1

def message : Failure → String
  | settings e => "Configuration error: " ++ e.message
  | schema e => "Configuration error: " ++ e.message
  | filterFile path fault => "Error reading file '" ++ path ++ "': " ++ fault.reason
  | filterSyntax reason => "Invalid filter JSON: " ++ reason
  | compilation e => "Compilation error: " ++ e.message
  | invalidSql reason text => "Invalid SQL: " ++ reason ++ "\nSQL: " ++ text

end Failure

section

variable (lib : Libraries)

def loadSettings (w : World) (i : Invocation) : Except Failure Settings :=
  (match i.config with
    | some path => Settings.ofFile lib.toml w path
    | none => Settings.load lib.toml w).mapError .settings

def loadSchema (w : World) (i : Invocation) (settings : Settings) : Except Failure Schema :=
  match i.registry with
  | some path => (Schema.ofFile lib.toml w path).mapError .schema
  | none => (settings.loadSchema lib.toml w).mapError .settings

def filterText (w : World) (arg : String) : Except Failure String :=
  match filePath? arg with
  | some path => (w.read path).mapError (.filterFile path)
  | none => .ok arg

def readFilter (w : World) (arg : String) : Except Failure Json := do
  let text ← filterText w arg
  (lib.readJson text).mapError .filterSyntax

def line (s : String) : String :=
  s ++ "\n"

def entityLine (e : Entity) : String :=
  let references :=
    if e.references.isEmpty then "" else ", references: " ++ ", ".intercalate e.references
  line ("  - " ++ e.name ++ " (table: " ++ e.table ++ references ++ ")")

def entityLines (s : Schema) : String :=
  line "Entities:" ++ String.join (s.entities.map entityLine)

def chainLines (chains : List (List String)) : String :=
  if chains.isEmpty then line "No reference chains."
  else String.join (chains.map fun c => line (ReferenceGraph.chainText c))

def jsonLine (j : Json) : String :=
  line j.pretty

def treeSteps (s : Schema) (entity : String) (raw : Json) (step : FilterTree → LogStep) : List LogStep :=
  match s.readFilter entity raw with
  | .ok tree => [step tree]
  | .error _ => []

def checkQuery (check : Bool) (query : Query) : Traced Failure Unit :=
  if check then ⟨[.check query.text], (lib.checkSql query.text).mapError fun reason => .invalidSql reason query.text⟩
  else .of (.ok ())

def perform (w : World) (s : Schema) (strategy : Strategy) : Command → Traced Failure String
  | .compile entity filter chosen => do
      let strategy := chosen.getD strategy
      let raw ← .of (readFilter lib w filter)
      .record (treeSteps s entity raw (.lowering s strategy))
      let conditions ← .of ((s.compile strategy entity raw).mapError .compilation)
      return jsonLine (.array (conditions.map Condition.toJson))
  | .select entity filter columns limit offset check => do
      let raw ← .of (readFilter lib w filter)
      .record (treeSteps s entity raw (.lowering s strategy))
      let select ← .of ((s.selectFor strategy entity raw columns).mapError .compilation)
      let select : Select := { select with limit, offset }
      .record [.assembly select]
      let query ← .of (select.build.mapError .compilation)
      checkQuery lib check query
      return jsonLine query.toJson
  | .chains entity filter => do
      let raw ← .of (readFilter lib w filter)
      .record (treeSteps s entity raw .chains)
      let chains ← .of ((s.referenceChains entity raw).mapError .compilation)
      return chainLines chains
  | .entities => return entityLines s

namespace Invocation

def run (w : World) (i : Invocation) : Traced Failure String := do
  .record [.start]
  let settings ← .of (loadSettings lib w i)
  let s ← .of (loadSchema lib w i settings)
  .record [.schema s]
  perform lib w s settings.strategy i.command

def logFilter (w : World) (i : Invocation) : LogFilter where
  given := w.getVariable "RUST_LOG"
  configured :=
    match loadSettings lib w i with
    | .ok settings => settings.logging
    | .error _ => "warn"

def logged (w : World) (i : Invocation) : String :=
  String.join ((i.run lib w).steps.map (lib.log (i.logFilter lib w)))

def outcome (w : World) (i : Invocation) : Outcome :=
  match (i.run lib w).result with
  | .ok text => ⟨0, text, i.logged lib w⟩
  | .error f => ⟨f.exitCode, "", i.logged lib w ++ line f.message⟩

end Invocation

def execute (w : World) (args : List String) : Outcome :=
  match lib.readArguments args with
  | .ok i => i.outcome lib w
  | .error ending => ending

end

end EntityQuery.CommandLine
