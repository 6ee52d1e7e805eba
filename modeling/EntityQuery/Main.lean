import EntityQuery.CommandLine.Run

/-!
The program `filterc`. It looks at just those files and variables that the run can ask for, and leaves
everything else to `CommandLine.execute`.
-/

namespace EntityQuery.CommandLine

def inspectOpen (handle : IO.FS.Handle) : IO PathEntry := do
  try
    return .file (String.fromUTF8? (← handle.readBinToEnd))
  catch _ => return .directory

def inspect (path : String) : IO PathEntry := do
  try
    inspectOpen (← IO.FS.Handle.mk path .read)
  catch e =>
    match e with
    | .noFileOrDirectory .. => return .missing
    | _ => return .blocked

def findConfigHome : IO (Option String) := do
  match ← IO.getEnv "XDG_CONFIG_HOME" with
  | some dir => if dir.startsWith "/" then return some dir
  | none => pure ()
  return (← IO.getEnv "HOME").bind fun home => if home = "" then none else some (home ++ "/.config")

structure Seen where
  files : List (String × PathEntry) := []
  environment : List (String × Option String) := []
  configHome : Option String := none

namespace Seen

def world (s : Seen) : World where
  look path := (s.files.lookup path).getD .missing
  getVariable name := (s.environment.lookup name).join
  configHome := s.configHome

def lookAt (s : Seen) (paths : List String) : IO Seen := do
  let found ← paths.mapM fun path => return (path, ← inspect path)
  return { s with files := found ++ s.files }

def lookUp (s : Seen) (name : String) : IO Seen := do
  let value ← IO.getEnv name
  return { s with environment := (name, value) :: s.environment }

def lookUpAll (s : Seen) (settings : Settings) : Nat → IO Seen
  | 0 => return s
  | fuel + 1 =>
      match settings.resolvedPath s.world with
      | .error (.missingVariable name) =>
          if (s.environment.lookup name).isSome then return s
          else do (← s.lookUp name).lookUpAll settings fuel
      | _ => return s

end Seen

def survey (lib : Libraries) (i : Invocation) : IO World := do
  let seen : Seen := { configHome := ← findConfigHome }
  let seen ← seen.lookUp Settings.variableName
  let seen ← seen.lookUp "RUST_LOG"
  let named := (seen.world.getVariable Settings.variableName).toList
  let seen ← seen.lookAt (i.config.toList ++ i.registry.toList ++ i.command.filterPath?.toList ++
    named ++ Settings.searchPaths seen.world)
  match loadSettings lib seen.world i with
  | .error _ => return seen.world
  | .ok settings =>
      let seen ← seen.lookUpAll settings ((settings.path.getD "").length + 1)
      match settings.resolvedPath seen.world with
      | .ok (some path) => return (← seen.lookAt [path]).world
      | _ => return seen.world

def runProgram (lib : Libraries) (args : List String) : IO UInt32 := do
  let world ← match lib.readArguments args with
    | .ok i => survey lib i
    | .error _ => pure (Seen.world {})
  let outcome := execute lib world args
  (← IO.getStdout).putStr outcome.stdout
  (← IO.getStderr).putStr outcome.stderr
  return outcome.exitCode.toUInt32

end EntityQuery.CommandLine
