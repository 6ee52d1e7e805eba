import EntityQuery.CommandLine.Arguments
import EntityQuery.Json.Parser
import EntityQuery.Schema.Basic
import EntityQuery.Statement.Select
import EntityQuery.Toml.Document

/-!
What a run leaves to others: its arguments, JSON, TOML and SQL are read by libraries, which have their own words for
what they refuse, and so has the subscriber that writes the log. A run says which steps it takes; which lines of the
log a step gives depends on the filter in force, which is the one of the environment if there is one that can be read.
-/

namespace EntityQuery.CommandLine

structure Outcome where
  exitCode : Nat
  stdout : String
  stderr : String
deriving DecidableEq, Repr

structure LogFilter where
  given : Option String
  configured : String
deriving DecidableEq, Repr

/-- The parts of a run that may write to the log, each with all that its lines are made from but the time. -/
inductive LogStep
  | start
  | schema (s : Schema)
  | lowering (s : Schema) (strategy : Strategy) (tree : FilterTree)
  | chains (tree : FilterTree)
  | assembly (select : Select)
  | check (sql : String)

structure Libraries where
  readArguments : List String → Except Outcome Invocation
  readJson : String → Except String Json
  toml : Toml.Reader
  checkSql : String → Except String Unit
  log : LogFilter → LogStep → String

def Stop.outcome : Stop → Outcome
  | misuse => ⟨2, "", ""⟩
  | help => ⟨0, "", ""⟩
  | version => ⟨0, "filterc 0.1.0\n", ""⟩

/-- The readers at hand, with few words for what they refuse, no check of statements and no log. -/
def Libraries.plain : Libraries where
  readArguments args := (parse args).mapError Stop.outcome
  readJson text :=
    match Json.parse text with
    | some raw => .ok raw
    | none => .error "not a JSON value"
  toml := Toml.reader
  checkSql _ := .ok ()
  log _ _ := ""

structure Traced (ε α : Type) where
  steps : List LogStep
  result : Except ε α

namespace Traced

variable {ε α β : Type}

def of (x : Except ε α) : Traced ε α :=
  ⟨[], x⟩

def record (steps : List LogStep) : Traced ε Unit :=
  ⟨steps, .ok ()⟩

def bind (x : Traced ε α) (f : α → Traced ε β) : Traced ε β :=
  match x.result with
  | .ok a => ⟨x.steps ++ (f a).steps, (f a).result⟩
  | .error e => ⟨x.steps, .error e⟩

instance : Monad (Traced ε) where
  pure a := of (.ok a)
  bind := bind

end Traced

end EntityQuery.CommandLine
