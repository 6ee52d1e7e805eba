import EntityQuery.Filter.Lowering

/-!
The arguments of the command line. Arguments are read from left to right and the first that is wrong,
or asks for help or the version, decides; what is missing is found at the end.
-/

namespace EntityQuery.CommandLine

inductive Command
  | compile (entity filter : String) (strategy : Option Strategy)
  | select (entity filter : String) (columns : List String) (limit offset : Option Nat)
      (check : Bool)
  | chains (entity filter : String)
  | entities
deriving DecidableEq, Repr

def Command.filter? : Command → Option String
  | .compile _ filter _ | .select _ filter .. | .chains _ filter => some filter
  | .entities => none

def filePath? (arg : String) : Option String :=
  match arg.toList with
  | '@' :: path => some (String.ofList path)
  | _ => none

def Command.filterPath? (c : Command) : Option String :=
  c.filter?.bind filePath?

structure Invocation where
  config : Option String
  registry : Option String
  command : Command
deriving DecidableEq, Repr

inductive Stop
  | misuse | help | version
deriving DecidableEq, Repr

inductive Flag
  | config | registry | algorithm | columns | limit | offset | check | help | version
deriving DecidableEq, Repr

namespace Flag

def long : Flag → String
  | config => "config"
  | registry => "registry"
  | algorithm => "algorithm"
  | columns => "columns"
  | limit => "limit"
  | offset => "offset"
  | check => "check"
  | help => "help"
  | version => "version"

def short? : Flag → Option Char
  | algorithm => some 'a'
  | columns => some 'c'
  | help => some 'h'
  | version => some 'V'
  | _ => none

def takesValue : Flag → Bool
  | check | help | version => false
  | _ => true

end Flag

inductive Scope
  | top | compile | select | chains | entities
deriving DecidableEq, Repr

namespace Scope

def commands : List Scope := [compile, select, chains, entities]

def name : Scope → String
  | top => ""
  | compile => "compile"
  | select => "select"
  | chains => "chains"
  | entities => "entities"

def ofName? (s : String) : Option Scope :=
  commands.find? (·.name == s)

def flags : Scope → List Flag
  | top => [.config, .registry, .help, .version]
  | compile => [.config, .registry, .help, .algorithm]
  | select => [.config, .registry, .help, .columns, .limit, .offset, .check]
  | chains | entities => [.config, .registry, .help]

def arity : Scope → Nat
  | top | entities => 0
  | compile | select | chains => 2

end Scope

structure Draft where
  config : Option String := none
  registry : Option String := none
  strategy : Option Strategy := none
  columns : List String := []
  limit : Option Nat := none
  offset : Option Nat := none
  check : Bool := false
  positionals : List String := []

def natOfText? (s : String) : Option Nat :=
  let ds := match s.toList with
    | '+' :: rest => rest
    | cs => cs
  if ds.isEmpty ∨ ¬ ds.all Char.isDigit then none
  else
    let n := Decimal.ofDigits ds
    if n < twoTo 64 then some n else none

def once (old : Option α) (new : Option α) : Option (Option α) :=
  match old, new with
  | none, some a => some (some a)
  | _, _ => none

def pathOfText? (s : String) : Option String :=
  if s = "" then none else some s

namespace Draft

def set (d : Draft) (value : String) : Flag → Option Draft
  | .config => (once d.config (pathOfText? value)).map fun config => { d with config }
  | .registry => (once d.registry (pathOfText? value)).map fun registry => { d with registry }
  | .algorithm => (once d.strategy (Strategy.ofName? value)).map fun strategy => { d with strategy }
  | .columns => some { d with columns := d.columns ++ value.splitOn "," }
  | .limit => (once d.limit (natOfText? value)).map fun limit => { d with limit }
  | .offset => (once d.offset (natOfText? value)).map fun offset => { d with offset }
  | .check => if d.check then none else some { d with check := true }
  | .help | .version => none

def add (d : Draft) (arg : String) (arity : Nat) : Option Draft :=
  if d.positionals.length < arity then some { d with positionals := d.positionals ++ [arg] }
  else none

end Draft

inductive Word
  | plain
  | flag (f : Flag) (attached : Option String)
  | endOfFlags
  | unknown

def attachedTo : List Char → Option String
  | '=' :: rest => some (String.ofList rest)
  | _ => none

def Scope.long? (s : Scope) (cs : List Char) : Option Flag :=
  s.flags.find? (·.long == String.ofList (cs.takeWhile (· ≠ '=')))

def Scope.short? (s : Scope) (c : Char) : Option Flag :=
  s.flags.find? (·.short? == some c)

def Scope.classify (s : Scope) (arg : String) : Word :=
  match arg.toList with
  | ['-', '-'] => .endOfFlags
  | '-' :: '-' :: cs =>
      match s.long? cs with
      | some f =>
          let attached := attachedTo (cs.dropWhile (· ≠ '='))
          if f.takesValue ∨ attached.isNone then .flag f attached else .unknown
      | none => .unknown
  | ['-'] => .plain
  | '-' :: c :: cs =>
      match s.short? c with
      | some f =>
          if cs.isEmpty then .flag f none
          else .flag f (some ((attachedTo cs).getD (String.ofList cs)))
      | none => .unknown
  | _ => .plain

def looksLikeFlag (arg : String) : Bool :=
  match arg.toList with
  | '-' :: _ :: _ => true
  | _ => false

def orMisuse : Option α → Except Stop α
  | some a => .ok a
  | none => .error .misuse

def Scope.read (s : Scope) (d : Draft) : List String → Except Stop (Draft × List String)
  | [] => .ok (d, [])
  | arg :: rest =>
      match s.classify arg with
      | .unknown => .error .misuse
      | .flag .help _ => .error .help
      | .flag .version _ => .error .version
      | .flag f (some value) => do
          let d ← orMisuse (d.set value f)
          s.read d rest
      | .flag f none =>
          if f.takesValue then
            match rest with
            | [] => .error .misuse
            | value :: rest => do
                if looksLikeFlag value then .error .misuse
                else
                  let d ← orMisuse (d.set value f)
                  s.read d rest
          else do
            let d ← orMisuse (d.set "" f)
            s.read d rest
      | .endOfFlags => do
          if s = .top then .error .misuse
          else
            let d ← orMisuse (rest.foldlM (fun d arg => d.add arg s.arity) d)
            .ok (d, [])
      | .plain => do
          if s = .top then .ok (d, arg :: rest)
          else
            let d ← orMisuse (d.add arg s.arity)
            s.read d rest

def Draft.command? (d : Draft) (s : Scope) : Option Command :=
  match s, d.positionals with
  | .compile, [entity, filter] => some (.compile entity filter d.strategy)
  | .select, [entity, filter] =>
      some (.select entity filter d.columns d.limit d.offset d.check)
  | .chains, [entity, filter] => some (.chains entity filter)
  | .entities, [] => some .entities
  | _, _ => none

def helpOn : List String → Stop
  | [] => .help
  | [topic] => if topic = "help" ∨ (Scope.ofName? topic).isSome then .help else .misuse
  | _ => .misuse

/-- The invocation that the arguments spell. Where a path is given both before and behind the command, the
one behind counts. -/
def parse (args : List String) : Except Stop Invocation := do
  let (outer, rest) ← Scope.top.read {} args
  match rest with
  | [] => .error .misuse
  | name :: rest =>
      match Scope.ofName? name with
      | none => .error (if name = "help" then helpOn rest else .misuse)
      | some s =>
          let (inner, _) ← s.read {} rest
          let command ← orMisuse (inner.command? s)
          .ok { config := inner.config.or outer.config
                registry := inner.registry.or outer.registry
                command }

end EntityQuery.CommandLine
