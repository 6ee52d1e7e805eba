/-!
What a run can see of its surroundings: the files that paths lead to, the environment, and the
directory of the user's configuration.
-/

namespace EntityQuery

inductive PathEntry
  | missing
  | blocked
  | directory
  | file (text : Option String)
deriving DecidableEq, Repr

inductive ReadFault
  | missing | blocked | isDirectory | notText
deriving DecidableEq, Repr

def ReadFault.reason : ReadFault → String
  | missing => "No such file or directory (os error 2)"
  | blocked => "Not a directory (os error 20)"
  | isDirectory => "Is a directory (os error 21)"
  | notText => "stream did not contain valid UTF-8"

structure World where
  look : String → PathEntry
  getVariable : String → Option String
  configHome : Option String

namespace World

def read (w : World) (path : String) : Except ReadFault String :=
  match w.look path with
  | .missing => .error .missing
  | .blocked => .error .blocked
  | .directory => .error .isDirectory
  | .file none => .error .notText
  | .file (some text) => .ok text

def hasEntry (w : World) (path : String) : Bool :=
  match w.look path with
  | .missing | .blocked => false
  | .directory | .file _ => true

def isFile (w : World) (path : String) : Bool :=
  match w.look path with
  | .file _ => true
  | _ => false

end World

end EntityQuery
