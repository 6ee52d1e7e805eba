import EntityQuery.World

/-!
Trees of files in memory, and where paths lead in them. A place is the way down from the root; a path that does not
begin with a slash starts in the working directory.
-/

namespace EntityQuery

structure FileTree where
  files : List (List String × Option String)
  directories : List (List String) := []
  workingDirectory : List String := []
deriving DecidableEq, Repr

namespace FileTree

def steps (path : String) : List String :=
  (path.toList.splitOn '/').map String.ofList

def entryAt (t : FileTree) (place : List String) : PathEntry :=
  match t.files.lookup place with
  | some text => .file text
  | none => if place = [] ∨ place ∈ t.directories then .directory else .missing

def move (place : List String) (step : String) : List String :=
  if step = "" ∨ step = "." then place
  else if step = ".." then place.dropLast
  else place ++ [step]

def follow (t : FileTree) (place : List String) : List String → PathEntry
  | [] => t.entryAt place
  | step :: rest =>
      match t.entryAt place with
      | .directory => t.follow (move place step) rest
      | .file _ => .blocked
      | other => other

def start (t : FileTree) (path : String) : List String :=
  if path.startsWith "/" then [] else t.workingDirectory

def look (t : FileTree) (path : String) : PathEntry :=
  if path = "" then .missing else t.follow (t.start path) (steps path)

def world (t : FileTree) (environment : List (String × String)) (configHome : Option String) : World where
  look := t.look
  getVariable name := environment.lookup name
  configHome

end FileTree

end EntityQuery
