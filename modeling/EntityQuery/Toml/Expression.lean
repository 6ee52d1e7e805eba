import EntityQuery.Toml.Number
import EntityQuery.Toml.Quoted
import EntityQuery.Toml.Members

/-!
The expressions of a TOML document, one a line: a key with a value, the header of a table, or the
header of the next table of an array. Keys may be dotted into paths.
-/

namespace EntityQuery.Toml

inductive Expression
  | assign (path : List String) (value : Value)
  | table (path : List String)
  | element (path : List String)

def skipSpace (cs : List Char) : List Char :=
  cs.dropWhile isSpace

def isBareKeyChar (c : Char) : Bool :=
  c.isAlphanum || c = '_' || c = '-'

def key? (cs : List Char) : Option (String × List Char) :=
  match lineString? cs with
  | some found => some found
  | none =>
      let (bare, rest) := cs.span isBareKeyChar
      if bare.isEmpty then none else some (String.ofList bare, rest)

def path? : Nat → List Char → Option (List String × List Char)
  | 0, _ => none
  | fuel + 1, cs => do
      let (key, rest) ← key? (skipSpace cs)
      match skipSpace rest with
      | '.' :: rest =>
          let (keys, rest) ← path? fuel rest
          some (key :: keys, rest)
      | rest => some ([key], rest)

def skipComment? (cs : List Char) : Option (List Char) :=
  match cs with
  | '#' :: rest =>
      let rest := rest.dropWhile isPlain
      if rest.isEmpty ∨ (newline? rest).isSome then some rest else none
  | cs => some cs

def skipLines? : Nat → List Char → Option (List Char)
  | 0, _ => none
  | fuel + 1, cs => do
      let rest ← skipComment? (skipSpace cs)
      match newline? rest with
      | some rest => skipLines? fuel rest
      | none => some rest

def isWordChar (c : Char) : Bool :=
  isPlain c && ! isSpace c && ! [',', ']', '\x7d', '#', '=', '[', '\x7b', '"', '\''].contains c

def bareWord (cs : List Char) : List Char × List Char :=
  let (word, rest) := cs.span isWordChar
  match rest with
  | ' ' :: c :: more =>
      if c.isDigit ∧ afterDate? word = some [] then
        let (time, rest) := (c :: more).span isWordChar
        (word ++ ' ' :: time, rest)
      else (word, rest)
  | rest => (word, rest)

mutual

def value? (depth : Nat) : Nat → List Char → Option (Value × List Char)
  | 0, _ => none
  | fuel + 1, cs =>
      match cs with
      | '[' :: rest =>
          if depth = 0 then none
          else (elements? (depth - 1) fuel rest).map fun (vs, rest) => (.array vs, rest)
      | '\x7b' :: rest =>
          if depth = 0 then none
          else (inline? (depth - 1) [] fuel rest).map fun (ms, rest) =>
            (.table (Node.membersValue ms), rest)
      | '"' :: _ | '\'' :: _ => (string? cs).map fun (s, rest) => (.string s, rest)
      | cs =>
          let (word, rest) := bareWord cs
          (word? word).map fun v => (v, rest)

def elements? (depth : Nat) : Nat → List Char → Option (List Value × List Char)
  | 0, _ => none
  | fuel + 1, cs => do
      let cs ← skipLines? (cs.length + 1) cs
      match cs with
      | ']' :: rest => some ([], rest)
      | cs =>
          let (v, rest) ← value? depth fuel cs
          let rest ← skipLines? (rest.length + 1) rest
          match rest with
          | ',' :: rest =>
              let (vs, rest) ← elements? depth fuel rest
              some (v :: vs, rest)
          | ']' :: rest => some ([v], rest)
          | _ => none

def inline? (depth : Nat) (found : Members) : Nat → List Char → Option (Members × List Char)
  | 0, _ => none
  | fuel + 1, cs => do
      let cs ← skipLines? (cs.length + 1) cs
      match cs with
      | '\x7d' :: rest => some (found, rest)
      | cs =>
          let (path, rest) ← path? (cs.length + 1) cs
          match rest with
          | '=' :: rest =>
              let (v, rest) ← value? depth fuel (skipSpace rest)
              let found ← Members.assign found v path
              let rest ← skipLines? (rest.length + 1) rest
              match rest with
              | ',' :: rest => inline? depth found fuel rest
              | '\x7d' :: rest => some (found, rest)
              | _ => none
          | _ => none

end

def maxDepth : Nat := 80

def expression? (cs : List Char) : Option (Expression × List Char) :=
  match cs with
  | '[' :: '[' :: rest => do
      let (path, rest) ← path? (rest.length + 1) rest
      match rest with
      | ']' :: ']' :: rest => some (.element path, rest)
      | _ => none
  | '[' :: rest => do
      let (path, rest) ← path? (rest.length + 1) rest
      match rest with
      | ']' :: rest => some (.table path, rest)
      | _ => none
  | cs => do
      let (path, rest) ← path? (cs.length + 1) cs
      match rest with
      | '=' :: rest =>
          let (v, rest) ← value? maxDepth (2 * rest.length + 2) (skipSpace rest)
          some (.assign path v, rest)
      | _ => none

def expressions? : Nat → List Char → Option (List Expression)
  | 0, _ => none
  | fuel + 1, cs => do
      let cs ← skipLines? (cs.length + 1) cs
      if cs.isEmpty then some []
      else
        let (e, rest) ← expression? cs
        let rest ← skipComment? (skipSpace rest)
        if rest.isEmpty then some [e]
        else
          let rest ← newline? rest
          let others ← expressions? fuel rest
          some (e :: others)

end EntityQuery.Toml
