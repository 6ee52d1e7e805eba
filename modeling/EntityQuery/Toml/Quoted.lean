import EntityQuery.Text.Hex

/-!
Quoted text in TOML: basic strings with escapes and literal strings without, on one line or several.
-/

namespace EntityQuery.Toml

def isPlain (c : Char) : Bool :=
  c = '\t' || (0x20 ≤ c.toNat && c.toNat ≠ 0x7f)

def isSpace (c : Char) : Bool :=
  c = ' ' || c = '\t'

def newline? : List Char → Option (List Char)
  | '\n' :: rest => some rest
  | '\r' :: '\n' :: rest => some rest
  | _ => none

def codePoint? (ds : List Char) : Option Char := do
  let n ← ofHexDigits? ds
  if n.isValidChar then some (Char.ofNat n) else none

def hexEscape? (width : Nat) (cs : List Char) : Option (Char × List Char) :=
  let ds := cs.take width
  if ds.length < width then none
  else (codePoint? ds).map fun c => (c, cs.drop width)

def escape? : List Char → Option (Char × List Char)
  | '"' :: rest => some ('"', rest)
  | '\\' :: rest => some ('\\', rest)
  | 'b' :: rest => some ('\x08', rest)
  | 'e' :: rest => some ('\x1b', rest)
  | 'f' :: rest => some ('\x0c', rest)
  | 'n' :: rest => some ('\n', rest)
  | 'r' :: rest => some ('\r', rest)
  | 't' :: rest => some ('\t', rest)
  | 'x' :: rest => hexEscape? 2 rest
  | 'u' :: rest => hexEscape? 4 rest
  | 'U' :: rest => hexEscape? 8 rest
  | _ => none

def continuation? (cs : List Char) : Option (List Char) :=
  (newline? (cs.dropWhile isSpace)).map fun rest =>
    rest.dropWhile fun c => isSpace c || c = '\n' || c = '\r'

def basicBody? (fuel : Nat) (cs : List Char) : Option (List Char × List Char) :=
  match fuel with
  | 0 => none
  | fuel + 1 =>
      match cs with
      | '"' :: rest => some ([], rest)
      | '\\' :: rest => do
          let (c, rest) ← escape? rest
          let (body, rest) ← basicBody? fuel rest
          some (c :: body, rest)
      | c :: rest =>
          if isPlain c then (basicBody? fuel rest).map fun (body, rest) => (c :: body, rest)
          else none
      | [] => none

def literalBody? : List Char → Option (List Char × List Char)
  | '\'' :: rest => some ([], rest)
  | c :: rest =>
      if isPlain c then (literalBody? rest).map fun (body, rest) => (c :: body, rest) else none
  | [] => none

def closing? (quote : Char) (cs : List Char) : Option (List Char × List Char) :=
  let run := (cs.take 5).takeWhile (· = quote)
  if run.length < 3 then none
  else some (run.drop 3, cs.drop run.length)

def basicLines? (fuel : Nat) (cs : List Char) : Option (List Char × List Char) :=
  match fuel with
  | 0 => none
  | fuel + 1 =>
      match closing? '"' cs with
      | some done => some done
      | none =>
          match cs with
          | '\\' :: rest =>
              match continuation? rest with
              | some rest => basicLines? fuel rest
              | none => do
                  let (c, rest) ← escape? rest
                  let (body, rest) ← basicLines? fuel rest
                  some (c :: body, rest)
          | '\r' :: '\n' :: rest =>
              (basicLines? fuel rest).map fun (body, rest) => ('\r' :: '\n' :: body, rest)
          | c :: rest =>
              if isPlain c ∨ c = '\n' then
                (basicLines? fuel rest).map fun (body, rest) => (c :: body, rest)
              else none
          | [] => none

def literalLines? (fuel : Nat) (cs : List Char) : Option (List Char × List Char) :=
  match fuel with
  | 0 => none
  | fuel + 1 =>
      match closing? '\'' cs with
      | some done => some done
      | none =>
          match cs with
          | '\r' :: '\n' :: rest =>
              (literalLines? fuel rest).map fun (body, rest) => ('\r' :: '\n' :: body, rest)
          | c :: rest =>
              if isPlain c ∨ c = '\n' then
                (literalLines? fuel rest).map fun (body, rest) => (c :: body, rest)
              else none
          | [] => none

def dropNewline (cs : List Char) : List Char :=
  (newline? cs).getD cs

def lineString? : List Char → Option (String × List Char)
  | '"' :: rest =>
      (basicBody? (rest.length + 1) rest).map fun (body, rest) => (String.ofList body, rest)
  | '\'' :: rest => (literalBody? rest).map fun (body, rest) => (String.ofList body, rest)
  | _ => none

def string? : List Char → Option (String × List Char)
  | '"' :: '"' :: '"' :: rest =>
      (basicLines? (rest.length + 1) (dropNewline rest)).map fun (body, rest) =>
        (String.ofList body, rest)
  | '\'' :: '\'' :: '\'' :: rest =>
      (literalLines? (rest.length + 1) (dropNewline rest)).map fun (body, rest) =>
        (String.ofList body, rest)
  | cs => lineString? cs

end EntityQuery.Toml
