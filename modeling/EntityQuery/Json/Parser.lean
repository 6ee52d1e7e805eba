import EntityQuery.Decimal.Reading
import EntityQuery.Json.Basic
import EntityQuery.Text.Hex

/-!
Reading JSON text: the strict grammar, with nothing before or after the value but blanks.
Containers nest at most 127 deep, a number is made with a rounding at every step, and one that comes out beyond
the doubles is refused.
-/

namespace EntityQuery.Json

def isBlank (c : Char) : Bool :=
  c = ' ' || c = '\t' || c = '\n' || c = '\r'

def skipBlanks (cs : List Char) : List Char :=
  cs.dropWhile isBlank

def escapedChar? : Char → Option Char
  | '"' => some '"'
  | '\\' => some '\\'
  | '/' => some '/'
  | 'b' => some '\x08'
  | 'f' => some '\x0c'
  | 'n' => some '\n'
  | 'r' => some '\r'
  | 't' => some '\t'
  | _ => none

def surrogatePair (high low : Nat) : Char :=
  Char.ofNat (0x10000 + (high - 0xd800) * 0x400 + (low - 0xdc00))

def stringBody : List Char → Option (List Char × List Char)
  | '"' :: rest => some ([], rest)
  | '\\' :: 'u' :: a :: b :: c :: d :: rest => do
      let unit ← ofHexDigits? [a, b, c, d]
      if 0xd800 ≤ unit ∧ unit ≤ 0xdbff then
        match rest with
        | '\\' :: 'u' :: a :: b :: c :: d :: rest =>
            let low ← ofHexDigits? [a, b, c, d]
            if 0xdc00 ≤ low ∧ low ≤ 0xdfff then
              let (body, rest) ← stringBody rest
              some (surrogatePair unit low :: body, rest)
            else none
        | _ => none
      else if 0xdc00 ≤ unit ∧ unit ≤ 0xdfff then none
      else
        let (body, rest) ← stringBody rest
        some (Char.ofNat unit :: body, rest)
  | '\\' :: c :: rest => do
      let c ← escapedChar? c
      let (body, rest) ← stringBody rest
      some (c :: body, rest)
  | c :: rest => do
      if c.toNat < 0x20 ∨ c = '\\' then none
      else
        let (body, rest) ← stringBody rest
        some (c :: body, rest)
  | [] => none

def ofInteger (negative : Bool) (n : Nat) : Json :=
  let i : Int := if negative then -n else n
  if (negative ∧ n = 0) ∨ ¬ inIntegerRange i then .float (.ofDecimal negative n 0)
  else .integer i

def fraction? : List Char → Option (List Char × List Char)
  | '.' :: rest =>
      let (ds, rest) := rest.span Char.isDigit
      if ds.isEmpty then none else some (ds, rest)
  | cs => some ([], cs)

def exponentDigits? (negative : Bool) (cs : List Char) : Option (Int × List Char) :=
  let (ds, rest) := cs.span Char.isDigit
  if ds.isEmpty then none
  else some (if negative then -(Decimal.ofDigits ds : Int) else Decimal.ofDigits ds, rest)

def exponent? : List Char → Option (Option Int × List Char)
  | c :: rest =>
      if c = 'e' ∨ c = 'E' then
        let read := match rest with
          | '-' :: rest => exponentDigits? true rest
          | '+' :: rest => exponentDigits? false rest
          | rest => exponentDigits? false rest
        read.map fun (e, rest) => (some e, rest)
      else some (none, c :: rest)
  | [] => some (none, [])

def accumulate (n : Nat) : List Char → Nat × List Char
  | [] => (n, [])
  | d :: ds =>
      let next := n * 10 + Decimal.digitValue d
      if next < twoTo 64 then accumulate next ds else (n, d :: ds)

/-- Digits of the whole part that are too many count for the power of ten, and those behind the point do not count. -/
def number? (cs : List Char) : Option (Json × List Char) := do
  let (negative, cs) := match cs with
    | '-' :: rest => (true, rest)
    | cs => (false, cs)
  let (whole, cs) := cs.span Char.isDigit
  if whole.isEmpty ∨ (1 < whole.length ∧ whole.head? = some '0') then none
  else
    let (places, cs) ← fraction? cs
    let (e, cs) ← exponent? cs
    let (n, beyond) := accumulate 0 whole
    let (significand, ignored) := accumulate n places
    if beyond.isEmpty ∧ places.isEmpty ∧ e.isNone then some (ofInteger negative n, cs)
    else
      let taken := places.length - ignored.length
      (Binary64.ofParts? negative significand (beyond.length - taken + e.getD 0)).map fun x => (.float x, cs)

mutual

/-- One value at the head of the text. Every step takes a character or opens a container, so fuel of
twice the length is never used up; `depth` is the number of containers that may still be opened. -/
def value? (depth : Nat) : Nat → List Char → Option (Json × List Char)
  | 0, _ => none
  | fuel + 1, cs =>
      match skipBlanks cs with
      | 'n' :: 'u' :: 'l' :: 'l' :: rest => some (.null, rest)
      | 't' :: 'r' :: 'u' :: 'e' :: rest => some (.bool true, rest)
      | 'f' :: 'a' :: 'l' :: 's' :: 'e' :: rest => some (.bool false, rest)
      | '"' :: rest => (stringBody rest).map fun (body, rest) => (.string (String.ofList body), rest)
      | '[' :: rest =>
          if depth = 0 then none
          else match skipBlanks rest with
            | ']' :: rest => some (.array [], rest)
            | rest => (elements? (depth - 1) fuel rest).map fun (es, rest) => (.array es, rest)
      | '{' :: rest =>
          if depth = 0 then none
          else match skipBlanks rest with
            | '}' :: rest => some (.object [], rest)
            | rest => (members? (depth - 1) [] fuel rest).map fun (ms, rest) => (.object ms, rest)
      | cs => number? cs

def elements? (depth : Nat) : Nat → List Char → Option (List Json × List Char)
  | 0, _ => none
  | fuel + 1, cs => do
      let (first, rest) ← value? depth fuel cs
      match skipBlanks rest with
      | ',' :: rest =>
          let (others, rest) ← elements? depth fuel rest
          some (first :: others, rest)
      | ']' :: rest => some ([first], rest)
      | _ => none

def members? (depth : Nat) (found : List (String × Json)) :
    Nat → List Char → Option (List (String × Json) × List Char)
  | 0, _ => none
  | fuel + 1, cs =>
      match skipBlanks cs with
      | '"' :: rest => do
          let (key, rest) ← stringBody rest
          match skipBlanks rest with
          | ':' :: rest =>
              let (v, rest) ← value? depth fuel rest
              let found := setMember (String.ofList key) v found
              match skipBlanks rest with
              | ',' :: rest => members? depth found fuel rest
              | '}' :: rest => some (found, rest)
              | _ => none
          | _ => none
      | _ => none

end

def maxDepth : Nat := 127

def parse (text : String) : Option Json := do
  let cs := text.toList
  let (v, rest) ← value? maxDepth (2 * cs.length + 2) cs
  if (skipBlanks rest).isEmpty then some v else none

end EntityQuery.Json
