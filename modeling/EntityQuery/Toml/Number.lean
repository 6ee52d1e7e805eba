import EntityQuery.Calendar.Date
import EntityQuery.Decimal.Reading
import EntityQuery.Text.Hex
import EntityQuery.Text.Scan
import EntityQuery.Toml.Value

/-!
Numbers and date-times in TOML. Underscores may stand between digits, integers take a base other than
ten only without a sign, and the numbers of a date-time have fixed widths.
-/

namespace EntityQuery.Toml

open Scan

def digitGroups? (isDigit : Char → Bool) : List Char → Option (List Char)
  | [] => none
  | [c] => if isDigit c then some [c] else none
  | c :: '_' :: rest => if isDigit c then (digitGroups? isDigit rest).map (c :: ·) else none
  | c :: d :: rest => if isDigit c then (digitGroups? isDigit (d :: rest)).map (c :: ·) else none

def isHexDigit (c : Char) : Bool :=
  (hexDigit? c).isSome

def ofBase (base : Nat) (ds : List Char) : Nat :=
  ds.foldl (fun n c => n * base + (hexDigit? c).getD 0) 0

def decimal? (cs : List Char) : Option (List Char) := do
  let ds ← digitGroups? Char.isDigit cs
  if 1 < ds.length ∧ ds.head? = some '0' then none else some ds

def sign (cs : List Char) : Bool × List Char :=
  match cs with
  | '-' :: rest => (true, rest)
  | '+' :: rest => (false, rest)
  | rest => (false, rest)

def integer? (negative : Bool) (n : Nat) : Option Value :=
  if negative then if n ≤ twoTo 127 then some (.integer (-n)) else none
  else if n < twoTo 128 then some (.integer n) else none

def isDigitOrMark (c : Char) : Bool :=
  c.isDigit || c = '_'

def places? : List Char → Option (List Char × List Char)
  | '.' :: rest =>
      let (ds, rest) := rest.span isDigitOrMark
      (digitGroups? Char.isDigit ds).map fun ds => (ds, rest)
  | cs => some ([], cs)

def exponent? : List Char → Option Int
  | [] => some 0
  | c :: rest =>
      if c = 'e' ∨ c = 'E' then
        let (negative, ds) := sign rest
        (digitGroups? Char.isDigit ds).map fun ds =>
          if negative then -(Decimal.ofDigits ds : Int) else Decimal.ofDigits ds
      else none

def decimalNumber? (negative : Bool) (cs : List Char) : Option Value := do
  let (whole, rest) := cs.span isDigitOrMark
  let whole ← decimal? whole
  if rest.isEmpty then integer? negative (Decimal.ofDigits whole)
  else
    let (places, rest) ← places? rest
    let e ← exponent? rest
    let x := Binary64.ofNumeral negative whole places e
    if x.isInfinite then none else some (.float x)

def numeric? (cs : List Char) : Option Value :=
  match cs with
  | '0' :: 'x' :: ds => (digitGroups? isHexDigit ds).bind fun ds => integer? false (ofBase 16 ds)
  | '0' :: 'o' :: ds =>
      (digitGroups? (fun c => '0' ≤ c && c ≤ '7') ds).bind fun ds => integer? false (ofBase 8 ds)
  | '0' :: 'b' :: ds =>
      (digitGroups? (fun c => c = '0' || c = '1') ds).bind fun ds => integer? false (ofBase 2 ds)
  | cs =>
      let (negative, rest) := sign cs
      match rest with
      | ['i', 'n', 'f'] => some (.float (.infinite negative))
      | ['n', 'a', 'n'] => some (.float .nan)
      | rest => decimalNumber? negative rest

def afterDate? (cs : List Char) : Option (List Char) := do
  let (year, cs) ← number? 4 4 cs
  let cs ← expect '-' cs
  let (month, cs) ← number? 2 2 cs
  let cs ← expect '-' cs
  let (day, cs) ← number? 2 2 cs
  if 1 ≤ month ∧ month ≤ 12 ∧ 1 ≤ day ∧ day ≤ Date.daysInMonth year month then some cs else none

def afterSeconds? : List Char → Option (List Char)
  | ':' :: cs => do
      let (second, cs) ← number? 2 2 cs
      if 60 < second then none
      else match cs with
        | '.' :: rest =>
            let rest' := rest.dropWhile Char.isDigit
            if rest'.length < rest.length then some rest' else none
        | cs => some cs
  | cs => some cs

def afterTime? (cs : List Char) : Option (List Char) := do
  let (hour, cs) ← number? 2 2 cs
  let cs ← expect ':' cs
  let (minute, cs) ← number? 2 2 cs
  if 23 < hour ∨ 59 < minute then none else afterSeconds? cs

def isOffset (cs : List Char) : Bool :=
  match cs with
  | ['Z'] | ['z'] => true
  | c :: rest =>
      (c = '+' || c = '-') && (do
        let (hour, rest) ← number? 2 2 rest
        let rest ← expect ':' rest
        let (minute, rest) ← number? 2 2 rest
        if hour ≤ 23 ∧ minute ≤ 59 ∧ rest.isEmpty then some () else none).isSome
  | [] => false

def isDateTime (cs : List Char) : Bool :=
  match afterTime? cs, afterDate? cs with
  | some rest, _ => rest.isEmpty
  | none, none => false
  | none, some [] => true
  | none, some (c :: time) =>
      (c = 'T' || c = 't' || c = ' ') &&
        match afterTime? time with
        | some rest => rest.isEmpty || isOffset rest
        | none => false

def word? (cs : List Char) : Option Value :=
  match cs with
  | ['t', 'r', 'u', 'e'] => some (.boolean true)
  | ['f', 'a', 'l', 's', 'e'] => some (.boolean false)
  | cs => if isDateTime cs then some (.dateTime (String.ofList cs)) else numeric? cs

end EntityQuery.Toml
