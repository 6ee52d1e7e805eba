import EntityQuery.Calendar.Instant
import EntityQuery.Decimal.Power
import EntityQuery.Text.Blank
import EntityQuery.Text.Scan

/-!
The three forms in which a date may be given: a timestamp with an offset, a timestamp in universal
time, and a bare date, which means its midnight. The first is strict; the other two admit blanks
before each number, short numbers and signed years.
-/

namespace EntityQuery

structure CivilTime where
  date : Date
  hour : Nat
  minute : Nat
  second : Nat
  nanos : Nat
deriving DecidableEq, Repr

namespace CivilTime

def isValid (t : CivilTime) : Bool :=
  t.date.isValid ∧ t.hour ≤ 23 ∧ t.minute ≤ 59 ∧ t.second ≤ 60

def instant (t : CivilTime) (offset : Int) : Instant :=
  let ofDay := (t.hour * 60 + t.minute) * 60 + min t.second 59
  { seconds := t.date.toDays * Instant.secondsPerDay + ofDay - offset
    nanos := t.nanos + if t.second = 60 then Instant.nanosPerSecond else 0 }

def instant? (t : CivilTime) (offset : Int) : Option Instant :=
  if t.isValid then some (t.instant offset) else none

end CivilTime

namespace DateText

open Scan

def fraction? : List Char → Option (Nat × List Char)
  | '.' :: rest =>
      let ds := rest.takeWhile Char.isDigit
      if ds.isEmpty then none
      else
        let counted := ds.take 9
        some (Decimal.ofDigits counted * tenTo (9 - counted.length), rest.drop ds.length)
  | cs => some (0, cs)

def minusSign : Char := '\u2212'

def offset? : List Char → Option (Int × List Char)
  | c :: rest =>
      if c = 'Z' ∨ c = 'z' then some (0, rest)
      else if c = '+' ∨ c = '-' ∨ c = minusSign then do
        let (hours, rest) ← number? 2 2 rest
        let rest ← expect ':' rest
        let (minutes, rest) ← number? 2 2 rest
        if 23 < hours ∨ 59 < minutes then none
        else
          let seconds : Int := (hours * 60 + minutes) * 60
          some (if c = '+' then seconds else -seconds, rest)
      else none
  | [] => none

def separator? : List Char → Option (List Char)
  | c :: rest => if c = 'T' ∨ c = 't' ∨ c = ' ' then some rest else none
  | [] => none

def zoned? (cs : List Char) : Option Instant := do
  let (year, cs) ← number? 4 4 cs
  let cs ← expect '-' cs
  let (month, cs) ← number? 2 2 cs
  let cs ← expect '-' cs
  let (day, cs) ← number? 2 2 cs
  let cs ← separator? cs
  let (hour, cs) ← number? 2 2 cs
  let cs ← expect ':' cs
  let (minute, cs) ← number? 2 2 cs
  let cs ← expect ':' cs
  let (second, cs) ← number? 2 2 cs
  let (nanos, cs) ← fraction? cs
  let (offset, cs) ← offset? cs
  if cs.isEmpty then CivilTime.instant? ⟨⟨year, month, day⟩, hour, minute, second, nanos⟩ offset
  else none

def looseNumber? (cs : List Char) : Option (Nat × List Char) :=
  number? 1 2 (dropBlanks cs)

def looseYear? (cs : List Char) : Option (Int × List Char) :=
  match dropBlanks cs with
  | '-' :: rest => (number? 1 rest.length rest).map fun (n, rest) => (-n, rest)
  | '+' :: rest => (number? 1 rest.length rest).map fun (n, rest) => ((n : Int), rest)
  | rest => (number? 1 4 rest).map fun (n, rest) => ((n : Int), rest)

def looseDate? (cs : List Char) : Option (Date × List Char) := do
  let (year, cs) ← looseYear? cs
  let cs ← expect '-' cs
  let (month, cs) ← looseNumber? cs
  let cs ← expect '-' cs
  let (day, cs) ← looseNumber? cs
  some (⟨year, month, day⟩, cs)

def local? (cs : List Char) : Option Instant := do
  let (date, cs) ← looseDate? cs
  let cs ← expect 'T' cs
  let (hour, cs) ← looseNumber? cs
  let cs ← expect ':' cs
  let (minute, cs) ← looseNumber? cs
  let cs ← expect ':' cs
  let (second, cs) ← looseNumber? cs
  let (nanos, cs) ← fraction? cs
  if cs.isEmpty then CivilTime.instant? ⟨date, hour, minute, second, nanos⟩ 0 else none

def bare? (cs : List Char) : Option Instant := do
  let (date, cs) ← looseDate? cs
  if cs.isEmpty then CivilTime.instant? ⟨date, 0, 0, 0, 0⟩ 0 else none

end DateText

def Instant.ofText? (s : String) : Option Instant :=
  let cs := s.toList
  (DateText.zoned? cs).orElse fun _ => (DateText.local? cs).orElse fun _ => DateText.bare? cs

end EntityQuery
