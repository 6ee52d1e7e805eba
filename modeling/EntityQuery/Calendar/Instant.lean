import EntityQuery.Calendar.Date
import EntityQuery.Decimal.Digits

/-!
Instants in universal time and the one text they are written in, `YYYY-MM-DDTHH:MM:SS.mmmZ`. An
instant inside a leap second has the second before it and a nanosecond part of a thousand million
or more, and is written with second 60.
-/

namespace EntityQuery

structure Instant where
  seconds : Int
  nanos : Nat
deriving DecidableEq, Repr

namespace Instant

def nanosPerSecond : Nat := 1000000000

def secondsPerDay : Int := 86400

def date (t : Instant) : Date :=
  Date.ofDays (t.seconds / secondsPerDay)

def secondOfDay (t : Instant) : Nat :=
  (t.seconds % secondsPerDay).toNat

def second (t : Instant) : Nat :=
  t.secondOfDay % 60 + if nanosPerSecond ≤ t.nanos then 1 else 0

def millis (t : Instant) : Nat :=
  t.nanos % nanosPerSecond / 1000000

def yearText (year : Int) : List Char :=
  if 0 ≤ year ∧ year ≤ 9999 then Decimal.padded 4 year.toNat
  else (if year < 0 then '-' else '+') :: Decimal.padded 4 year.natAbs

def chars (t : Instant) : List Char :=
  let d := t.date
  yearText d.year ++ '-' :: Decimal.padded 2 d.month ++ '-' :: Decimal.padded 2 d.day ++
    'T' :: Decimal.padded 2 (t.secondOfDay / 3600) ++
    ':' :: Decimal.padded 2 (t.secondOfDay / 60 % 60) ++ ':' :: Decimal.padded 2 t.second ++
    '.' :: Decimal.padded 3 t.millis ++ ['Z']

def text (t : Instant) : String :=
  String.ofList t.chars

end Instant

end EntityQuery
