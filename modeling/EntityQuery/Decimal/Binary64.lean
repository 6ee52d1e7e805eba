import EntityQuery.Decimal.Power

/-!
Double precision numbers as exact data, and the nearest double of a decimal or a quotient.
A finite double is `± significand · 2 ^ exponent` in the one form with exponent at least `-1074`
and a significand below `2 ^ 53` that has all 53 bits unless the exponent is `-1074`.
-/

namespace EntityQuery

inductive Binary64
  | nan
  | infinite (negative : Bool)
  | finite (negative : Bool) (significand : Nat) (exponent : Int)
deriving DecidableEq, Repr

namespace Binary64

def leastExponent : Int := -1074

def greatestExponent : Int := 971

def zero (negative : Bool) : Binary64 := finite negative 0 leastExponent

def isInfinite : Binary64 → Bool
  | infinite _ => true
  | _ => false

def divHalfEven (num den : Nat) : Nat :=
  let q := num / den
  let r := num % den
  if 2 * r < den then q
  else if den < 2 * r then q + 1
  else q + q % 2

def significandAt (num den : Nat) (e : Int) : Nat :=
  if 0 ≤ e then divHalfEven num (den * twoTo e.toNat)
  else divHalfEven (num * twoTo (-e).toNat) den

def exponentFor (num den : Nat) : Int :=
  let e : Int := (num.log2 : Int) - (den.log2 : Int) - 53
  let wide :=
    if 0 ≤ e then den * twoTo (e.toNat + 53) ≤ num
    else den * twoTo 53 ≤ num * twoTo (-e).toNat
  max leastExponent (if wide then e + 1 else e)

def ofRatio (negative : Bool) (num den : Nat) : Binary64 :=
  if num = 0 then zero negative
  else
    let e := exponentFor num den
    let m := significandAt num den e
    let (m, e) := if m = twoTo 53 then (twoTo 52, e + 1) else (m, e)
    if greatestExponent < e then infinite negative else finite negative m e

/-- The double nearest to `digits · 10 ^ exponent`. Decimals beyond `10 ^ 310` are infinite and those
below `10 ^ (-330)` zero, which saves computing their powers. -/
def ofDecimal (negative : Bool) (digits : Nat) (exponent : Int) : Binary64 :=
  if digits = 0 then zero negative
  else
    let magnitude := ((Nat.toDigits 10 digits).length : Int) + exponent
    if 310 < magnitude then infinite negative
    else if magnitude < -330 then zero negative
    else if 0 ≤ exponent then ofRatio negative (digits * tenTo exponent.toNat) 1
    else ofRatio negative digits (tenTo (-exponent).toNat)

example : ofDecimal false 1 0 = finite false (twoTo 52) (-52) := by decide +kernel
example : ofDecimal true 5 (-324) = finite true 1 (-1074) := by decide +kernel
example : ofDecimal false 2 (-324) = zero false := by decide +kernel
example : ofDecimal false 9007199254740993 0 = finite false (twoTo 52) 1 := by decide +kernel
example : ofDecimal false 1 309 = infinite false := by decide +kernel

end Binary64

end EntityQuery
