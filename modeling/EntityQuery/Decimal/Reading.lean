import EntityQuery.Decimal.Binary64
import EntityQuery.Decimal.Digits

/-!
Doubles from the digits of a decimal, and from a text that may also name an infinity or NaN. The nearest double is
taken, but for a reader in haste, which rounds on the way.
-/

namespace EntityQuery.Binary64

def ofNumeral (negative : Bool) (whole places : List Char) (exponent : Int) : Binary64 :=
  ofDecimal negative (Decimal.ofDigits (whole ++ places)) (exponent - places.length)

def ofScaled (num den : Nat) (exponent : Int) : Binary64 :=
  if 0 ≤ exponent then ofRatio false (num * twoTo exponent.toNat) den
  else ofRatio false num (den * twoTo (-exponent).toNat)

def timesTenTo (x : Binary64) (k : Nat) : Binary64 :=
  match x, ofRatio false (tenTo k) 1 with
  | finite _ m e, finite _ m' e' => ofScaled (m * m') 1 (e + e')
  | _, other => other

def overTenTo (x : Binary64) (k : Nat) : Binary64 :=
  match x, ofRatio false (tenTo k) 1 with
  | finite _ m e, finite _ m' e' => ofScaled m m' (e - e')
  | other, _ => other

def greatestPower : Nat := 308

def overGreatestPowers : Nat → Binary64 → Binary64
  | 0, x => x
  | n + 1, x => if x = zero false then x else overGreatestPowers n (overTenTo x greatestPower)

def negate : Binary64 → Binary64
  | nan => nan
  | infinite negative => infinite (! negative)
  | finite negative m e => finite (! negative) m e

/-- What a reader in haste makes of `significand · 10 ^ exponent`: every step rounds, and what is beyond the doubles
is refused. -/
def ofParts? (negative : Bool) (significand : Nat) (exponent : Int) : Option Binary64 :=
  let x := ofRatio false significand 1
  let magnitude :=
    if 0 ≤ exponent then
      if exponent ≤ greatestPower then timesTenTo x exponent.toNat
      else if significand = 0 then x else infinite false
    else
      let k := (-exponent).toNat
      let steps := (k - 1) / greatestPower
      overTenTo (overGreatestPowers steps x) (k - steps * greatestPower)
  if magnitude.isInfinite then none
  else some (if negative then negate magnitude else magnitude)

example : ofParts? false 17976931348623158 292 = none := by decide +kernel
example : ofParts? true 15 (-1) = some (finite true (3 * twoTo 51) (-52)) := by decide +kernel
example : ofParts? false 1 (-100000) = some (zero false) := by decide +kernel

def exponentOfText? : List Char → Option Int
  | [] => some 0
  | c :: rest =>
      let (negative, ds) := match rest with
        | '-' :: ds => (true, ds)
        | '+' :: ds => (false, ds)
        | ds => (false, ds)
      if (c = 'e' ∨ c = 'E') ∧ ds ≠ [] ∧ ds.all Char.isDigit then
        some (if negative then -(Decimal.ofDigits ds : Int) else Decimal.ofDigits ds)
      else none

def ofUnsigned? (negative : Bool) (cs : List Char) : Option Binary64 := do
  let (whole, cs) := cs.span Char.isDigit
  let (places, cs) := match cs with
    | '.' :: rest => rest.span Char.isDigit
    | cs => ([], cs)
  if whole.isEmpty ∧ places.isEmpty then none
  else
    let e ← exponentOfText? cs
    some (ofNumeral negative whole places e)

def ofText? (s : String) : Option Binary64 :=
  let (negative, cs) := match s.toList with
    | '-' :: rest => (true, rest)
    | '+' :: rest => (false, rest)
    | cs => (false, cs)
  let name := String.ofList (cs.map Char.toLower)
  if name = "nan" then some nan
  else if name = "inf" ∨ name = "infinity" then some (infinite negative)
  else ofUnsigned? negative cs

end EntityQuery.Binary64
