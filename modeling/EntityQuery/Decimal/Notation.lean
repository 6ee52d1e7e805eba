import EntityQuery.Decimal.Digits
import EntityQuery.Decimal.Shortest

/-!
How doubles are written: positionally in SQL literals, and in JSON positionally near one and
with an exponent elsewhere. Both write the fewest digits that read back.
-/

namespace EntityQuery

namespace Decimal

def zeros (n : Nat) : String :=
  String.ofList (List.replicate n '0')

def positional (coefficient : Nat) (exponent : Int) : String :=
  let ds := Decimal.digits coefficient
  if 0 ≤ exponent then String.ofList ds ++ zeros exponent.toNat
  else
    let places := (-exponent).toNat
    if places < ds.length then
      String.ofList (ds.take (ds.length - places)) ++ "." ++
        String.ofList (ds.drop (ds.length - places))
    else "0." ++ zeros (places - ds.length) ++ String.ofList ds

def scientific (coefficient : Nat) (exponent : Int) : String :=
  let ds := Decimal.digits coefficient
  let e := exponent + ds.length - 1
  let point := if ds.length ≤ 1 then "" else "."
  String.ofList (ds.take 1) ++ point ++ String.ofList (ds.drop 1) ++ "e" ++
    (if e < 0 then "-" else "+") ++ String.ofList (digits e.natAbs)

end Decimal

namespace Binary64

def signText (negative : Bool) : String :=
  if negative then "-" else ""

/-- The text of a double in SQL: never an exponent, and no point after an integer. Of two shortest
decimals that are equally near the larger is written. -/
def positionalText : Binary64 → String
  | nan => "NaN"
  | infinite negative => signText negative ++ "inf"
  | finite negative m e =>
      let (coefficient, exponent) := shortest .up m e
      signText negative ++ Decimal.positional coefficient exponent

/-- The text of a double in JSON, where NaN and the infinities have none and are null. From `10 ^ (-5)` up
to `10 ^ 16` it is positional and always has a point. Of two shortest decimals that are equally
near the even one is written. -/
def jsonText : Binary64 → String
  | nan => "null"
  | infinite _ => "null"
  | finite negative m e =>
      let (coefficient, exponent) := shortest .even m e
      let magnitude := exponent + (Decimal.digits coefficient).length - 1
      signText negative ++
        if -5 ≤ magnitude ∧ magnitude ≤ 15 then
          Decimal.positional coefficient exponent ++ if 0 ≤ exponent then ".0" else ""
        else Decimal.scientific coefficient exponent

end Binary64

end EntityQuery
