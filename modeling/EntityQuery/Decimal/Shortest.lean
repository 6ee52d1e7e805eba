import EntityQuery.Decimal.Binary64

/-!
The fewest decimal digits that read back as a given double.
For a grid of powers of ten only the two neighbours of the value on it are tried: if some point of
the grid reads back as the value, then one of these does.
-/

namespace EntityQuery.Binary64

structure Span where
  lower : Nat
  value : Nat
  upper : Nat
  den : Nat
  closed : Bool
deriving DecidableEq, Repr

def span (significand : Nat) (exponent : Int) : Span :=
  let edge := significand = twoTo 52 ∧ leastExponent < exponent
  let lower := if edge then 4 * significand - 1 else 4 * significand - 2
  let unit := twoTo (exponent - 2).toNat
  { lower := lower * unit
    value := 4 * significand * unit
    upper := (4 * significand + 2) * unit
    den := twoTo (2 - exponent).toNat
    closed := significand % 2 = 0 }

def Span.shift (s : Span) (k : Int) : Span :=
  let up := tenTo (-k).toNat
  { lower := s.lower * up
    value := s.value * up
    upper := s.upper * up
    den := s.den * tenTo k.toNat
    closed := s.closed }

def Span.contains (s : Span) (n : Nat) : Bool :=
  let x := n * s.den
  if s.closed then s.lower ≤ x && x ≤ s.upper else s.lower < x && x < s.upper

inductive Tie
  | up | even
deriving DecidableEq, Repr

def Tie.prefersBelow (tie : Tie) (below rest den : Nat) : Bool :=
  2 * rest < den || (2 * rest = den && tie = .even && below % 2 = 0)

def Span.nearest? (s : Span) (tie : Tie) : Option Nat :=
  let below := s.value / s.den
  let candidates :=
    if tie.prefersBelow below (s.value % s.den) s.den then [below, below + 1]
    else [below + 1, below]
  candidates.find? s.contains

def Span.magnitude (s : Span) : Int :=
  ((Nat.toDigits 10 (s.value * tenTo 400 / s.den)).length : Int) - 400

def trimZeros : Nat → Nat × Int → Nat × Int
  | 0, d => d
  | fuel + 1, (digits, exponent) =>
      if digits ≠ 0 ∧ digits % 10 = 0 then trimZeros fuel (digits / 10, exponent + 1)
      else (digits, exponent)

/-- The shortest decimal `digits · 10 ^ exponent` that rounds to `significand · 2 ^ exponent`, and of
those the nearest. Seventeen digits always suffice. -/
def shortest (tie : Tie) (significand : Nat) (exponent : Int) : Nat × Int :=
  if significand = 0 then (0, 0)
  else
    let s := span significand exponent
    let d := s.magnitude
    let hit := (List.range 17).findSome? fun (n : Nat) =>
      let k := d - ((n : Int) + 1)
      ((s.shift k).nearest? tie).map fun digits => (digits, k)
    trimZeros 20 (hit.getD (0, 0))

example : shortest .even (twoTo 52) (-52) = (1, 0) := by decide +kernel
example : shortest .even 1 (-1074) = (5, -324) := by decide +kernel
example : shortest .even (twoTo 53 - 1) 971 = (17976931348623157, 292) := by decide +kernel
example : shortest .even 4985626083961782 (-3) = (6232032604952228, -1) := by decide +kernel
example : shortest .even 4985626083961778 (-3) = (6232032604952222, -1) := by decide +kernel
example : shortest .up 4985626083961778 (-3) = (6232032604952223, -1) := by decide +kernel
example : shortest .even 7205759403792794 (-56) = (1, -1) := by decide +kernel

end EntityQuery.Binary64
