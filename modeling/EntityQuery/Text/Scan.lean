import EntityQuery.Decimal.Digits

/-!
Steps of reading a text from left to right. Each gives the text behind what it reads.
-/

namespace EntityQuery.Scan

def expect (c : Char) : List Char → Option (List Char)
  | d :: rest => if d = c then some rest else none
  | [] => none

def number? (least most : Nat) (cs : List Char) : Option (Nat × List Char) :=
  let (ds, rest) := Decimal.takeDigits most cs
  if ds.length < least then none else some (Decimal.ofDigits ds, rest)

end EntityQuery.Scan
