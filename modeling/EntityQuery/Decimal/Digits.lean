/-!
Natural numbers as decimal digits, in both directions.
-/

namespace EntityQuery.Decimal

def digitValue (c : Char) : Nat :=
  c.toNat - '0'.toNat

def ofDigits (ds : List Char) : Nat :=
  ds.foldl (fun n c => n * 10 + digitValue c) 0

def digits (n : Nat) : List Char :=
  Nat.toDigits 10 n

def padded (width n : Nat) : List Char :=
  let ds := digits n
  List.replicate (width - ds.length) '0' ++ ds

def takeDigits (most : Nat) (cs : List Char) : List Char × List Char :=
  let ds := (cs.take most).takeWhile Char.isDigit
  (ds, cs.drop ds.length)

theorem takeDigits_append (most : Nat) (cs : List Char) :
    (takeDigits most cs).1 ++ (takeDigits most cs).2 = cs := by
  have h : (cs.take most).takeWhile Char.isDigit <+: cs :=
    (List.takeWhile_prefix _).trans (List.take_prefix _ _)
  obtain ⟨t, ht⟩ := h
  simp only [takeDigits]
  generalize (cs.take most).takeWhile Char.isDigit = ds at *
  subst ht
  simp

end EntityQuery.Decimal
