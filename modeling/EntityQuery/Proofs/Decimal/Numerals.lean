import EntityQuery.Decimal.Power
import EntityQuery.Text.Scan
import Mathlib.Data.List.TakeWhile
import Mathlib.Data.String.Basic
import Mathlib.Tactic.Common

/-! Numerals: what their digits say, how numerals of one width compare, and where a scanner that reads one stops. -/

namespace EntityQuery

namespace Decimal

def IsNumeral (ds : List Char) : Prop :=
  ∀ c ∈ ds, c.isDigit = true

variable {ds es : List Char} {n w : Nat}

lemma digitValue_lt {c : Char} (h : c.isDigit = true) : digitValue c < 10 := by
  have hrange := Char.isDigit_iff_toNat.mp h
  simp only [digitValue, Char.reduceToNat] at hrange ⊢
  omega

lemma compare_digitValue {c d : Char} (hc : c.isDigit = true) (hd : d.isDigit = true) :
    (digitValue c < digitValue d ↔ c < d) ∧ (digitValue c = digitValue d ↔ c = d) := by
  have hc := Char.isDigit_iff_toNat.mp hc
  have hd := Char.isDigit_iff_toNat.mp hd
  have hlt : c < d ↔ c.toNat < d.toNat := Iff.rfl
  rw [hlt, ← Char.toNat_inj]
  simp only [digitValue, Char.reduceToNat] at hc hd ⊢
  omega

lemma ofDigits_eq (ds : List Char) : ofDigits ds = Nat.ofDigitChars 10 ds 0 := by
  simp only [ofDigits, Nat.ofDigitChars, digitValue, Nat.mul_comm]

lemma ofDigits_cons (c : Char) (ds : List Char) : ofDigits (c :: ds) = 10 ^ ds.length * digitValue c + ofDigits ds := by
  rw [ofDigits_eq, ofDigits_eq, Nat.ofDigitChars_cons, Nat.ofDigitChars_eq_ofDigitChars_zero, Nat.mul_zero,
    Nat.zero_add]
  rfl

lemma ofDigits_lt (h : IsNumeral ds) : ofDigits ds < 10 ^ ds.length := by
  induction ds with
  | nil => decide
  | cons c ds ih =>
    obtain ⟨hc, hds⟩ := List.forall_mem_cons.mp h
    have hmul := Nat.mul_le_mul_left (10 ^ ds.length) (Nat.succ_le_of_lt (digitValue_lt hc))
    have := ih hds
    rw [ofDigits_cons, List.length_cons, pow_succ]
    rw [Nat.mul_succ] at hmul
    omega

lemma mul_add_lt_mul_add_iff {p a b u v : Nat} (hu : u < p) (hv : v < p) :
    p * a + u < p * b + v ↔ a < b ∨ a = b ∧ u < v := by
  have hmul : ∀ {a b}, a < b → p * a + p ≤ p * b := fun h => Nat.mul_succ p _ ▸ Nat.mul_le_mul_left p h
  rcases Nat.lt_trichotomy a b with h | rfl | h
  · have := hmul h
    omega
  · omega
  · have := hmul h
    omega

lemma append_lt_append_iff (hlen : ds.length = es.length) (hds : IsNumeral ds) (hes : IsNumeral es)
    {x y : List Char} : ds ++ x < es ++ y ↔ ofDigits ds < ofDigits es ∨ ofDigits ds = ofDigits es ∧ x < y := by
  induction ds generalizing es with
  | nil =>
    obtain rfl := List.eq_nil_of_length_eq_zero hlen.symm
    simp
  | cons c ds ih =>
    cases es with
    | nil => cases hlen
    | cons d es =>
      obtain ⟨hc, hds⟩ := List.forall_mem_cons.mp hds
      obtain ⟨hd, hes⟩ := List.forall_mem_cons.mp hes
      have hlen := Nat.succ.inj hlen
      have hlt := ofDigits_lt hds
      have hlt' := ofDigits_lt hes
      obtain ⟨hcd, hcd'⟩ := compare_digitValue hc hd
      rw [List.cons_append, List.cons_append, List.cons_lt_cons_iff, ih hlen hds hes, ofDigits_cons, ofDigits_cons,
        ← hcd, ← hcd']
      rw [hlen] at hlt ⊢
      have hiff := mul_add_lt_mul_add_iff (a := digitValue c) (b := digitValue d) hlt hlt'
      have hiff' := mul_add_lt_mul_add_iff (a := digitValue d) (b := digitValue c) hlt' hlt
      by_cases hxy : x < y <;> simp only [hxy, and_true, and_false, or_false] <;> omega

lemma eq_of_ofDigits_eq (hlen : ds.length = es.length) (hds : IsNumeral ds) (hes : IsNumeral es)
    (h : ofDigits ds = ofDigits es) : ds = es := by
  have hlt := append_lt_append_iff (x := []) (y := []) hlen hds hes
  have hgt := append_lt_append_iff (x := []) (y := []) hlen.symm hes hds
  simp only [List.append_nil, h, lt_irrefl, and_false, or_false, iff_false] at hlt hgt
  exact le_antisymm (not_lt.mp hgt) (not_lt.mp hlt)

section Padded

lemma isNumeral_padded (w n : Nat) : IsNumeral (padded w n) := by
  intro c hc
  rcases List.mem_append.mp hc with hc | hc
  · obtain rfl := List.eq_of_mem_replicate hc
    rfl
  · exact Nat.isDigit_of_mem_toDigits (by decide) (by decide) hc

lemma length_padded (hw : 0 < w) (h : n < 10 ^ w) : (padded w n).length = w := by
  have hlen : (digits n).length ≤ w := (Nat.length_toDigits_le_iff (by decide) hw).mpr h
  simp only [padded, List.length_append, List.length_replicate]
  omega

lemma exists_padded_eq_cons (w n : Nat) : ∃ d ds, padded w n = d :: ds ∧ d.isDigit = true := by
  have hne : padded w n ≠ [] := List.append_ne_nil_of_right_ne_nil _ Nat.toDigits_ne_nil
  obtain ⟨d, ds, hds⟩ := List.exists_cons_of_ne_nil hne
  exact ⟨d, ds, hds, isNumeral_padded w n d (hds ▸ List.mem_cons_self)⟩

lemma ofDigits_padded (w n : Nat) : ofDigits (padded w n) = n := by
  rw [ofDigits_eq, padded, Nat.ofDigitChars_append, Nat.ofDigitChars_replicate_zero, Nat.mul_zero]
  exact Nat.ofDigitChars_ten_toDigits

lemma padded_ofDigits (h : IsNumeral ds) (hne : ds ≠ []) : padded ds.length (ofDigits ds) = ds := by
  have hlen := length_padded (List.length_pos_of_ne_nil hne) (ofDigits_lt h)
  exact eq_of_ofDigits_eq hlen (isNumeral_padded _ _) h (ofDigits_padded _ _)

lemma padded_append_lt_iff {m : Nat} {x y : List Char} (hw : 0 < w) (hm : m < 10 ^ w) (hn : n < 10 ^ w) :
    padded w m ++ x < padded w n ++ y ↔ m < n ∨ m = n ∧ x < y := by
  rw [append_lt_append_iff ((length_padded hw hm).trans (length_padded hw hn).symm) (isNumeral_padded w m)
    (isNumeral_padded w n), ofDigits_padded, ofDigits_padded]

end Padded

end Decimal

namespace Scan

open Decimal

variable {c : Char} {ds cs rest : List Char} {least most n w : Nat}

lemma expect_eq_some_iff : expect c cs = some rest ↔ cs = c :: rest := by
  cases cs with
  | nil => simp [expect]
  | cons d cs =>
    rw [expect]
    split <;> simp_all

@[simp] lemma expect_cons (c : Char) (cs : List Char) : expect c (c :: cs) = some cs :=
  expect_eq_some_iff.mpr rfl

def NoDigitAhead (cs : List Char) : Prop :=
  ∀ c ∈ cs.head?, c.isDigit = false

lemma noDigitAhead_cons {c : Char} (h : c.isDigit = false) (cs : List Char) : NoDigitAhead (c :: cs) := by
  simpa [NoDigitAhead] using h

lemma NoDigitAhead.append {tail : List Char} (h : NoDigitAhead rest) (htail : NoDigitAhead tail) :
    NoDigitAhead (rest ++ tail) := by
  cases rest with
  | nil => exact htail
  | cons c rest => exact noDigitAhead_cons (h c rfl) _

lemma takeWhile_isDigit (hds : IsNumeral ds) (h : NoDigitAhead rest) : (ds ++ rest).takeWhile Char.isDigit = ds := by
  rw [List.takeWhile_append_of_pos hds]
  cases rest with
  | nil => simp
  | cons c rest => simp [h c rfl]

lemma NoDigitAhead.take (h : NoDigitAhead cs) (k : Nat) : NoDigitAhead (cs.take k) := by
  intro c hc
  rw [List.head?_take] at hc
  split at hc
  · cases hc
  · exact h c hc

lemma takeDigits_eq_iff : takeDigits most cs = (ds, rest) ↔
    cs = ds ++ rest ∧ IsNumeral ds ∧ ds.length ≤ most ∧ (ds.length < most → NoDigitAhead rest) := by
  constructor
  · intro h
    have happend : ds ++ rest = cs := by rw [← takeDigits_append most cs, h]
    have htake : (cs.take most).takeWhile Char.isDigit = ds := congrArg Prod.fst h
    have hds : IsNumeral ds := fun c hc => List.mem_takeWhile_imp (htake ▸ hc)
    have hlen : ds.length ≤ most :=
      htake ▸ (List.takeWhile_sublist _).length_le.trans (List.length_take_le most cs)
    refine ⟨happend.symm, hds, hlen, fun hlt c hc => ?_⟩
    -- a digit that could still be taken would have been
    obtain ⟨tail, rfl⟩ := List.head?_eq_some_iff.mp hc
    rw [← happend, List.take_append, List.take_of_length_le hlen, List.takeWhile_append_of_pos hds,
      List.append_right_eq_self, List.take_cons (by omega)] at htake
    by_contra hdigit
    simp [hdigit] at htake
  · rintro ⟨rfl, hds, hlen, h⟩
    have htake : ((ds ++ rest).take most).takeWhile Char.isDigit = ds := by
      rw [List.take_append, List.take_of_length_le hlen]
      rcases hlen.eq_or_lt with rfl | hlt
      · simp [List.takeWhile_eq_self_iff.mpr hds]
      · exact takeWhile_isDigit hds ((h hlt).take _)
    simp only [takeDigits, htake, List.drop_left]

lemma number?_eq_some_iff : number? least most cs = some (n, rest) ↔ ∃ ds, cs = ds ++ rest ∧ IsNumeral ds ∧
    least ≤ ds.length ∧ ds.length ≤ most ∧ (ds.length < most → NoDigitAhead rest) ∧ n = ofDigits ds := by
  obtain ⟨ds', rest', htake⟩ : ∃ ds' rest', takeDigits most cs = (ds', rest') := ⟨_, _, rfl⟩
  have hnumber : number? least most cs = if ds'.length < least then none else some (ofDigits ds', rest') := by
    rw [number?, htake]
  rw [hnumber]
  constructor
  · intro h
    split at h
    · cases h
    · obtain ⟨rfl, rfl⟩ := Prod.mk.inj (Option.some.inj h)
      obtain ⟨hcs, hds, hmost, hahead⟩ := takeDigits_eq_iff.mp htake
      exact ⟨ds', hcs, hds, by omega, hmost, hahead, rfl⟩
  · rintro ⟨ds, hcs, hds, hleast, hmost, hahead, rfl⟩
    obtain ⟨rfl, rfl⟩ := Prod.mk.inj (htake.symm.trans (takeDigits_eq_iff.mpr ⟨hcs, hds, hmost, hahead⟩))
    rw [if_neg (by omega)]

lemma number?_append {tail : List Char} (h : number? least most cs = some (n, rest)) (htail : NoDigitAhead tail) :
    number? least most (cs ++ tail) = some (n, rest ++ tail) := by
  obtain ⟨ds, rfl, hds, hleast, hmost, hahead, rfl⟩ := number?_eq_some_iff.mp h
  exact number?_eq_some_iff.mpr
    ⟨ds, List.append_assoc _ _ _, hds, hleast, hmost, fun hlt => (hahead hlt).append htail, rfl⟩

lemma number?_length_eq_some_iff : number? least cs.length cs = some (n, rest) ↔ ∃ ds, cs = ds ++ rest ∧ IsNumeral ds ∧
    least ≤ ds.length ∧ NoDigitAhead rest ∧ n = ofDigits ds := by
  rw [number?_eq_some_iff]
  refine exists_congr fun ds => and_congr_right fun hcs => ?_
  subst hcs
  simp only [List.length_append]
  cases rest with
  | nil => simp [NoDigitAhead]
  | cons c rest => simp

lemma number?_length_append {tail : List Char} (h : number? least cs.length cs = some (n, rest))
    (htail : NoDigitAhead tail) : number? least (cs ++ tail).length (cs ++ tail) = some (n, rest ++ tail) := by
  obtain ⟨ds, rfl, hds, hleast, hahead, rfl⟩ := number?_length_eq_some_iff.mp h
  exact number?_length_eq_some_iff.mpr ⟨ds, List.append_assoc _ _ _, hds, hleast, hahead.append htail, rfl⟩

lemma number?_padded (hw : 0 < w) (h : n < 10 ^ w) (hleast : least ≤ w) (rest : List Char) :
    number? least w (padded w n ++ rest) = some (n, rest) :=
  have hlen := length_padded hw h
  number?_eq_some_iff.mpr ⟨padded w n, rfl, isNumeral_padded w n, by omega, by omega, by omega,
    (ofDigits_padded w n).symm⟩

lemma number?_exactly_padded (hw : 0 < w) (h : n < 10 ^ w) (rest : List Char) :
    number? w w (padded w n ++ rest) = some (n, rest) :=
  number?_padded hw h le_rfl rest

lemma eq_padded_of_number? (hw : 0 < w) (h : number? w w cs = some (n, rest)) :
    n < 10 ^ w ∧ cs = padded w n ++ rest := by
  obtain ⟨ds, rfl, hds, hleast, hmost, -, rfl⟩ := number?_eq_some_iff.mp h
  obtain rfl : ds.length = w := by omega
  exact ⟨ofDigits_lt hds, by rw [padded_ofDigits hds (List.ne_nil_of_length_pos hw)]⟩

end Scan

end EntityQuery
