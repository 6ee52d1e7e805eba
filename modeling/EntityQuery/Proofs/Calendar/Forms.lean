import EntityQuery.Calendar.Reading
import EntityQuery.Proofs.Decimal.Numerals
import Mathlib.Data.List.Forall2

/-! The forms in which a date is given, part by part: what each form reads of numbers in full width, and what a text
must look like for a form to read it. A zoned time is no local time, since its zone is left over, and neither of them is
a bare date, which ends where they have their time. -/

namespace EntityQuery

structure CivilTime.InTwoDigits (c : CivilTime) : Prop where
  month : c.date.month < 10 ^ 2
  day : c.date.day < 10 ^ 2
  hour : c.hour < 10 ^ 2
  minute : c.minute < 10 ^ 2
  second : c.second < 10 ^ 2

namespace DateText

open Decimal Scan

def clock (c : CivilTime) (rest : List Char) : List Char :=
  padded 2 c.hour ++ ':' :: (padded 2 c.minute ++ ':' :: (padded 2 c.second ++ rest))

def afterYear (sep : Char) (c : CivilTime) (rest : List Char) : List Char :=
  '-' :: (padded 2 c.date.month ++ '-' :: (padded 2 c.date.day ++ sep :: clock c rest))

variable {sep : Char} {c : CivilTime} {n year : Nat} {cs rest tail : List Char} {d : Date} {t : Instant}

lemma afterYear_append (sep : Char) (c : CivilTime) (rest tail : List Char) :
    afterYear sep c rest ++ tail = afterYear sep c (rest ++ tail) := by
  simp [afterYear, clock]

section Fraction

def nanosOf (ds : List Char) : Nat :=
  ofDigits (ds.take 9) * tenTo (9 - (ds.take 9).length)

def IsFraction (f : List Char) : Prop :=
  f = [] ∨ ∃ ds, ds ≠ [] ∧ IsNumeral ds ∧ f = '.' :: ds

lemma nanosOf_lt {ds : List Char} (h : IsNumeral ds) : nanosOf ds < Instant.nanosPerSecond := by
  have hlt : ofDigits (ds.take 9) < 10 ^ (ds.take 9).length := ofDigits_lt fun c hc => h c (List.mem_of_mem_take hc)
  calc nanosOf ds < 10 ^ (ds.take 9).length * tenTo (9 - (ds.take 9).length) :=
        Nat.mul_lt_mul_of_pos_right hlt (tenTo_pos _)
    _ = 10 ^ 9 := by
        rw [tenTo, Nat.pow_eq, ← pow_add, Nat.add_sub_cancel' (List.length_take_le 9 ds)]

lemma fraction?_append {f : List Char} (hf : IsFraction f) (hdigit : NoDigitAhead rest) (hdot : rest.head? ≠ some '.') :
    fraction? (f ++ rest) = some (nanosOf f.tail, rest) := by
  rcases hf with rfl | ⟨ds, hne, hds, rfl⟩
  · rw [List.nil_append, fraction?]
    · rfl
    · rintro rest rfl
      exact hdot rfl
  · have hempty : ds.isEmpty = false := by simpa using hne
    simp [fraction?, takeWhile_isDigit hds hdigit, hempty, nanosOf]

lemma fraction?_lt (h : fraction? cs = some (n, rest)) : n < Instant.nanosPerSecond := by
  unfold fraction? at h
  split at h
  · obtain ⟨-, h⟩ := Option.ite_none_left_eq_some.mp h
    cases h
    exact nanosOf_lt fun c hc => List.mem_takeWhile_imp hc
  · cases h
    decide

end Fraction

section Loose

lemma dropBlanks_padded (w n : Nat) (rest : List Char) : dropBlanks (padded w n ++ rest) = padded w n ++ rest := by
  obtain ⟨d, ds, hds, hd⟩ := exists_padded_eq_cons w n
  have hblank : isBlank d = false := by
    have hrange := Char.isDigit_iff_toNat.mp hd
    simp only [Char.reduceToNat] at hrange
    simp [isBlank]
    omega
  rw [hds, List.cons_append, dropBlanks, List.dropWhile_cons, hblank]
  rfl

lemma looseNumber?_padded (h : n < 10 ^ 2) (rest : List Char) :
    looseNumber? (padded 2 n ++ rest) = some (n, rest) := by
  rw [looseNumber?, dropBlanks_padded, number?_padded (by decide) h (by decide)]

lemma looseYear?_of_unsigned {c : Char} {year : List Char} (h : dropBlanks cs = c :: year) (hminus : c ≠ '-')
    (hplus : c ≠ '+') : looseYear? cs = (number? 1 4 (c :: year)).map fun (n, rest) => ((n : Int), rest) := by
  rw [looseYear?, h]
  split
  · rename_i heq
    exact absurd (List.cons.inj heq).1 hminus
  · rename_i heq
    exact absurd (List.cons.inj heq).1 hplus
  · rfl

lemma looseYear?_padded {y : Int} (h : year < 10 ^ 4) (hy : y = year) (rest : List Char) :
    looseYear? (padded 4 year ++ rest) = some (y, rest) := by
  obtain ⟨d, ds, hds, hd⟩ := exists_padded_eq_cons 4 year
  have hread : number? 1 4 (padded 4 year ++ rest) = some (year, rest) := number?_padded (by decide) h (by decide) rest
  have hdrop := dropBlanks_padded 4 year rest
  rw [hds, List.cons_append] at hread hdrop ⊢
  have hsign : d ≠ '-' ∧ d ≠ '+' := by constructor <;> rintro rfl <;> cases hd
  rw [looseYear?_of_unsigned hdrop hsign.1 hsign.2, hread, hy]
  rfl

lemma looseYear?_signed (year : Nat) (h : NoDigitAhead rest) :
    looseYear? ('-' :: (padded 4 year ++ rest)) = some (-(year : Int), rest) ∧
    looseYear? ('+' :: (padded 4 year ++ rest)) = some ((year : Int), rest) := by
  have hread : number? 1 (padded 4 year ++ rest).length (padded 4 year ++ rest) = some (year, rest) := by
    obtain ⟨d, ds, hds, -⟩ := exists_padded_eq_cons 4 year
    exact number?_length_eq_some_iff.mpr ⟨padded 4 year, rfl, isNumeral_padded 4 year, by simp [hds], h,
      (ofDigits_padded 4 year).symm⟩
  have hminus : dropBlanks ('-' :: (padded 4 year ++ rest)) = '-' :: (padded 4 year ++ rest) := rfl
  have hplus : dropBlanks ('+' :: (padded 4 year ++ rest)) = '+' :: (padded 4 year ++ rest) := rfl
  rw [looseYear?, looseYear?, hminus, hplus]
  simp only [hread, Option.map_some, and_self]

lemma local?_of_looseDate? (hhour : c.hour < 10 ^ 2) (hminute : c.minute < 10 ^ 2) (hsecond : c.second < 10 ^ 2)
    (h : looseDate? cs = some (c.date, 'T' :: clock c rest)) :
    local? cs = (fraction? rest).bind fun (nanos, rest) =>
      if rest.isEmpty then CivilTime.instant? { c with nanos } 0 else none := by
  simp only [local?, h, clock, Option.bind_eq_bind, Option.bind_some, expect_cons, looseNumber?_padded hhour,
    looseNumber?_padded hminute, looseNumber?_padded hsecond]

variable (hc : c.InTwoDigits)
include hc

lemma looseDate?_of_looseYear? (h : looseYear? cs = some (c.date.year, afterYear sep c rest)) :
    looseDate? cs = some (c.date, sep :: clock c rest) := by
  simp only [looseDate?, h, afterYear, Option.bind_eq_bind, Option.bind_some, expect_cons,
    looseNumber?_padded hc.month, looseNumber?_padded hc.day]

lemma bare?_of_looseYear? (h : looseYear? cs = some (c.date.year, afterYear sep c rest)) : bare? cs = none := by
  simp only [bare?, looseDate?_of_looseYear? hc h, Option.bind_eq_bind, Option.bind_some]
  rfl

lemma local?_of_looseYear? (h : looseYear? cs = some (c.date.year, afterYear 'T' c rest)) :
    local? cs = (fraction? rest).bind fun (nanos, rest) =>
      if rest.isEmpty then CivilTime.instant? { c with nanos } 0 else none :=
  local?_of_looseDate? hc.hour hc.minute hc.second (looseDate?_of_looseYear? hc h)

lemma local?_of_separator_ne (h : looseYear? cs = some (c.date.year, afterYear sep c rest)) (hsep : sep ≠ 'T') :
    local? cs = none := by
  have hexpect : expect 'T' (sep :: clock c rest) = none := if_neg hsep
  simp only [local?, looseDate?_of_looseYear? hc h, Option.bind_eq_bind, Option.bind_some, hexpect, Option.bind_none]

end Loose

section Append

lemma dropBlanks_append (h : dropBlanks cs ≠ []) (tail : List Char) :
    dropBlanks (cs ++ tail) = dropBlanks cs ++ tail := by
  have hempty : (cs.dropWhile isBlank).isEmpty = false := List.isEmpty_eq_false_iff.mpr h
  rw [dropBlanks, List.dropWhile_append, hempty]
  rfl

lemma ne_nil_of_number? {most : Nat} (h : number? 1 most cs = some (n, rest)) : cs ≠ [] := by
  obtain ⟨ds, rfl, -, hpos, -⟩ := number?_eq_some_iff.mp h
  exact List.append_ne_nil_of_left_ne_nil (List.ne_nil_of_length_pos hpos) rest

lemma looseNumber?_append (h : looseNumber? cs = some (n, rest)) (htail : NoDigitAhead tail) :
    looseNumber? (cs ++ tail) = some (n, rest ++ tail) := by
  rw [looseNumber?] at h ⊢
  rw [dropBlanks_append (ne_nil_of_number? h)]
  exact number?_append h htail

lemma looseYear?_append {y : Int} (h : looseYear? cs = some (y, rest)) (htail : NoDigitAhead tail) :
    looseYear? (cs ++ tail) = some (y, rest ++ tail) := by
  have hne : dropBlanks cs ≠ [] := by
    intro hnil
    rw [looseYear?, hnil] at h
    cases h
  have happend := dropBlanks_append hne tail
  rcases hyear : dropBlanks cs with _ | ⟨c, year⟩
  · exact absurd hyear hne
  · rw [hyear] at happend
    by_cases hminus : c = '-'
    · subst hminus
      simp only [looseYear?, hyear, happend, List.cons_append] at h ⊢
      obtain ⟨⟨n, rest⟩, hread, heq⟩ := Option.map_eq_some_iff.mp h
      cases heq
      rw [number?_length_append hread htail]
      rfl
    · by_cases hplus : c = '+'
      · subst hplus
        simp only [looseYear?, hyear, happend, List.cons_append] at h ⊢
        obtain ⟨⟨n, rest⟩, hread, heq⟩ := Option.map_eq_some_iff.mp h
        cases heq
        rw [number?_length_append hread htail]
        rfl
      · rw [looseYear?_of_unsigned hyear hminus hplus] at h
        obtain ⟨⟨n, rest⟩, hread, heq⟩ := Option.map_eq_some_iff.mp h
        cases heq
        have hread' := number?_append hread htail
        rw [List.cons_append] at hread' happend
        rw [looseYear?_of_unsigned happend hminus hplus, hread']
        rfl

lemma looseDate?_append (h : looseDate? cs = some (d, rest)) (htail : NoDigitAhead tail) :
    looseDate? (cs ++ tail) = some (d, rest ++ tail) := by
  simp only [looseDate?, Option.bind_eq_bind, Option.bind_eq_some_iff, Prod.exists, expect_eq_some_iff,
    Option.some.injEq, Prod.mk.injEq] at h
  obtain ⟨year, _, hyear, _, rfl, month, _, hmonth, _, rfl, day, _, hday, rfl, rfl⟩ := h
  simp only [looseDate?, Option.bind_eq_bind, looseYear?_append hyear htail, looseNumber?_append hmonth htail,
    looseNumber?_append hday htail, Option.bind_some, List.cons_append, expect_cons]

end Append

section Zoned

def IsSeparator (sep : Char) : Prop :=
  sep = 'T' ∨ sep = 't' ∨ sep = ' '

lemma separator?_eq_some_iff : separator? cs = some rest ↔ ∃ sep, IsSeparator sep ∧ cs = sep :: rest := by
  cases cs with
  | nil => simp [separator?]
  | cons c cs =>
    rw [separator?, Option.ite_none_right_eq_some, Option.some.injEq]
    constructor
    · rintro ⟨hsep, rfl⟩
      exact ⟨c, hsep, rfl⟩
    · rintro ⟨sep, hsep, heq⟩
      obtain ⟨rfl, rfl⟩ := List.cons.inj heq
      exact ⟨hsep, rfl⟩

lemma zoned?_padded (hc : c.InTwoDigits) (hyear : year < 10 ^ 4) (h : c.date.year = year) (hsep : IsSeparator sep) :
    zoned? (padded 4 year ++ afterYear sep c rest) = (fraction? rest).bind fun (nanos, rest) =>
      (offset? rest).bind fun (offset, rest) =>
        if rest.isEmpty then CivilTime.instant? { c with nanos } offset else none := by
  have hseparator : ∀ cs, separator? (sep :: cs) = some cs := fun cs =>
    separator?_eq_some_iff.mpr ⟨sep, hsep, rfl⟩
  simp only [zoned?, afterYear, clock, Option.bind_eq_bind, Option.bind_some, expect_cons, hseparator,
    number?_exactly_padded (by decide) hyear, number?_exactly_padded (by decide) hc.month,
    number?_exactly_padded (by decide) hc.day, number?_exactly_padded (by decide) hc.hour,
    number?_exactly_padded (by decide) hc.minute, number?_exactly_padded (by decide) hc.second, ← h]

lemma exists_padded_of_zoned? (h : zoned? cs = some t) : ∃ (c : CivilTime) (year : Nat) (sep : Char) (rest : List Char),
    c.InTwoDigits ∧ year < 10 ^ 4 ∧ c.date.year = year ∧ IsSeparator sep ∧
      cs = padded 4 year ++ afterYear sep c rest := by
  simp only [zoned?, Option.bind_eq_bind, Option.bind_eq_some_iff, Prod.exists, expect_eq_some_iff,
    separator?_eq_some_iff] at h
  obtain ⟨year, _, hreadYear, _, rfl, month, _, hreadMonth, _, rfl, day, _, hreadDay, _, ⟨sep, hsep, rfl⟩,
    hour, _, hreadHour, _, rfl, minute, _, hreadMinute, _, rfl, second, rest, hreadSecond, -⟩ := h
  obtain ⟨hyear, rfl⟩ := eq_padded_of_number? (by decide) hreadYear
  obtain ⟨hmonth, rfl⟩ := eq_padded_of_number? (by decide) hreadMonth
  obtain ⟨hday, rfl⟩ := eq_padded_of_number? (by decide) hreadDay
  obtain ⟨hhour, rfl⟩ := eq_padded_of_number? (by decide) hreadHour
  obtain ⟨hminute, rfl⟩ := eq_padded_of_number? (by decide) hreadMinute
  obtain ⟨hsecond, rfl⟩ := eq_padded_of_number? (by decide) hreadSecond
  exact ⟨⟨⟨year, month, day⟩, hour, minute, second, 0⟩, year, sep, rest, ⟨hmonth, hday, hhour, hminute, hsecond⟩,
    hyear, rfl, hsep, rfl⟩

lemma zoned?_cons_of_not_digit {c : Char} (h : c.isDigit = false) (cs : List Char) : zoned? (c :: cs) = none := by
  rw [Option.eq_none_iff_forall_ne_some]
  intro t ht
  obtain ⟨_, year, _, _, -, -, -, -, heq⟩ := exists_padded_of_zoned? ht
  obtain ⟨d, ds, hds, hd⟩ := exists_padded_eq_cons 4 year
  rw [hds] at heq
  obtain ⟨rfl, -⟩ := List.cons.inj heq
  cases h.symm.trans hd

end Zoned

section Exclusive

lemma eq_none_of_zoned? (h : zoned? cs = some t) : local? cs = none ∧ bare? cs = none := by
  obtain ⟨c, year, sep, rest, hc, hyear, hcyear, hsep, rfl⟩ := exists_padded_of_zoned? h
  have hloose := looseYear?_padded hyear hcyear (afterYear sep c rest)
  refine ⟨?_, bare?_of_looseYear? hc hloose⟩
  by_cases hT : sep = 'T'
  · subst hT
    rw [zoned?_padded hc hyear hcyear hsep] at h
    obtain ⟨⟨nanos, zone⟩, hfraction, h⟩ := Option.bind_eq_some_iff.mp h
    obtain ⟨⟨offset, _⟩, hoffset, -⟩ := Option.bind_eq_some_iff.mp h
    rw [local?_of_looseYear? hc hloose, hfraction]
    -- what is left behind the fraction is the offset, which a local time has no place for
    cases zone with
    | nil => cases hoffset
    | cons => rfl
  · exact local?_of_separator_ne hc hloose hT

lemma bare?_eq_some_iff : bare? cs = some t ↔
    ∃ d, looseDate? cs = some (d, []) ∧ CivilTime.instant? ⟨d, 0, 0, 0, 0⟩ 0 = some t := by
  simp only [bare?, Option.bind_eq_bind, Option.bind_eq_some_iff, Prod.exists, List.isEmpty_iff,
    Option.ite_none_right_eq_some]
  exact ⟨fun ⟨d, _, hdate, hnil, ht⟩ => ⟨d, hnil ▸ hdate, ht⟩, fun ⟨d, hdate, ht⟩ => ⟨d, [], hdate, rfl, ht⟩⟩

lemma bare?_eq_none_of_local? (h : local? cs = some t) : bare? cs = none := by
  simp only [local?, Option.bind_eq_bind, Option.bind_eq_some_iff, Prod.exists, expect_eq_some_iff] at h
  obtain ⟨date, _, hdate, _, rfl, -⟩ := h
  simp only [bare?, hdate, Option.bind_eq_bind, Option.bind_some]
  rfl

end Exclusive

end DateText

end EntityQuery
