import EntityQuery.Proofs.Calendar.Forms

/-! Layouts of texts: `dddd-dd-ddTdd:dd:dd` is that of a time, with a `d` wherever a digit stands. -/

namespace EntityQuery.DateText

open Decimal Scan

def FitsChar (l c : Char) : Prop :=
  if l = 'd' then c.isDigit = true else c = l

instance (l c : Char) : Decidable (FitsChar l c) :=
  inferInstanceAs (Decidable (if l = 'd' then c.isDigit = true else c = l))

def Fits (layout : String) (cs : List Char) : Prop :=
  List.Forall₂ FitsChar layout.toList cs

instance (layout : String) (cs : List Char) : Decidable (Fits layout cs) :=
  inferInstanceAs (Decidable (List.Forall₂ _ _ _))

variable {w : Nat} {l : Char} {layout cs : List Char}

lemma forall₂_digits_iff (w : Nat) : List.Forall₂ FitsChar (List.replicate w 'd' ++ layout) cs ↔
    ∃ ds rest, cs = ds ++ rest ∧ ds.length = w ∧ IsNumeral ds ∧ List.Forall₂ FitsChar layout rest := by
  induction w generalizing cs with
  | zero =>
    constructor
    · intro h
      exact ⟨[], cs, rfl, rfl, by simp [IsNumeral], h⟩
    · rintro ⟨ds, rest, rfl, hlen, -, h⟩
      obtain rfl := List.eq_nil_of_length_eq_zero hlen
      exact h
  | succ w ih =>
    rw [List.replicate_succ, List.cons_append, List.forall₂_cons_left_iff]
    constructor
    · rintro ⟨c, cs, hc, h, rfl⟩
      obtain ⟨ds, rest, rfl, rfl, hds, hrest⟩ := ih.mp h
      exact ⟨c :: ds, rest, rfl, rfl, List.forall_mem_cons.mpr ⟨hc, hds⟩, hrest⟩
    · rintro ⟨_ | ⟨c, ds⟩, rest, rfl, hlen, hds, hrest⟩
      · cases hlen
      · obtain ⟨hc, hds⟩ := List.forall_mem_cons.mp hds
        exact ⟨c, ds ++ rest, hc, ih.mpr ⟨ds, rest, rfl, Nat.succ.inj hlen, hds, hrest⟩, rfl⟩

lemma forall₂_padded_iff (hw : 0 < w) : List.Forall₂ FitsChar (List.replicate w 'd' ++ layout) cs ↔
    ∃ n rest, n < 10 ^ w ∧ cs = padded w n ++ rest ∧ List.Forall₂ FitsChar layout rest := by
  rw [forall₂_digits_iff]
  constructor
  · rintro ⟨ds, rest, rfl, rfl, hds, hrest⟩
    exact ⟨ofDigits ds, rest, ofDigits_lt hds, by rw [padded_ofDigits hds (List.ne_nil_of_length_pos hw)], hrest⟩
  · rintro ⟨n, rest, hn, rfl, hrest⟩
    exact ⟨padded w n, rest, rfl, length_padded hw hn, isNumeral_padded w n, hrest⟩

lemma forall₂_char_iff (hl : l ≠ 'd') : List.Forall₂ FitsChar (l :: layout) cs ↔
    ∃ rest, cs = l :: rest ∧ List.Forall₂ FitsChar layout rest := by
  rw [List.forall₂_cons_left_iff]
  simp [FitsChar, hl, and_comm]

def timeLayout (layout : List Char) : List Char :=
  List.replicate 4 'd' ++ '-' :: (List.replicate 2 'd' ++ '-' :: (List.replicate 2 'd' ++ 'T' ::
    (List.replicate 2 'd' ++ ':' :: (List.replicate 2 'd' ++ ':' :: (List.replicate 2 'd' ++ layout)))))

lemma forall₂_time_iff : List.Forall₂ FitsChar (timeLayout layout) cs ↔
    ∃ (c : CivilTime) (year : Nat) (rest : List Char), c.InTwoDigits ∧ year < 10 ^ 4 ∧ c.date.year = year ∧
      cs = padded 4 year ++ afterYear 'T' c rest ∧ List.Forall₂ FitsChar layout rest := by
  simp only [timeLayout, forall₂_padded_iff (w := 2) (by decide), forall₂_padded_iff (w := 4) (by decide),
    forall₂_char_iff (l := '-') (by decide), forall₂_char_iff (l := 'T') (by decide),
    forall₂_char_iff (l := ':') (by decide)]
  constructor
  · rintro ⟨year, _, hyear, rfl, _, rfl, month, _, hmonth, rfl, _, rfl, day, _, hday, rfl, _, rfl, hour, _, hhour, rfl,
      _, rfl, minute, _, hminute, rfl, _, rfl, second, rest, hsecond, rfl, hrest⟩
    exact ⟨⟨⟨year, month, day⟩, hour, minute, second, 0⟩, year, rest, ⟨hmonth, hday, hhour, hminute, hsecond⟩,
      hyear, rfl, rfl, hrest⟩
  · rintro ⟨c, year, rest, hc, hyear, -, rfl, hrest⟩
    exact ⟨_, _, hyear, rfl, _, rfl, _, _, hc.month, rfl, _, rfl, _, _, hc.day, rfl, _, rfl, _, _, hc.hour, rfl,
      _, rfl, _, _, hc.minute, rfl, _, rfl, _, _, hc.second, rfl, hrest⟩

end EntityQuery.DateText
