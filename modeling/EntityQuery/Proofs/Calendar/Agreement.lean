import EntityQuery.Proofs.Calendar.Layout

/-! The forms of a date against each other. No text is of two of them, so they may be tried in any order. A bare date
is its midnight written out, and a strict time without a zone is that time in universal time, from which a zone moves
it by what it says. -/

namespace EntityQuery

namespace DateText

open Decimal Scan

def forms : List (List Char → Option Instant) :=
  [zoned?, local?, bare?]

def zone (sign : Char) (hours minutes : Nat) : List Char :=
  sign :: (padded 2 hours ++ ':' :: padded 2 minutes)

def IsLocalTime (cs : List Char) : Prop :=
  ∃ time fraction, Fits "dddd-dd-ddTdd:dd:dd" time ∧ IsFraction fraction ∧ cs = time ++ fraction

variable {cs : List Char} {t : Instant} {hours minutes : Nat}

lemma pairwise_forms (cs : List Char) : forms.Pairwise fun form form' => form cs = none ∨ form' cs = none := by
  simp only [forms, List.pairwise_cons, List.forall_mem_cons, List.not_mem_nil, false_imp_iff, implies_true,
    List.Pairwise.nil, and_true]
  cases hzoned : zoned? cs with
  | none => cases hlocal : local? cs with
    | none => simp
    | some t => simp [bare?_eq_none_of_local? hlocal]
  | some t => simp [eq_none_of_zoned? hzoned]

lemma findSome?_eq_of_perm {α β : Type} {f : α → Option β} {xs ys : List α} (h : xs.Perm ys)
    (hone : xs.Pairwise fun x y => f x = none ∨ f y = none) : xs.findSome? f = ys.findSome? f := by
  induction h with
  | nil => rfl
  | cons x _ ih => rw [List.findSome?_cons, List.findSome?_cons, ih (List.pairwise_cons.mp hone).2]
  | swap x y xs =>
    obtain ⟨hyx, -⟩ := List.pairwise_cons.mp hone
    rcases hyx x List.mem_cons_self with hnone | hnone
    · cases hx : f x <;> simp [hnone, hx]
    · cases hy : f y <;> simp [hnone, hy]
  | trans hxy _ ih ih' => exact (ih hone).trans (ih' (hone.perm hxy fun h => h.symm))

lemma ofText?_of_zoned? {s : String} (h : zoned? s.toList = some t) : Instant.ofText? s = some t := by
  simp only [Instant.ofText?, h, Option.orElse_some]

lemma ofText?_of_local? {s : String} (h : local? s.toList = some t) : Instant.ofText? s = some t := by
  cases hzoned : zoned? s.toList with
  | none => simp only [Instant.ofText?, hzoned, h, Option.orElse_none, Option.orElse_some]
  | some u =>
    rw [(eq_none_of_zoned? hzoned).1] at h
    cases h

lemma local?_midnight (h : bare? cs = some t) : local? (cs ++ "T00:00:00".toList) = some t := by
  obtain ⟨d, hdate, ht⟩ := bare?_eq_some_iff.mp h
  have hmidnight : "T00:00:00".toList = 'T' :: clock ⟨d, 0, 0, 0, 0⟩ [] := by cbv
  have hloose := looseDate?_append hdate (noDigitAhead_cons (c := 'T') rfl (clock ⟨d, 0, 0, 0, 0⟩ []))
  have hzero : 0 < 10 ^ 2 := by decide
  rw [hmidnight, local?_of_looseDate? (c := ⟨d, 0, 0, 0, 0⟩) hzero hzero hzero hloose]
  exact ht

lemma offset?_zone (hhours : hours ≤ 23) (hminutes : minutes ≤ 59) :
    offset? (zone '+' hours minutes) = some (((hours * 60 + minutes) * 60 : Int), []) ∧
    offset? (zone '-' hours minutes) = some (-((hours * 60 + minutes) * 60 : Int), []) := by
  have hread := number?_exactly_padded (w := 2) (n := hours) (by decide) (by omega)
  have hread' := number?_exactly_padded (w := 2) (n := minutes) (by decide) (by omega) []
  rw [List.append_nil] at hread'
  have hrange : ¬(23 < hours ∨ 59 < minutes) := by omega
  simp [offset?, zone, hread, hread', hrange]

lemma instant?_ahead {c : CivilTime} (h : c.instant? 0 = some t) (offset : Int) :
    c.instant? offset = some { t with seconds := t.seconds - offset } := by
  obtain ⟨hvalid, rfl⟩ := Option.ite_none_right_eq_some.mp h |>.imp_right Option.some.inj
  simp [CivilTime.instant?, hvalid, CivilTime.instant]

lemma IsLocalTime.exists_civil (h : IsLocalTime cs) : ∃ c : CivilTime,
    (zoned? cs = none ∧ local? cs = c.instant? 0 ∧ bare? cs = none) ∧
    ∀ sign tail offset, sign.isDigit = false → sign ≠ '.' → offset? (sign :: tail) = some (offset, []) →
      zoned? (cs ++ sign :: tail) = c.instant? offset := by
  obtain ⟨time, fraction, hfits, hfraction, rfl⟩ := h
  obtain ⟨c, year, _, hc, hyear, hcyear, rfl, hnil⟩ := forall₂_time_iff.mp hfits
  cases hnil
  have hloose := looseYear?_padded hyear hcyear (afterYear 'T' c fraction)
  have hsep : IsSeparator 'T' := .inl rfl
  have hread : fraction? (fraction ++ []) = some (nanosOf fraction.tail, []) :=
    fraction?_append hfraction (by simp [NoDigitAhead]) (by simp)
  rw [List.append_nil] at hread
  refine ⟨{ c with nanos := nanosOf fraction.tail }, ?_, fun sign tail offset hdigit hdot hoffset => ?_⟩
  · rw [List.append_assoc, afterYear_append, List.nil_append]
    refine ⟨?_, ?_, bare?_of_looseYear? hc hloose⟩
    · rw [zoned?_padded hc hyear hcyear hsep, hread]
      rfl
    · rw [local?_of_looseYear? hc hloose, hread]
      rfl
  · rw [List.append_assoc, List.append_assoc, afterYear_append, List.nil_append,
      zoned?_padded hc hyear hcyear hsep,
      fraction?_append hfraction (noDigitAhead_cons hdigit tail) (by simpa using hdot), Option.bind_some]
    simp only [hoffset, Option.bind_some]
    rfl

theorem forms_exclude_and_agree :
    (∀ cs, forms.Pairwise fun form form' => form cs = none ∨ form' cs = none) ∧
    (∀ (order : List (List Char → Option Instant)) (s : String), order.Perm forms →
      order.findSome? (· s.toList) = Instant.ofText? s) ∧
    (∀ (s : String) (t : Instant), bare? s.toList = some t → Instant.ofText? (s ++ "T00:00:00") = some t) ∧
    ∀ (s : String) (t : Instant), IsLocalTime s.toList → Instant.ofText? s = some t →
      Instant.ofText? (s ++ "Z") = some t ∧
      ∀ hours minutes : Nat, hours ≤ 23 → minutes ≤ 59 →
        Instant.ofText? (s ++ String.ofList (zone '+' hours minutes)) =
          some { t with seconds := t.seconds - (hours * 60 + minutes) * 60 } ∧
        Instant.ofText? (s ++ String.ofList (zone '-' hours minutes)) =
          some { t with seconds := t.seconds + (hours * 60 + minutes) * 60 } := by
  refine ⟨pairwise_forms, fun order s hperm => ?_, fun s t hbare => ?_, fun s t hlayout htext => ?_⟩
  · rw [findSome?_eq_of_perm hperm ((pairwise_forms s.toList).perm hperm.symm fun h => h.symm)]
    simp only [forms, Instant.ofText?, List.findSome?_cons, List.findSome?_nil]
    cases zoned? s.toList <;> cases local? s.toList <;> cases bare? s.toList <;> rfl
  · apply ofText?_of_local?
    rw [String.toList_append]
    exact local?_midnight hbare
  · obtain ⟨c, ⟨hzoned, hlocal, hbare⟩, hahead⟩ := hlayout.exists_civil
    have hcivil : c.instant? 0 = some t := by
      rw [← htext, ← hlocal]
      cases hlocal' : local? s.toList <;> simp [Instant.ofText?, hzoned, hlocal', hbare]
    refine ⟨?_, fun hours minutes hhours hminutes => ⟨?_, ?_⟩⟩
    · apply ofText?_of_zoned?
      rw [String.toList_append]
      exact (hahead 'Z' [] 0 rfl (by decide) rfl).trans hcivil
    · apply ofText?_of_zoned?
      rw [String.toList_append, String.toList_ofList]
      exact (hahead '+' _ _ rfl (by decide) (offset?_zone hhours hminutes).1).trans (instant?_ahead hcivil _)
    · apply ofText?_of_zoned?
      rw [String.toList_append, String.toList_ofList]
      have hbehind := instant?_ahead hcivil (-((hours * 60 + minutes) * 60))
      rw [Int.sub_neg] at hbehind
      exact (hahead '-' _ _ rfl (by decide) (offset?_zone hhours hminutes).2).trans hbehind

theorem blanks_and_leap_second_agree :
    bare? " +12024-6- 30".toList = some ⟨317289225600, 0⟩ ∧
    Instant.ofText? (" +12024-6- 30" ++ "T00:00:00") = some ⟨317289225600, 0⟩ ∧
    IsLocalTime "2024-06-30T23:59:60.5".toList ∧
    Instant.ofText? "2024-06-30T23:59:60.5" = some ⟨1719791999, 1500000000⟩ ∧
    Instant.ofText? ("2024-06-30T23:59:60.5" ++ "Z") = some ⟨1719791999, 1500000000⟩ ∧
    Instant.ofText? ("2024-06-30T23:59:60.5" ++ String.ofList (zone '-' 0 30)) = some ⟨1719793799, 1500000000⟩ := by
  have hbare : bare? " +12024-6- 30".toList = some ⟨317289225600, 0⟩ := by decide +kernel
  have hlayout : IsLocalTime "2024-06-30T23:59:60.5".toList :=
    ⟨"2024-06-30T23:59:60".toList, ".5".toList, by decide, .inr ⟨['5'], by decide, by simp [IsNumeral], by decide⟩,
      by decide⟩
  have htext : Instant.ofText? "2024-06-30T23:59:60.5" = some ⟨1719791999, 1500000000⟩ := by decide +kernel
  obtain ⟨-, -, hmidnight, hzone⟩ := forms_exclude_and_agree
  obtain ⟨hutc, hahead⟩ := hzone _ _ hlayout htext
  exact ⟨hbare, hmidnight _ _ hbare, hlayout, htext, hutc, (hahead 0 30 (by decide) (by decide)).2⟩

end DateText

end EntityQuery
