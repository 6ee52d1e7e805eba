import EntityQuery.Condition.Word
import EntityQuery.Proofs.Rendering.Numbering

/-! Rendering with slots in machine words. As long as the numbers fit it is plain rendering. In a build that traps
nothing else gives a result; in one that wraps a clause is rejected for what it is rejected for anyway. -/

namespace EntityQuery

open Outcome (verdict)

namespace Overflow

variable {o : Overflow} {a b n : Nat}

lemma add_of_lt (h : a + b < wordSize) : o.add a b = .ok (a + b) :=
  if_pos h

lemma add_traps_of_le (h : wordSize ≤ a + b) : traps.add a b = .error .overflow :=
  if_neg (Nat.not_lt.mpr h)

lemma exists_add_wraps (a b : Nat) : ∃ n, wraps.add a b = .ok n := by
  unfold add
  split
  · exact ⟨_, rfl⟩
  · exact ⟨_, rfl⟩

end Overflow

variable {o : Overflow} {c : Condition} {cs : List Condition} {ts : List Term} {start : Nat}

lemma Condition.count_of_reserve {slots : Slots} (h : Slots.reserve c.comparison c.operand start = .ok slots) :
    slots.count = c.boundValues.length := by
  rcases Slots.reserve_cases h with ⟨hnull, rfl⟩ | ⟨hnull, -, v, hv, rfl⟩ | ⟨hnull, -, vs, hvs, -, rfl⟩
  · simp [boundValues, hnull, Slots.count]
  · simp [boundValues, hnull, hv, Operand.values, Slots.count]
  · simp [boundValues, hnull, hvs, Operand.values, Slots.count]

section Fitting

lemma Condition.slotsAt_of_lt (h : firstSlot start + c.boundValues.length < wordSize) :
    c.slotsAt o start = (Slots.reserve c.comparison c.operand (firstSlot start)).mapError .rejected := by
  rw [slotsAt, Slots.reserveAt]
  cases hslots : Slots.reserve c.comparison c.operand (firstSlot start) with
  | error e => rfl
  | ok slots =>
    rw [← count_of_reserve hslots] at h
    rcases Slots.reserve_cases hslots with ⟨-, rfl⟩ | ⟨-, -, v, -, rfl⟩ | ⟨-, -, vs, -, -, rfl⟩
    · rfl
    · rfl
    · simp only [Slots.count, List.length_range'] at h
      simp [Except.mapError, bind, Except.bind, Overflow.add_of_lt h]

lemma renderConditionsAt_of_lt (hstart : 1 ≤ start)
    (h : start + (cs.flatMap Condition.boundValues).length < wordSize) :
    renderConditionsAt o cs start = (renderConditions cs start).mapError .rejected := by
  induction cs generalizing start with
  | nil => rfl
  | cons c rest ih =>
    rw [List.flatMap_cons, List.length_append, ← Nat.add_assoc] at h
    rw [renderConditionsAt, Condition.slotsAt_of_lt (by rw [firstSlot_of_one_le hstart]; omega), renderConditions,
      Condition.render, firstSlot_of_one_le hstart]
    cases hslots : Slots.reserve c.comparison c.operand start with
    | error e => rfl
    | ok slots =>
      have hcount := Condition.count_of_reserve hslots
      have hrest : renderConditionsAt o rest (start + slots.count) =
          (renderConditions rest (start + slots.count)).mapError .rejected := ih (by omega) (by omega)
      change (o.add _ _ >>= fun next => renderConditionsAt o rest next >>= _) = _
      rw [Overflow.add_of_lt (by omega)]
      change (renderConditionsAt o rest _ >>= _) = (renderConditions rest _ >>= _).mapError _
      rw [hrest, Outcome.mapError_bind]
      rfl

lemma Group.renderAt_of_lt {g : Group}
    (h : firstSlot start + (g.members.flatMap Condition.boundValues).length < wordSize) :
    g.renderAt o start = (g.render start).mapError .rejected := by
  rw [renderAt, renderConditionsAt_of_lt (one_le_firstSlot start) h, render, Outcome.mapError_bind]
  rfl

lemma Term.renderAt_of_lt {t : Term} (hstart : 1 ≤ start)
    (h : start + (t.conditions.flatMap Condition.boundValues).length < wordSize) :
    t.renderAt o start = (t.render start).mapError .rejected := by
  rw [← firstSlot_of_one_le hstart] at h
  cases t with
  | group g => exact Group.renderAt_of_lt h
  | condition c =>
    rw [conditions, List.flatMap_singleton] at h
    rw [renderAt, Condition.slotsAt_of_lt h, render, Condition.render, firstSlot_of_one_le hstart]
    cases hslots : Slots.reserve c.comparison c.operand start with
    | error e => rfl
    | ok slots =>
      rw [firstSlot_of_one_le hstart, ← Condition.count_of_reserve hslots] at h
      change (o.add _ _ >>= fun next => _) = _
      rw [Overflow.add_of_lt h]
      rfl

lemma renderTermsAt_of_lt (hstart : 1 ≤ start)
    (h : start + ((ts.flatMap Term.conditions).flatMap Condition.boundValues).length < wordSize) :
    renderTermsAt o ts start = (renderTerms ts start).mapError .rejected := by
  induction ts generalizing start with
  | nil => rfl
  | cons t rest ih =>
    rw [List.flatMap_cons, List.flatMap_append, List.length_append, ← Nat.add_assoc] at h
    rw [renderTermsAt, Term.renderAt_of_lt hstart (by omega), renderTerms]
    cases hfirst : t.render start with
    | error e => rfl
    | ok first =>
      have hnext : first.next = start + (t.conditions.flatMap Condition.boundValues).length := by
        rw [Term.render_eq_ok hfirst, firstSlot_of_one_le hstart]
      have hrest : renderTermsAt o rest first.next = (renderTerms rest first.next).mapError .rejected :=
        ih (by omega) (by omega)
      change (renderTermsAt o rest first.next >>= _) = (renderTerms rest first.next >>= _).mapError _
      rw [hrest, Outcome.mapError_bind]
      rfl

namespace WhereClause

/-- The slots from the start on, one for each value, and the one behind them are all words. -/
def FitFrom (cs : List Condition) (start : UInt64) : Prop :=
  firstSlot start.toNat + (cs.flatMap Condition.boundValues).length < wordSize

instance (cs : List Condition) (start : UInt64) : Decidable (FitFrom cs start) :=
  inferInstanceAs (Decidable (_ < _))

lemma renderAt_of_fitFrom {clause : WhereClause} {start : UInt64} (h : FitFrom clause.conditions start) :
    clause.renderAt o start = (clause.render start.toNat).mapError .rejected := by
  cases clause with
  | group g => exact Group.renderAt_of_lt h
  | terms ts =>
    rw [renderAt, renderTermsAt_of_lt (one_le_firstSlot _) h, render, Outcome.mapError_bind]
    rfl

end WhereClause

end Fitting

section Traps

def slotBehind : List Condition → Nat → Except Halt Nat
  | [], start => .ok start
  | c :: rest, start => do
      c.validate.mapError .rejected
      let next ← Overflow.traps.add start c.boundValues.length
      slotBehind rest next

@[simp]
lemma slotBehind_nil (start : Nat) : slotBehind [] start = .ok start :=
  rfl

lemma slotBehind_cons_of_error {e : FilterError} (h : c.validate = .error e) :
    slotBehind (c :: cs) start = .error (.rejected e) := by
  rw [slotBehind, h]
  rfl

lemma slotBehind_cons_of_lt (h : c.validate = .ok ()) (hlt : start + c.boundValues.length < wordSize) :
    slotBehind (c :: cs) start = slotBehind cs (start + c.boundValues.length) := by
  rw [slotBehind, h, Overflow.add_of_lt hlt]
  rfl

lemma slotBehind_cons_of_le (h : c.validate = .ok ()) (hle : wordSize ≤ start + c.boundValues.length) :
    slotBehind (c :: cs) start = .error .overflow := by
  rw [slotBehind, h, Overflow.add_traps_of_le hle]
  rfl

lemma slotBehind_append (cs cs' : List Condition) (start : Nat) :
    slotBehind (cs ++ cs') start = slotBehind cs start >>= slotBehind cs' := by
  induction cs generalizing start with
  | nil => rfl
  | cons c rest ih =>
    rw [List.cons_append, slotBehind, slotBehind]
    cases c.validate with
    | error e => rfl
    | ok u =>
      change (Overflow.traps.add start c.boundValues.length >>= _) =
        (Overflow.traps.add start c.boundValues.length >>= _) >>= _
      cases Overflow.traps.add start c.boundValues.length with
      | error e => rfl
      | ok next => exact ih next

lemma le_of_slotBehind {n : Nat} (h : slotBehind cs start = .ok n) : start ≤ n := by
  induction cs generalizing start with
  | nil => exact Nat.le_of_eq (Except.ok.inj h)
  | cons c rest ih =>
    obtain ⟨u, -, h⟩ := Outcome.bind_eq_ok_iff.mp h
    obtain ⟨next, hnext, h⟩ := Outcome.bind_eq_ok_iff.mp h
    have hle := ih h
    unfold Overflow.add at hnext
    split at hnext
    · obtain rfl := Except.ok.inj hnext
      omega
    · cases hnext

lemma Condition.add_slotsAt_traps {α : Type} (hstart : 1 ≤ start) (f : Nat → Except Halt α) :
    (c.slotsAt .traps start >>= fun slots => Overflow.traps.add start slots.count >>= f) =
      c.validate.mapError .rejected >>= fun _ => Overflow.traps.add start c.boundValues.length >>= f := by
  have hverdict := Slots.verdict_reserve c.comparison c.operand start
  rw [slotsAt, firstSlot_of_one_le hstart, validate, Slots.reserveAt]
  change _ = (verdict (Slots.reserve c.comparison c.operand 1)).mapError Halt.rejected >>= _
  rw [← hverdict]
  cases hslots : Slots.reserve c.comparison c.operand start with
  | error e => rfl
  | ok slots =>
    rw [← count_of_reserve hslots]
    rcases Slots.reserve_cases hslots with ⟨-, rfl⟩ | ⟨-, -, v, -, rfl⟩ | ⟨-, -, vs, -, -, rfl⟩
    · rfl
    · rfl
    · change (Overflow.traps.add _ _ >>= fun stop => _) >>= _ = Overflow.traps.add _ _ >>= _
      by_cases hlt : start + vs.length < wordSize
      · simp [Slots.count, Overflow.add_of_lt hlt, bind, Except.bind]
      · simp [Slots.count, Overflow.add_traps_of_le (Nat.not_lt.mp hlt), bind, Except.bind]

lemma map_next_renderConditionsAt (hstart : 1 ≤ start) :
    (renderConditionsAt .traps cs start).map RenderedParts.next = slotBehind cs start := by
  induction cs generalizing start with
  | nil => rfl
  | cons c rest ih =>
    have hrest : ∀ slots, (Overflow.traps.add start slots >>= fun next =>
        (renderConditionsAt .traps rest next).map RenderedParts.next) =
        Overflow.traps.add start slots >>= slotBehind rest := by
      intro slots
      by_cases hlt : start + slots < wordSize
      · rw [Overflow.add_of_lt hlt]
        exact ih (Nat.le_trans hstart (Nat.le_add_right _ _))
      · rw [Overflow.add_traps_of_le (Nat.not_lt.mp hlt)]
        rfl
    rw [renderConditionsAt, Outcome.map_bind, slotBehind, ← Condition.add_slotsAt_traps hstart]
    simp only [Outcome.map_bind, ← hrest]
    simp only [Except.map, Outcome.bind_ok_eq_map]

lemma Group.map_next_renderAt (g : Group) (start : Nat) :
    (g.renderAt .traps start).map Rendered.next = slotBehind g.members (firstSlot start) := by
  rw [← map_next_renderConditionsAt (one_le_firstSlot start), renderAt, Outcome.bind_ok_eq_map, Outcome.map_map]

lemma Term.map_next_renderAt {t : Term} (hstart : 1 ≤ start) :
    (t.renderAt .traps start).map Rendered.next = slotBehind t.conditions start := by
  cases t with
  | group g => rw [renderAt, g.map_next_renderAt, firstSlot_of_one_le hstart, conditions]
  | condition c =>
    rw [renderAt, Outcome.map_bind, conditions, slotBehind, ← Condition.add_slotsAt_traps hstart]
    simp only [Outcome.bind_ok_eq_map, Outcome.map_map]
    rfl

lemma map_next_renderTermsAt (hstart : 1 ≤ start) :
    (renderTermsAt .traps ts start).map RenderedParts.next = slotBehind (ts.flatMap Term.conditions) start := by
  induction ts generalizing start with
  | nil => rfl
  | cons t rest ih =>
    have hfirst := t.map_next_renderAt hstart
    rw [renderTermsAt, Outcome.map_bind, List.flatMap_cons, slotBehind_append, ← hfirst]
    cases h : t.renderAt .traps start with
    | error e => rfl
    | ok first =>
      rw [h] at hfirst
      have hnext := Nat.le_trans hstart (le_of_slotBehind hfirst.symm)
      change ((renderTermsAt .traps rest first.next >>= _).map _ = slotBehind _ first.next)
      rw [← ih hnext, Outcome.bind_ok_eq_map, Outcome.map_map]

lemma WhereClause.map_next_renderAt (clause : WhereClause) (start : UInt64) :
    (clause.renderAt .traps start).map Rendered.next = slotBehind clause.conditions (firstSlot start.toNat) := by
  cases clause with
  | group g => exact g.map_next_renderAt start.toNat
  | terms ts =>
    rw [conditions_terms, ← map_next_renderTermsAt (one_le_firstSlot _), renderAt, Outcome.bind_ok_eq_map,
      Outcome.map_map]

lemma slotBehind_eq_ok_iff {n : Nat} (hstart : start < wordSize) : slotBehind cs start = .ok n ↔
    (∀ c ∈ cs, c.validate = .ok ()) ∧ start + (cs.flatMap Condition.boundValues).length < wordSize ∧
      n = start + (cs.flatMap Condition.boundValues).length := by
  induction cs generalizing start with
  | nil => simp [hstart, eq_comm]
  | cons c rest ih =>
    rw [List.forall_mem_cons, List.flatMap_cons, List.length_append, ← Nat.add_assoc]
    cases hc : c.validate with
    | error e => simp [slotBehind_cons_of_error hc]
    | ok u =>
      by_cases hlt : start + c.boundValues.length < wordSize
      · rw [slotBehind_cons_of_lt hc hlt, ih hlt]
        simp only [true_and]
      · rw [slotBehind_cons_of_le hc (Nat.not_lt.mp hlt)]
        simp only [reduceCtorEq, false_iff]
        omega

lemma slotBehind_eq_error_iff {halt : Halt} : slotBehind cs start = .error halt ↔
    ∃ pre c post n, cs = pre ++ c :: post ∧ slotBehind pre start = .ok n ∧ slotBehind [c] n = .error halt := by
  constructor
  · intro h
    induction cs generalizing start with
    | nil => cases h
    | cons c rest ih =>
      rcases Outcome.bind_eq_error_iff.mp ((slotBehind_append [c] rest start).symm.trans h) with hc | ⟨n, hn, h⟩
      · exact ⟨[], c, rest, start, rfl, rfl, hc⟩
      · obtain ⟨pre, d, post, m, rfl, hpre, hd⟩ := ih h
        refine ⟨c :: pre, d, post, m, rfl, ?_, hd⟩
        rw [← List.singleton_append, slotBehind_append, hn]
        exact hpre
  · rintro ⟨pre, c, post, n, rfl, hpre, hc⟩
    rw [← List.singleton_append, slotBehind_append, hpre]
    change slotBehind ([c] ++ post) n = _
    rw [slotBehind_append, hc]
    rfl

lemma slotBehind_singleton_eq_rejected_iff {e : FilterError} :
    slotBehind [c] start = .error (.rejected e) ↔ c.validate = .error e := by
  cases hc : c.validate with
  | error e' => simp [slotBehind_cons_of_error hc]
  | ok u =>
    by_cases hlt : start + c.boundValues.length < wordSize
    · simp [slotBehind_cons_of_lt hc hlt]
    · simp [slotBehind_cons_of_le hc (Nat.not_lt.mp hlt)]

lemma slotBehind_singleton_eq_overflow_iff : slotBehind [c] start = .error .overflow ↔
    c.validate = .ok () ∧ wordSize ≤ start + c.boundValues.length := by
  cases hc : c.validate with
  | error e' => simp [slotBehind_cons_of_error hc]
  | ok u =>
    by_cases hlt : start + c.boundValues.length < wordSize
    · simp [slotBehind_cons_of_lt hc hlt, hlt]
    · simp [slotBehind_cons_of_le hc (Nat.not_lt.mp hlt), Nat.not_lt.mp hlt]

lemma firstSlot_lt_wordSize (start : UInt64) : firstSlot start.toNat < wordSize :=
  Nat.max_lt.mpr ⟨start.toNat_lt, by decide⟩

namespace WhereClause

variable {clause : WhereClause} {start : UInt64}

lemma exists_renderAt_traps_iff : (∃ r, clause.renderAt .traps start = .ok r) ↔
    (∀ c ∈ clause.conditions, c.validate = .ok ()) ∧ FitFrom clause.conditions start := by
  have hbehind : ∀ n, (∃ r, clause.renderAt .traps start = .ok r ∧ r.next = n) ↔
      (∀ c ∈ clause.conditions, c.validate = .ok ()) ∧ FitFrom clause.conditions start ∧
        n = firstSlot start.toNat + (clause.conditions.flatMap Condition.boundValues).length := by
    intro n
    rw [← Outcome.map_eq_ok_iff, clause.map_next_renderAt, slotBehind_eq_ok_iff (firstSlot_lt_wordSize start), FitFrom]
  constructor
  · rintro ⟨r, hr⟩
    obtain ⟨hvalid, hfits, -⟩ := (hbehind r.next).mp ⟨r, hr, rfl⟩
    exact ⟨hvalid, hfits⟩
  · rintro ⟨hvalid, hfits⟩
    obtain ⟨r, hr, -⟩ := (hbehind _).mpr ⟨hvalid, hfits, rfl⟩
    exact ⟨r, hr⟩

lemma renderAt_traps_eq_rejected_iff {e : FilterError} : clause.renderAt .traps start = .error (.rejected e) ↔
    ∃ pre c post, clause.conditions = pre ++ c :: post ∧ (∀ x ∈ pre, x.validate = .ok ()) ∧ FitFrom pre start ∧
      c.validate = .error e := by
  rw [← Outcome.map_eq_error_iff (f := Rendered.next), map_next_renderAt, slotBehind_eq_error_iff]
  simp only [slotBehind_eq_ok_iff (firstSlot_lt_wordSize start), slotBehind_singleton_eq_rejected_iff]
  constructor
  · rintro ⟨pre, c, post, n, hcs, ⟨hpre, hfits, -⟩, hc⟩
    exact ⟨pre, c, post, hcs, hpre, hfits, hc⟩
  · rintro ⟨pre, c, post, hcs, hpre, hfits, hc⟩
    exact ⟨pre, c, post, _, hcs, ⟨hpre, hfits, rfl⟩, hc⟩

lemma renderAt_traps_eq_overflow_iff : clause.renderAt .traps start = .error .overflow ↔
    ∃ pre c post, clause.conditions = pre ++ c :: post ∧ (∀ x ∈ pre ++ [c], x.validate = .ok ()) ∧
      FitFrom pre start ∧ ¬ FitFrom (pre ++ [c]) start := by
  rw [← Outcome.map_eq_error_iff (f := Rendered.next), map_next_renderAt, slotBehind_eq_error_iff]
  simp only [slotBehind_eq_ok_iff (firstSlot_lt_wordSize start), slotBehind_singleton_eq_overflow_iff]
  have hbehind : ∀ (pre : List Condition) (c : Condition), FitFrom (pre ++ [c]) start ↔
      firstSlot start.toNat + (pre.flatMap Condition.boundValues).length + c.boundValues.length < wordSize := by
    intro pre c
    rw [FitFrom, List.flatMap_append, List.flatMap_singleton, List.length_append, ← Nat.add_assoc]
  simp only [hbehind, Nat.not_lt, List.forall_mem_append, List.forall_mem_singleton]
  constructor
  · rintro ⟨pre, c, post, n, hcs, ⟨hpre, hfits, rfl⟩, hc, hover⟩
    exact ⟨pre, c, post, hcs, ⟨hpre, hc⟩, hfits, hover⟩
  · rintro ⟨pre, c, post, hcs, ⟨hpre, hc⟩, hfits, hover⟩
    exact ⟨pre, c, post, _, hcs, ⟨hpre, hfits, rfl⟩, hc, hover⟩

end WhereClause

end Traps

section Wraps

lemma verdict_add_wraps {α : Type} {a b : Nat} {f : Nat → Except Halt α} {y : Except Halt Unit}
    (h : ∀ n, verdict (f n) = y) : verdict (Overflow.wraps.add a b >>= f) = y := by
  obtain ⟨n, hn⟩ := Overflow.exists_add_wraps a b
  rw [hn]
  exact h n

lemma Condition.verdict_slotsAt_wraps (c : Condition) (start : Nat) :
    verdict (c.slotsAt .wraps start) = c.validate.mapError .rejected := by
  have hverdict := Slots.verdict_reserve c.comparison c.operand (firstSlot start)
  rw [slotsAt, Slots.reserveAt, validate]
  change _ = (verdict (Slots.reserve c.comparison c.operand 1)).mapError Halt.rejected
  rw [← hverdict, ← Outcome.verdict_mapError]
  cases Slots.reserve c.comparison c.operand (firstSlot start) with
  | error e => rfl
  | ok slots =>
    cases slots with
    | many indices => exact verdict_add_wraps fun n => rfl
    | none | one => rfl

lemma verdict_renderConditionsAt_wraps (cs : List Condition) (start : Nat) :
    verdict (renderConditionsAt .wraps cs start) = (cs.forM Condition.validate).mapError .rejected := by
  induction cs generalizing start with
  | nil => rfl
  | cons c rest ih =>
    rw [renderConditionsAt, Outcome.verdict_bind (y := (rest.forM Condition.validate).mapError .rejected),
      c.verdict_slotsAt_wraps]
    · exact (Outcome.mapError_bind _ _ _).symm
    · intro slots
      exact verdict_add_wraps fun n => by rw [Outcome.verdict_bind_ok, ih]

lemma Group.verdict_renderAt_wraps (g : Group) (start : Nat) :
    verdict (g.renderAt .wraps start) = (g.members.forM Condition.validate).mapError .rejected := by
  rw [renderAt, Outcome.verdict_bind_ok, verdict_renderConditionsAt_wraps]

lemma Term.verdict_renderAt_wraps (t : Term) (start : Nat) :
    verdict (t.renderAt .wraps start) = (t.conditions.forM Condition.validate).mapError .rejected := by
  cases t with
  | group g => exact g.verdict_renderAt_wraps start
  | condition c =>
    rw [renderAt, Outcome.verdict_bind (y := .ok ()), c.verdict_slotsAt_wraps, conditions]
    · change _ = (c.validate >>= fun _ => pure ()).mapError Halt.rejected
      cases c.validate <;> rfl
    · intro slots
      exact verdict_add_wraps fun n => rfl

lemma verdict_renderTermsAt_wraps (ts : List Term) (start : Nat) :
    verdict (renderTermsAt .wraps ts start) =
      ((ts.flatMap Term.conditions).forM Condition.validate).mapError .rejected := by
  induction ts generalizing start with
  | nil => rfl
  | cons t rest ih =>
    rw [renderTermsAt, Outcome.verdict_bind
      (y := ((rest.flatMap Term.conditions).forM Condition.validate).mapError .rejected),
      t.verdict_renderAt_wraps, List.flatMap_cons]
    · exact (Outcome.mapError_bind _ _ _).symm.trans (congrArg _ List.forM_append.symm)
    · intro first
      rw [Outcome.verdict_bind_ok, ih]

lemma WhereClause.verdict_renderAt_wraps (clause : WhereClause) (start : UInt64) :
    verdict (clause.renderAt .wraps start) = (clause.conditions.forM Condition.validate).mapError .rejected := by
  cases clause with
  | group g => exact g.verdict_renderAt_wraps start.toNat
  | terms ts => rw [renderAt, Outcome.verdict_bind_ok, verdict_renderTermsAt_wraps, conditions_terms]

end Wraps

end EntityQuery
