import EntityQuery.Proofs.Rendering.Word

/-! Groups without members. They leave no text, bind nothing and take no slot, so that a clause is rendered the same
with or without them as long as its slots are words, and a clause of nothing else leaves no text at all. A group that
has members is rendered behind `where` as it is alone. -/

namespace EntityQuery

lemma firstSlot_firstSlot (start : Nat) : firstSlot (firstSlot start) = firstSlot start :=
  firstSlot_of_one_le (one_le_firstSlot start)

namespace Group

variable {g : Group} {start : Nat}

lemma render_of_members_eq_nil (h : g.members = []) (start : Nat) :
    g.render start = .ok { next := firstSlot start } := by
  rw [render, h]
  rfl

end Group

namespace Term

def isEmptyGroup : Term → Bool
  | condition _ => false
  | group g => g.members.isEmpty

variable {t : Term} {start : Nat}

lemma isEmptyGroup_iff : t.isEmptyGroup = true ↔ t.conditions = [] := by
  cases t with
  | condition c => simp [isEmptyGroup, conditions]
  | group g => exact List.isEmpty_iff

lemma render_of_isEmptyGroup (ht : t.isEmptyGroup = true) (hstart : 1 ≤ start) :
    t.render start = .ok { next := start } := by
  cases t with
  | condition c => cases ht
  | group g =>
    rw [render, Group.render_of_members_eq_nil (isEmptyGroup_iff.mp ht), firstSlot_of_one_le hstart]

lemma one_le_next {r : Rendered} (h : t.render start = .ok r) : 1 ≤ r.next := by
  rw [render_eq_ok h]
  exact Nat.le_trans (one_le_firstSlot start) (Nat.le_add_right _ _)

end Term

def withoutEmptyGroups (ts : List Term) : List Term :=
  ts.filter fun t => ¬ t.isEmptyGroup

lemma withoutEmptyGroups_eq_nil {ts : List Term} (h : ts.flatMap Term.conditions = []) :
    withoutEmptyGroups ts = [] := by
  apply List.filter_eq_nil_iff.mpr
  intro t ht
  simpa using Term.isEmptyGroup_iff.mpr (List.flatMap_eq_nil_iff.mp h t ht)

lemma renderTerms_cons_of_isEmptyGroup {t : Term} {rest : List Term} {start : Nat}
    (ht : t.isEmptyGroup = true) (hstart : 1 ≤ start) : renderTerms (t :: rest) start = renderTerms rest start := by
  rw [renderTerms, Term.render_of_isEmptyGroup ht hstart]
  change (renderTerms rest start >>= _) = _
  cases renderTerms rest start <;> rfl

lemma renderTerms_withoutEmptyGroups (ts : List Term) {start : Nat} (hstart : 1 ≤ start) :
    renderTerms (withoutEmptyGroups ts) start = renderTerms ts start := by
  induction ts generalizing start with
  | nil => rfl
  | cons t rest ih =>
    by_cases ht : t.isEmptyGroup
    · rw [renderTerms_cons_of_isEmptyGroup ht hstart, ← ih hstart, withoutEmptyGroups, List.filter_cons]
      simp [ht, withoutEmptyGroups]
    · have hkeep : withoutEmptyGroups (t :: rest) = t :: withoutEmptyGroups rest := by
        simp [withoutEmptyGroups, ht]
      rw [hkeep, renderTerms, renderTerms]
      cases hfirst : t.render start with
      | error err => rfl
      | ok first =>
        -- the next free slot is not zero either, so the rest starts where it would
        change (renderTerms (withoutEmptyGroups rest) first.next >>= _) = _
        rw [ih (Term.one_le_next hfirst)]
        rfl

namespace WhereClause

lemma render_withoutEmptyGroups (ts : List Term) (start : Nat) :
    (terms (withoutEmptyGroups ts)).render start = (terms ts).render start := by
  rw [render, render, renderTerms_withoutEmptyGroups ts (one_le_firstSlot start)]

lemma conditions_withoutEmptyGroups (ts : List Term) :
    (terms (withoutEmptyGroups ts)).conditions = (terms ts).conditions := by
  rw [conditions_terms, conditions_terms]
  induction ts with
  | nil => rfl
  | cons t rest ih =>
    by_cases ht : t.isEmptyGroup
    · rw [List.flatMap_cons, Term.isEmptyGroup_iff.mp ht, List.nil_append, ← ih]
      simp [withoutEmptyGroups, ht]
    · rw [List.flatMap_cons, ← ih]
      simp [withoutEmptyGroups, ht]

lemma renderAt_withoutEmptyGroups_of_fitFrom {ts : List Term} {start : UInt64} (o : Overflow)
    (h : FitFrom (terms ts).conditions start) :
    (terms (withoutEmptyGroups ts)).renderAt o start = (terms ts).renderAt o start := by
  rw [renderAt_of_fitFrom h, renderAt_of_fitFrom (conditions_withoutEmptyGroups ts ▸ h), render_withoutEmptyGroups]

lemma renderAt_traps_withoutEmptyGroups (ts : List Term) (start : UInt64) :
    (terms (withoutEmptyGroups ts)).renderAt .traps start = (terms ts).renderAt .traps start := by
  by_cases hfits : FitFrom (terms ts).conditions start
  · exact renderAt_withoutEmptyGroups_of_fitFrom _ hfits
  · have hwithout := (terms (withoutEmptyGroups ts)).map_next_renderAt start
    have hwith := (terms ts).map_next_renderAt start
    rw [conditions_withoutEmptyGroups] at hwithout
    cases hbehind : slotBehind (terms ts).conditions (firstSlot start.toNat) with
    | ok n => exact absurd ((slotBehind_eq_ok_iff (firstSlot_lt_wordSize start)).mp hbehind).2.1 hfits
    | error halt =>
      rw [hbehind] at hwithout hwith
      rw [Outcome.map_eq_error_iff.mp hwithout, Outcome.map_eq_error_iff.mp hwith]

end WhereClause

section Texts

variable {o : Overflow} {start : Nat}

lemma Condition.textWith_ne_empty (c : Condition) (slots : Slots) : c.textWith slots ≠ "" := by
  cases slots <;> simp [textWith, columnRef]

lemma length_texts_of_renderConditionsAt {cs : List Condition} {parts : RenderedParts}
    (h : renderConditionsAt o cs start = .ok parts) : parts.texts.length = cs.length := by
  induction cs generalizing start parts with
  | nil =>
    obtain rfl := Except.ok.inj h
    rfl
  | cons c rest ih =>
    obtain ⟨slots, -, h⟩ := Outcome.bind_eq_ok_iff.mp h
    obtain ⟨next, -, h⟩ := Outcome.bind_eq_ok_iff.mp h
    obtain ⟨others, hothers, h⟩ := Outcome.bind_eq_ok_iff.mp h
    obtain rfl := Except.ok.inj h
    exact congrArg Nat.succ (ih hothers)

lemma Group.text_eq_empty_iff {g : Group} {r : Rendered} (h : g.renderAt o start = .ok r) :
    r.text = "" ↔ g.members = [] := by
  obtain ⟨parts, hparts, h⟩ := Outcome.bind_eq_ok_iff.mp h
  obtain rfl := Except.ok.inj h
  have hlen := length_texts_of_renderConditionsAt hparts
  by_cases hne : parts.texts = []
  · rw [hne] at hlen
    simp [hne, List.length_eq_zero_iff.mp hlen.symm]
  · have hmembers : g.members ≠ [] := by
      intro hnil
      rw [hnil] at hlen
      exact hne (List.length_eq_zero_iff.mp hlen)
    simp [hne, hmembers]

lemma Term.text_eq_empty_iff {t : Term} {r : Rendered} (h : t.renderAt o start = .ok r) :
    r.text = "" ↔ t.conditions = [] := by
  cases t with
  | group g => exact Group.text_eq_empty_iff h
  | condition c =>
    obtain ⟨slots, -, h⟩ := Outcome.bind_eq_ok_iff.mp h
    obtain ⟨next, -, h⟩ := Outcome.bind_eq_ok_iff.mp h
    obtain rfl := Except.ok.inj h
    simp [conditions, c.textWith_ne_empty]

lemma texts_eq_nil_iff_of_renderTermsAt {ts : List Term} {parts : RenderedParts}
    (h : renderTermsAt o ts start = .ok parts) : parts.texts = [] ↔ ts.flatMap Term.conditions = [] := by
  induction ts generalizing start parts with
  | nil =>
    obtain rfl := Except.ok.inj h
    simp
  | cons t rest ih =>
    obtain ⟨first, hfirst, h⟩ := Outcome.bind_eq_ok_iff.mp h
    obtain ⟨others, hothers, h⟩ := Outcome.bind_eq_ok_iff.mp h
    obtain rfl := Except.ok.inj h
    rw [List.flatMap_cons, List.append_eq_nil_iff, ← Term.text_eq_empty_iff hfirst, ← ih hothers]
    by_cases htext : first.text = "" <;> simp [htext]

end Texts

namespace WhereClause

variable {o : Overflow} {clause : WhereClause} {start : UInt64}

lemma text_eq_empty_iff {r : Rendered} (h : clause.renderAt o start = .ok r) :
    r.text = "" ↔ clause.conditions = [] := by
  cases clause with
  | group g => exact Group.text_eq_empty_iff h
  | terms ts =>
    obtain ⟨parts, hparts, h⟩ := Outcome.bind_eq_ok_iff.mp h
    obtain rfl := Except.ok.inj h
    rw [conditions_terms, ← texts_eq_nil_iff_of_renderTermsAt hparts]
    by_cases hnil : parts.texts = [] <;> simp [hnil]

lemma renderAt_of_conditions_eq_nil (o : Overflow) (h : clause.conditions = []) (start : UInt64) :
    clause.renderAt o start = .ok { next := firstSlot start.toNat } := by
  have hfits : FitFrom clause.conditions start := by
    rw [h]
    exact firstSlot_lt_wordSize start
  rw [renderAt_of_fitFrom hfits]
  cases clause with
  | terms ts =>
    rw [← render_withoutEmptyGroups, withoutEmptyGroups_eq_nil h]
    rfl
  | group g =>
    rw [render, Group.render_of_members_eq_nil h]
    rfl

lemma conditions_of_isEmpty (h : clause.isEmpty = true) : clause.conditions = [] := by
  cases clause with
  | terms ts =>
    rw [List.isEmpty_iff.mp (show ts.isEmpty = true from h)]
    rfl
  | group g => exact List.isEmpty_iff.mp h

lemma renderAt_single_group (o : Overflow) {g : Group} (hne : g.members ≠ []) (start : UInt64) :
    (terms [.group g]).renderAt o start =
      ((group g).renderAt o start).map fun r => { r with text := "where " ++ r.text } := by
  have hfirst : g.renderAt o (firstSlot start.toNat) = g.renderAt o start.toNat := by
    rw [Group.renderAt, firstSlot_firstSlot, ← Group.renderAt]
  rw [renderAt, renderAt, renderTermsAt, Term.renderAt, hfirst]
  cases h : g.renderAt o start.toNat with
  | error halt => rfl
  | ok r =>
    have htext : r.text ≠ "" := mt (Group.text_eq_empty_iff h).mp hne
    simp [bind, Except.bind, Except.map, renderTermsAt, htext]

end WhereClause

end EntityQuery
