import EntityQuery.Proofs.Rendering.Template
import EntityQuery.Proofs.Rendering.Verdict
import Mathlib.Tactic.Common

/-! Clauses as templates. What a clause is rendered to is its template with the slots numbered from the start
on, one for each value that its conditions bind, in the order of the conditions. -/

namespace EntityQuery

open Template (Lists fillAll)

lemma Slots.reserve_cases {comparison : Comparison} {operand : Option Operand} {start : Nat}
    {slots : Slots} (h : Slots.reserve comparison operand start = .ok slots) :
    (comparison.isNullCheck ∧ slots = .none) ∨
    (¬ comparison.isNullCheck ∧ ¬ comparison.takesList ∧ ∃ v, operand = some (.scalar v) ∧
      slots = .one start) ∨
    (¬ comparison.isNullCheck ∧ comparison.takesList ∧ ∃ vs, operand = some (.list vs) ∧ vs ≠ [] ∧
      slots = .many (List.range' start vs.length)) := by
  rw [reserve.eq_def] at h
  by_cases hnull : comparison.isNullCheck
  · rw [if_pos hnull] at h
    exact Or.inl ⟨hnull, (Except.ok.inj h).symm⟩
  · rw [if_neg hnull] at h
    rcases operand with _ | (v | vs)
    · cases h
    · dsimp only at h
      split at h
      · cases h
      · next hlist => exact Or.inr (Or.inl ⟨hnull, hlist, v, rfl, (Except.ok.inj h).symm⟩)
    · dsimp only at h
      split at h
      · cases h
      · next hlist =>
        split at h
        · cases h
        · next hvs =>
          exact Or.inr (Or.inr ⟨hnull, not_not.mp hlist, vs, rfl, by simpa using hvs, (Except.ok.inj h).symm⟩)

def Operand.template : Operand → Template
  | scalar _ => [.hole]
  | list vs => .fixed "(" :: [.fixed ", "].intercalate (vs.map fun _ => [.hole]) ++ [.fixed ")"]

lemma fillAll_hole (vs : List Scalar) (n : Nat) :
    fillAll (vs.map fun _ => [.hole]) n = (List.range' n vs.length).map placeholder := by
  induction vs generalizing n with
  | nil => rfl
  | cons v vs ih =>
    rw [List.map_cons, fillAll, ih, List.length_cons, List.range'_succ, List.map_cons]
    simp [Template.fill]

lemma Operand.holes_template (o : Operand) : o.template.holes = o.values.length := by
  cases o with
  | scalar v => rfl
  | list vs =>
    have hones : ((vs.map fun _ => [Piece.hole]).map fun t => (id t : Template).holes).sum = vs.length := by
      induction vs with
      | nil => rfl
      | cons v vs ih =>
        rw [List.map_cons, List.map_cons, List.sum_cons, ih]
        exact Nat.add_comm 1 _
    rw [template, values, List.cons_append, Template.holes_fixed, Template.holes_append,
      (Template.lists_intercalate ", " _).holes, hones]
    rfl

lemma Operand.fill_template_list (vs : List Scalar) (n : Nat) : (Operand.list vs).template.fill n =
    (Slots.many (List.range' n vs.length)).text := by
  rw [template, List.cons_append, Template.fill, Template.fill_append, ← Template.intercalate_fillAll,
    fillAll_hole]
  simp [Template.fill, Slots.text, String.append_assoc]

namespace Condition

def bound? (c : Condition) : Option Operand :=
  if c.comparison.isNullCheck then none else c.operand

def template (c : Condition) : Template :=
  match c.bound? with
  | none => [.fixed (c.columnRef ++ " " ++ c.comparison.token)]
  | some o => .fixed (c.columnRef ++ " " ++ c.comparison.token ++ " ") :: o.template

lemma boundValues_eq (c : Condition) : c.boundValues = (c.bound?.map Operand.values).getD [] := by
  rw [boundValues, bound?]
  split <;> rfl

lemma holes_template (c : Condition) : c.template.holes = c.boundValues.length := by
  rw [template, boundValues_eq]
  cases c.bound? with
  | none => rfl
  | some o => simp [o.holes_template]

lemma not_isBlank_template (c : Condition) : ¬ c.template.isBlank := by
  rw [template]
  cases c.bound? with
  | none => simp [Template.isBlank, columnRef]
  | some o => simp [Template.isBlank, columnRef]

lemma render_eq_ok {c : Condition} {start : Nat} {r : Rendered} (h : c.render start = .ok r) :
    r = ⟨c.template.fill (firstSlot start), c.boundValues, firstSlot start + c.boundValues.length⟩ := by
  obtain ⟨slots, hslots, h⟩ := Outcome.bind_eq_ok_iff.mp h
  obtain rfl := Except.ok.inj h
  rcases Slots.reserve_cases hslots with ⟨hnull, rfl⟩ | ⟨hnull, -, v, hv, rfl⟩ | ⟨hnull, -, vs, hvs, -, rfl⟩
  · simp [textWith, template, bound?, boundValues, hnull, Template.fill, Slots.count]
  · simp [textWith, template, bound?, boundValues, hnull, hv, Operand.template, Operand.values, Template.fill,
      Slots.count, Slots.text]
  · simp [textWith, template, bound?, boundValues, hnull, hvs, Template.fill, Slots.count, Operand.values,
      Operand.fill_template_list]

lemma exists_operand {c : Condition} (h : c.validate = .ok ()) (hnull : ¬ c.comparison.isNullCheck) :
    ∃ o, c.operand = some o := by
  obtain ⟨slots, hslots, -⟩ := Outcome.map_eq_ok_iff.mp h
  rcases Slots.reserve_cases hslots with ⟨hcheck, -⟩ | ⟨-, -, v, hv, -⟩ | ⟨-, -, vs, hvs, -⟩
  · exact absurd hcheck hnull
  · exact ⟨_, hv⟩
  · exact ⟨_, hvs⟩

lemma holes_of_lists {t : Template} {cs : List Condition} (h : Lists template t cs) :
    t.holes = (cs.flatMap boundValues).length := by
  rw [h.holes, List.length_flatMap]
  simp only [holes_template]

end Condition

lemma one_le_firstSlot (start : Nat) : 1 ≤ firstSlot start :=
  Nat.le_max_right _ _

lemma firstSlot_of_one_le {start : Nat} (h : 1 ≤ start) : firstSlot start = start :=
  Nat.max_eq_left h

lemma renderConditions_eq_ok {cs : List Condition} {start : Nat} {parts : RenderedParts}
    (hstart : 1 ≤ start) (h : renderConditions cs start = .ok parts) :
    parts = ⟨fillAll (cs.map Condition.template) start, cs.flatMap Condition.boundValues,
      start + (cs.flatMap Condition.boundValues).length⟩ := by
  induction cs generalizing start parts with
  | nil => exact (Except.ok.inj h).symm
  | cons c rest ih =>
    obtain ⟨first, hfirst, h⟩ := Outcome.bind_eq_ok_iff.mp h
    obtain ⟨others, hothers, h⟩ := Outcome.bind_eq_ok_iff.mp h
    obtain rfl := Except.ok.inj h
    obtain rfl := Condition.render_eq_ok hfirst
    rw [firstSlot_of_one_le hstart] at hothers ⊢
    obtain rfl := ih (Nat.le_trans hstart (Nat.le_add_right _ _)) hothers
    simp [fillAll, c.holes_template, Nat.add_assoc]

namespace Group

def template (g : Group) : Template :=
  if g.members.isEmpty then []
  else .fixed "(" :: [.fixed (" " ++ g.connective.name ++ " ")].intercalate
    (g.members.map Condition.template) ++ [.fixed ")"]

lemma lists_template (g : Group) : Lists Condition.template g.template g.members := by
  have hmembers := Lists.intercalate (f := Condition.template) (" " ++ g.connective.name ++ " ") g.members
    fun c _ => .of_item c
  rw [template]
  split
  · next h =>
    rw [List.isEmpty_iff.mp h]
    exact .nil
  · simpa using (Lists.fixed "(" hmembers).append (.fixed ")" .nil)

lemma render_eq_ok {g : Group} {start : Nat} {r : Rendered} (h : g.render start = .ok r) :
    r = ⟨g.template.fill (firstSlot start), g.members.flatMap Condition.boundValues,
      firstSlot start + (g.members.flatMap Condition.boundValues).length⟩ := by
  obtain ⟨parts, hparts, h⟩ := Outcome.bind_eq_ok_iff.mp h
  obtain rfl := Except.ok.inj h
  obtain rfl := renderConditions_eq_ok (one_le_firstSlot start) hparts
  rw [template]
  cases g.members with
  | nil => rfl
  | cons c rest =>
    simp only [Template.intercalate_fillAll]
    simp [fillAll, Template.fill, Template.fill_append, String.append_assoc]

end Group

namespace Term

def template : Term → Template
  | condition c => c.template
  | group g => g.template

lemma lists_template (t : Term) : Lists Condition.template t.template t.conditions := by
  cases t with
  | condition c => exact .of_item c
  | group g => exact g.lists_template

lemma render_eq_ok {t : Term} {start : Nat} {r : Rendered} (h : t.render start = .ok r) :
    r = ⟨t.template.fill (firstSlot start), t.conditions.flatMap Condition.boundValues,
      firstSlot start + (t.conditions.flatMap Condition.boundValues).length⟩ := by
  cases t with
  | condition c => simpa [conditions, template] using Condition.render_eq_ok h
  | group g => exact Group.render_eq_ok h

end Term

lemma renderTerms_eq_ok {ts : List Term} {start : Nat} {parts : RenderedParts}
    (hstart : 1 ≤ start) (h : renderTerms ts start = .ok parts) :
    parts = ⟨(fillAll (ts.map Term.template) start).filter fun s => s ≠ "",
      (ts.flatMap Term.conditions).flatMap Condition.boundValues,
      start + ((ts.flatMap Term.conditions).flatMap Condition.boundValues).length⟩ := by
  induction ts generalizing start parts with
  | nil => exact (Except.ok.inj h).symm
  | cons t rest ih =>
    obtain ⟨first, hfirst, h⟩ := Outcome.bind_eq_ok_iff.mp h
    obtain ⟨others, hothers, h⟩ := Outcome.bind_eq_ok_iff.mp h
    obtain rfl := Except.ok.inj h
    obtain rfl := Term.render_eq_ok hfirst
    rw [firstSlot_of_one_le hstart] at hothers ⊢
    obtain rfl := ih (Nat.le_trans hstart (Nat.le_add_right _ _)) hothers
    have hholes := Condition.holes_of_lists t.lists_template
    by_cases htext : t.template.fill start = ""
    · simp [fillAll, htext, hholes, Nat.add_assoc]
    · simp [fillAll, htext, hholes, Nat.add_assoc]

namespace WhereClause

def template : WhereClause → Template
  | terms ts =>
      if ts.all fun t => t.template.isBlank then []
      else .fixed "where " :: Template.join " and " (ts.map Term.template)
  | group g => g.template

lemma lists_template (clause : WhereClause) : Lists Condition.template clause.template clause.conditions := by
  cases clause with
  | group g => exact g.lists_template
  | terms ts =>
    have hterms := Lists.join Condition.not_isBlank_template " and " ts fun t _ => t.lists_template
    rw [template, conditions_terms]
    split
    · next h =>
      have hnone : ts.flatMap Term.conditions = [] := by
        apply List.flatMap_eq_nil_iff.mpr
        intro t ht
        exact t.lists_template.eq_nil_of_isBlank Condition.not_isBlank_template (List.all_eq_true.mp h t ht)
      rw [hnone]
      exact .nil
    · exact .fixed "where " hterms

lemma fill_template_terms (ts : List Term) (n : Nat) :
    (terms ts).template.fill n =
      let texts := (fillAll (ts.map Term.template) n).filter fun s => s ≠ ""
      if texts.isEmpty then "" else "where " ++ " and ".intercalate texts := by
  dsimp only
  rw [Template.isEmpty_filter_fillAll, Template.intercalate_filter_fillAll, template, List.all_map]
  change Template.fill (if ts.all (Template.isBlank ∘ Term.template) then _ else _) n = _
  split <;> rfl

lemma render_eq_ok {clause : WhereClause} {start : Nat} {r : Rendered} (h : clause.render start = .ok r) :
    r = ⟨clause.template.fill (firstSlot start), clause.conditions.flatMap Condition.boundValues,
      firstSlot start + (clause.conditions.flatMap Condition.boundValues).length⟩ := by
  cases clause with
  | group g => exact Group.render_eq_ok h
  | terms ts =>
    obtain ⟨parts, hparts, h⟩ := Outcome.bind_eq_ok_iff.mp h
    obtain rfl := Except.ok.inj h
    obtain rfl := renderTerms_eq_ok (one_le_firstSlot start) hparts
    rw [fill_template_terms, conditions_terms]

lemma validate_of_render (clause : WhereClause) {start : Nat} {r : Rendered} (h : clause.render start = .ok r) :
    ∀ c ∈ clause.conditions, c.validate = .ok () := by
  rw [← Outcome.forM_eq_ok_iff, ← clause.verdict_render start, h]
  rfl

lemma exists_render (clause : WhereClause) {start : Nat} {r : Rendered} (h : clause.render start = .ok r)
    (start' : Nat) : ∃ r', clause.render start' = .ok r' := by
  have hverdict := clause.verdict_render start
  rw [← clause.verdict_render start', h] at hverdict
  exact Outcome.verdict_eq_ok_iff.mp hverdict.symm

/-- What a clause is rendered to is its template, which the start has no part in, with the slots numbered
from the start on. The `j`-th value is the one that belongs to the `j`-th slot in its condition. -/
theorem render_fills_template (clause : WhereClause) (start : Nat) (r : Rendered)
    (h : clause.render start = .ok r) :
    r.text = clause.template.fill (max start 1) ∧
    clause.template.holes = r.values.length ∧
    r.next = max start 1 + r.values.length ∧
    (∀ start', ∃ r', clause.render start' = .ok r' ∧ r'.values = r.values) ∧
    (∀ j < r.values.length, ∃ pre c post before after i,
      clause.conditions = pre ++ c :: post ∧ clause.template = before ++ c.template ++ after ∧
      before.holes = (pre.flatMap Condition.boundValues).length ∧ i < c.template.holes ∧
      j = before.holes + i ∧ r.values[j]? = c.boundValues[i]?) ∧
    ∀ c ∈ clause.conditions, c.template.holes = c.boundValues.length ∧
      (c.comparison.isNullCheck → c.boundValues = []) ∧
      (¬ c.comparison.isNullCheck → ∃ o, c.operand = some o ∧ c.boundValues = o.values) := by
  have hholes := Condition.holes_of_lists clause.lists_template
  obtain rfl := render_eq_ok h
  refine ⟨rfl, hholes, rfl, fun start' => ?_, fun j hj => ?_, fun c hc => ⟨c.holes_template, ?_, ?_⟩⟩
  · obtain ⟨r', hr'⟩ := clause.exists_render h start'
    exact ⟨r', hr', by rw [render_eq_ok hr']⟩
  · obtain ⟨pre, c, post, before, after, i, hcs, ht, hbefore, hi, rfl⟩ :=
      clause.lists_template.exists_of_lt_holes (hholes ▸ hj)
    refine ⟨pre, c, post, before, after, i, hcs, ht, Condition.holes_of_lists hbefore, hi, rfl, ?_⟩
    -- the values of the conditions before `c` are as many as the holes before its template
    rw [hcs, List.flatMap_append, List.flatMap_cons, Condition.holes_of_lists hbefore,
      List.getElem?_append_right (Nat.le_add_right _ _), Nat.add_sub_cancel_left,
      List.getElem?_append_left (c.holes_template ▸ hi)]
  · intro hnull
    rw [Condition.boundValues, if_pos hnull]
  · intro hnull
    obtain ⟨o, ho⟩ := Condition.exists_operand (clause.validate_of_render h c hc) hnull
    exact ⟨o, ho, by rw [Condition.boundValues, if_neg hnull, ho]; rfl⟩

def mixed : WhereClause :=
  .terms [.condition ⟨"users", "state", .eq, some (.scalar (.text "CA"))⟩,
    .group ⟨.or, [⟨"users", "age", .gt, some (.scalar (.integer 30))⟩,
      ⟨"users", "tag", .isIn, some (.list [.text "a", .text "b"])⟩]⟩,
    .group ⟨.and, []⟩,
    .condition ⟨"users", "deleted_at", .isNotNull, some (.scalar (.boolean true))⟩]

theorem mixed_from_seven : ∃ r, mixed.render 7 = .ok r ∧
    r.text = "where users.state = $7 and (users.age > $8 or users.tag in ($9, $10)) and " ++
      "users.deleted_at is not null" ∧
    r.values = [.text "CA", .integer 30, .text "a", .text "b"] ∧
    mixed.template.fill 7 = r.text ∧ mixed.template.holes = 4 ∧ r.next = 11 := by
  obtain ⟨r, hr⟩ : ∃ r, mixed.render 7 = .ok r := by
    apply Outcome.verdict_eq_ok_iff.mp
    rw [mixed.verdict_render]
    rfl
  obtain ⟨htext, hholes, hnext, -⟩ := mixed.render_fills_template 7 r hr
  have hvalues : r.values = [.text "CA", .integer 30, .text "a", .text "b"] := by
    rw [render_eq_ok hr]
    rfl
  rw [hvalues] at hholes hnext
  exact ⟨r, hr, htext.trans (by decide +kernel), hvalues, htext.symm, hholes, hnext⟩

end WhereClause

end EntityQuery
