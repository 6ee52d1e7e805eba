import EntityQuery.Proofs.Outcome
import EntityQuery.Statement.Select

/-! When rendering fails. Each part of a clause fails as its first condition that is not valid does, and the
number of the first slot plays no role. -/

namespace EntityQuery

open Outcome

lemma Slots.verdict_reserve (comparison : Comparison) (operand : Option Operand) (start : Nat) :
    verdict (Slots.reserve comparison operand start) = verdict (Slots.reserve comparison operand 1) := by
  rw [Slots.reserve.eq_def, Slots.reserve.eq_def _ _ 1]
  by_cases hnull : comparison.isNullCheck
  · rw [if_pos hnull, if_pos hnull]
  · rw [if_neg hnull, if_neg hnull]
    rcases operand with _ | (v | vs)
    · rfl
    · dsimp only
      split <;> rfl
    · dsimp only
      split
      · rfl
      · split <;> rfl

lemma Condition.verdict_render (c : Condition) (start : Nat) : verdict (c.render start) = c.validate := by
  rw [render, verdict_bind_ok, Slots.verdict_reserve]
  rfl

lemma verdict_renderConditions (cs : List Condition) (start : Nat) :
    verdict (renderConditions cs start) = cs.forM Condition.validate := by
  induction cs generalizing start with
  | nil => rfl
  | cons c rest ih =>
    rw [renderConditions, verdict_bind (y := rest.forM Condition.validate), c.verdict_render]
    · rfl
    · intro first
      rw [verdict_bind_ok, ih]

lemma Group.verdict_render (g : Group) (start : Nat) :
    verdict (g.render start) = g.members.forM Condition.validate := by
  rw [render, verdict_bind_ok, verdict_renderConditions]

def Term.conditions : Term → List Condition
  | condition c => [c]
  | group g => g.members

lemma Term.verdict_render (t : Term) (start : Nat) :
    verdict (t.render start) = t.conditions.forM Condition.validate := by
  cases t with
  | condition c =>
    rw [render, c.verdict_render, conditions]
    change _ = c.validate >>= fun _ => pure ()
    cases c.validate <;> rfl
  | group g => exact g.verdict_render start

lemma verdict_renderTerms (ts : List Term) (start : Nat) :
    verdict (renderTerms ts start) = (ts.flatMap Term.conditions).forM Condition.validate := by
  induction ts generalizing start with
  | nil => rfl
  | cons t rest ih =>
    rw [renderTerms, verdict_bind (y := (rest.flatMap Term.conditions).forM Condition.validate),
      t.verdict_render, List.flatMap_cons]
    · exact List.forM_append.symm
    · intro first
      rw [verdict_bind_ok, ih]

lemma WhereClause.conditions_terms (ts : List Term) : (terms ts).conditions = ts.flatMap Term.conditions :=
  rfl

lemma WhereClause.verdict_render (clause : WhereClause) (start : Nat) :
    verdict (clause.render start) = clause.conditions.forM Condition.validate := by
  cases clause with
  | terms ts => rw [render, verdict_bind_ok, verdict_renderTerms, conditions_terms]
  | group g => exact g.verdict_render start

lemma WhereClause.conditions_ofConditions (cs : List Condition) : (ofConditions cs).conditions = cs := by
  rw [ofConditions, conditions_terms, List.flatMap_map]
  exact List.flatMap_singleton' cs

lemma Select.verdict_build (sel : Select) : verdict sel.build = verdict (renderFilter sel.filter 1) :=
  verdict_bind_ok _ _

lemma Select.exists_build {sel : Select} {cs : List Condition}
    (hfilter : sel.filter = some (.ofConditions cs)) (hvalid : ∀ c ∈ cs, c.validate = .ok ()) :
    ∃ query, sel.build = .ok query := by
  rw [← verdict_eq_ok_iff, verdict_build, hfilter, renderFilter, WhereClause.verdict_render,
    WhereClause.conditions_ofConditions]
  exact forM_eq_ok_iff.mpr hvalid

end EntityQuery
