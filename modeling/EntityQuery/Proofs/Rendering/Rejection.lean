import EntityQuery.Proofs.Rendering.Updates
import EntityQuery.Proofs.Rendering.Word

/-! Which clauses are rejected. A clause is rejected if one of its conditions is not valid, with the error of the
first such condition, and a statement is rejected exactly as its clause is. A build that traps stops in front of
that if the slots before it are more than there are words. -/

namespace EntityQuery

open Outcome (verdict)

def FirstInvalid (cs : List Condition) (err : FilterError) : Prop :=
  ∃ pre c post, cs = pre ++ c :: post ∧ (∀ x ∈ pre, x.validate = .ok ()) ∧ c.validate = .error err

lemma forM_validate_eq_error_iff {cs : List Condition} {err : FilterError} :
    cs.forM Condition.validate = .error err ↔ FirstInvalid cs err := by
  rw [List.forM_eq_forM, Outcome.forM_eq_error_iff]
  simp only [← List.forM_eq_forM, Outcome.forM_eq_ok_iff]
  rfl

namespace WhereClause

variable {clause : WhereClause} {start : UInt64} {err : FilterError}

lemma exists_renderAt_wraps_iff :
    (∃ r, clause.renderAt .wraps start = .ok r) ↔ ∀ c ∈ clause.conditions, c.validate = .ok () := by
  rw [← Outcome.verdict_eq_ok_iff, verdict_renderAt_wraps, Outcome.mapError_eq_ok_iff, Outcome.forM_eq_ok_iff]

lemma renderAt_wraps_eq_error_iff {halt : Halt} : clause.renderAt .wraps start = .error halt ↔
    ∃ err, FirstInvalid clause.conditions err ∧ halt = .rejected err := by
  rw [← Outcome.verdict_eq_error_iff, verdict_renderAt_wraps, Outcome.mapError_eq_error_iff]
  simp only [forM_validate_eq_error_iff]

lemma renderAt_wraps_eq_rejected_iff :
    clause.renderAt .wraps start = .error (.rejected err) ↔ FirstInvalid clause.conditions err := by
  rw [renderAt_wraps_eq_error_iff]
  constructor
  · rintro ⟨e, he, h⟩
    exact Halt.rejected.inj h ▸ he
  · intro h
    exact ⟨err, h, rfl⟩

lemma renderAt_wraps_ne_overflow : clause.renderAt .wraps start ≠ .error .overflow := by
  intro h
  obtain ⟨err, -, hrejected⟩ := renderAt_wraps_eq_error_iff.mp h
  cases hrejected

end WhereClause

section Statements

variable {clause : WhereClause} {err : FilterError}

lemma exists_ok_iff_of_verdict {α : Type} {x : Except FilterError α} {cs : List Condition}
    (h : verdict x = cs.forM Condition.validate) : (∃ a, x = .ok a) ↔ ∀ c ∈ cs, c.validate = .ok () := by
  rw [← Outcome.verdict_eq_ok_iff, h, Outcome.forM_eq_ok_iff]

lemma eq_error_iff_of_verdict {α : Type} {x : Except FilterError α} {cs : List Condition}
    (h : verdict x = cs.forM Condition.validate) : x = .error err ↔ FirstInvalid cs err := by
  rw [← Outcome.verdict_eq_error_iff, h, forM_validate_eq_error_iff]

lemma Select.verdict_build_of_filter {sel : Select} (h : sel.filter = some clause) :
    verdict sel.build = clause.conditions.forM Condition.validate := by
  rw [verdict_build, h, renderFilter, clause.verdict_render]

lemma Update.verdict_build_of_filter {u : Update} (h : u.filter = some clause) (hset : u.assignments ≠ []) :
    verdict u.build = clause.conditions.forM Condition.validate := by
  rw [build_eq hset 1, Outcome.verdict_map, Outcome.verdict_map, h, renderFilter, clause.verdict_render]

end Statements

namespace WhereClause

def unlisted : WhereClause :=
  .terms [.condition ⟨"users", "state", .eq, some (.scalar (.text "CA"))⟩,
    .group ⟨.or, [⟨"users", "deleted_at", .isNull, none⟩, ⟨"users", "tag", .isIn, some (.scalar (.text "a"))⟩]⟩,
    .condition ⟨"users", "age", .gt, none⟩]

def lone : WhereClause :=
  .ofConditions [⟨"t", "c", .eq, some (.scalar (.integer 1))⟩]

end WhereClause

end EntityQuery
