import EntityQuery.Proofs.Json.Reporting
import EntityQuery.Proofs.Reading.Offence

/-! Reading a field reports the earliest offence in it, from the single scalar up to the key of the field. -/

namespace EntityQuery

open Json (SameUpTo SameElement SameMember)
open Outcome (verdict)

namespace FieldKind

variable {kind : FieldKind} {op : FilterOperator} {raw : Json}

lemma readScalar_eq_error_iff {fault : ShapeFault} :
    kind.readScalar raw = .error fault ↔ kind.RefusesScalar raw fault := by
  constructor
  · intro h
    rw [readScalar.eq_def] at h
    split at h
    · cases h
    · cases h
    · cases h
    · cases h
    · split at h
      · cases h
      · next hdate => exact Except.error.inj h ▸ .date hdate
    · refine Except.error.inj h ▸ .form ?_
      cases kind <;> cases raw <;> simp_all [HasForm]
  · rintro (h | h)
    · rw [readScalar.eq_def]
      split <;> simp_all [HasForm]
    · simp only [readScalar, h]

lemma readScalars_eq_mapM (raws : List Json) : kind.readScalars raws = raws.mapM kind.readScalar := by
  induction raws with
  | nil => rfl
  | cons raw rest ih =>
    rw [readScalars, List.mapM_cons, ih]
    rfl

lemma readOperand_null : kind.readOperand op .null = .error .nullOperand := by
  rw [readOperand.eq_def]

lemma readOperand_flag_eq_error_iff (hflag : op.comparison.isNullCheck = true) (hnull : raw ≠ .null)
    {fault : ShapeFault} :
    kind.readOperand op raw = .error fault ↔ (∀ b, raw ≠ .bool b) ∧ .flagExpected = fault := by
  cases op with
  | isNull | isNotNull => cases raw <;> simp_all [readOperand]
  | _ => cases hflag

lemma readOperand_array (hlist : op.comparison.takesList = true) (elements : List Json) :
    kind.readOperand op (.array elements) = (elements.mapM kind.readScalar).map .list := by
  rw [← readScalars_eq_mapM]
  cases op with
  | isIn | notIn => rfl
  | _ => cases hlist

lemma readOperand_of_not_array (hlist : op.comparison.takesList = true) (hnull : raw ≠ .null)
    (h : ∀ elements, raw ≠ .array elements) : kind.readOperand op raw = .error (.listExpected kind) := by
  cases op with
  | isIn | notIn => cases raw <;> simp_all [readOperand]
  | _ => cases hlist

lemma readOperand_scalar_eq_error_iff (hflag : op.comparison.isNullCheck = false)
    (hlist : op.comparison.takesList = false) (hnull : raw ≠ .null) {fault : ShapeFault} :
    kind.readOperand op raw = .error fault ↔ kind.RefusesScalar raw fault := by
  have hread : kind.readOperand op raw = (kind.readScalar raw).map .value := by
    cases op with
    | isNull | isNotNull => cases hflag
    | isIn | notIn => cases hlist
    | _ => cases raw <;> first | rfl | exact absurd rfl hnull
  rw [hread, ← readScalar_eq_error_iff]
  cases kind.readScalar raw <;> simp [Except.map]

lemma readOperand_eq_error_iff (hplain : op.comparison.takesList = true → ∀ elements, raw ≠ .array elements)
    {fault : ShapeFault} : kind.readOperand op raw = .error fault ↔ kind.RefusesOperand op raw .here fault := by
  constructor
  · intro h
    by_cases hnull : raw = .null
    · rw [hnull, readOperand_null] at h
      exact hnull ▸ Except.error.inj h ▸ .null
    cases hflag : op.comparison.isNullCheck with
    | true =>
      obtain ⟨hbool, rfl⟩ := (readOperand_flag_eq_error_iff hflag hnull).mp h
      exact .flag hflag hnull hbool
    | false =>
      cases hlist : op.comparison.takesList with
      | true =>
        rw [readOperand_of_not_array hlist hnull (hplain hlist)] at h
        exact Except.error.inj h ▸ .list hlist hnull (hplain hlist)
      | false => exact .scalar hflag hlist hnull ((readOperand_scalar_eq_error_iff hflag hlist hnull).mp h)
  · intro h
    cases h with
    | null => exact readOperand_null
    | flag hop hnull hbool => exact (readOperand_flag_eq_error_iff hop hnull).mpr ⟨hbool, rfl⟩
    | list hop hnull harray => exact readOperand_of_not_array hop hnull harray
    | scalar hflag hlist hnull h => exact (readOperand_scalar_eq_error_iff hflag hlist hnull).mpr h

lemma RefusesOperand.eq_here (hplain : op.comparison.takesList = true → ∀ elements, raw ≠ .array elements)
    {p : Place} {fault : ShapeFault} (h : kind.RefusesOperand op raw p fault) : p = .here := by
  cases h with
  | element hop => exact absurd rfl (hplain hop _)
  | _ => rfl

lemma refusesOperand_array_iff (hlist : op.comparison.takesList = true) {elements : List Json} {p : Place}
    {fault : ShapeFault} : kind.RefusesOperand op (.array elements) p fault ↔
      faultsOfItems (fun i raw p fault => p = .within i .here ∧ kind.RefusesScalar raw fault) elements p fault := by
  constructor
  · intro h
    cases h with
    | flag hflag => simp [FilterOperator.takesList_eq_false hflag] at hlist
    | list _ _ h => exact absurd rfl (h elements)
    | element _ h => exact ⟨_, _, _, rfl, rfl, h⟩
    | scalar _ hscalar => simp [hlist] at hscalar
  · rintro ⟨pre, raw, post, rfl, rfl, h⟩
    exact .element hlist h

lemma readOperand_reportsFirst (kind : FieldKind) (op : FilterOperator) (raw : Json) :
    ReportsFirst (kind.readOperand op) (kind.RefusesOperand op) SameUpTo raw := by
  by_cases hplain : op.comparison.takesList = true → ∀ elements, raw ≠ .array elements
  · refine .here fun p fault => ⟨fun h => ?_, ?_⟩
    · obtain rfl := h.eq_here hplain
      exact ⟨rfl, (readOperand_eq_error_iff hplain).mpr h⟩
    · rintro ⟨rfl, h⟩
      exact (readOperand_eq_error_iff hplain).mp h
  · push Not at hplain
    obtain ⟨hlist, elements, rfl⟩ := hplain
    refine ReportsFirst.items (f := kind.readScalar) ?_ ?_
      (fun p raw' => SameUpTo.exists_elements) ?_ (fun p fault => refusesOperand_array_iff hlist)
    · rintro i raw p fault ⟨rfl, -⟩
      rfl
    · intro raw _ i
      refine .at_place (.within i .here) (fun p fault => by rw [readScalar_eq_error_iff]) ?_
      intro raw' hsame
      rw [(hsame .here rfl).eq_of_here]
    · intro elements' _
      rw [readOperand_array hlist, Outcome.verdict_map]

lemma RefusesTest.ofItem {i : Nat} {name : String} {p : Place} {fault : ShapeFault}
    (h : kind.RefusesTest i name raw p fault) : p.OfItem i := by
  cases h <;> rfl

lemma readTest_reportsFirst (kind : FieldKind) (i : Nat) (m : String × Json) :
    ReportsFirst (fun m => kind.readTest m.1 m.2) (fun m => kind.RefusesTest i m.1 m.2) (SameMember i) m := by
  obtain ⟨name, raw⟩ := m
  cases hname : FilterOperator.ofName? name with
  | none =>
    have hunknown := FilterOperator.ofName?_eq_none_iff.mp hname
    refine .at_key .unknownOperator (fun v => by simp only [readTest, hname]) (fun p fault => ⟨fun h => ?_, ?_⟩)
    · cases h with
      | unknown => exact ⟨rfl, rfl⟩
      | notAllowed h | operand h => exact absurd h (hunknown _)
    · rintro ⟨rfl, rfl⟩
      exact .unknown hunknown
  | some op =>
    have hopname := FilterOperator.name_of_ofName? hname
    have hop : ∀ op' : FilterOperator, op'.name = name → op' = op := fun op' h =>
      Option.some.inj ((FilterOperator.ofName?_name op').symm.trans (h ▸ hname))
    by_cases hallows : kind.allows op
    · refine (readOperand_reportsFirst kind op raw).within (fun v => ?_) (fun p fault => ⟨fun h => ?_, ?_⟩)
      · simp only [readTest, hname, if_pos hallows]
        exact Outcome.verdict_map _ _
      · cases h with
        | unknown h => exact absurd hopname (h op)
        | notAllowed h hnot => simp [hop _ h, hallows] at hnot
        | operand h _ hoperand => exact ⟨_, rfl, hop _ h ▸ hoperand⟩
      · rintro ⟨q, rfl, h⟩
        exact .operand hopname hallows h
    · refine .at_key (.operatorNotAllowed kind) (fun v => ?_) (fun p fault => ⟨fun h => ?_, ?_⟩)
      · simp only [readTest, hname, if_neg hallows]
      · cases h with
        | unknown h => exact absurd hopname (h op)
        | notAllowed => exact ⟨rfl, rfl⟩
        | operand h hok => exact absurd (hop _ h ▸ hok) hallows
      · rintro ⟨rfl, rfl⟩
        exact .notAllowed hopname (by simpa using hallows)

end FieldKind

namespace Entity

variable {e : Entity} {key : String} {kind : FieldKind} {column : String}

def readOperator (e : Entity) (key : String) (kind : FieldKind) (m : String × Json) : Except FilterError Test :=
  (kind.readTest m.1 m.2).mapError (.invalidShape e.name (some (key ++ "." ++ m.1)))

lemma readTests_eq_mapM (ops : List (String × Json)) :
    e.readTests key kind ops = ops.mapM (e.readOperator key kind) := by
  induction ops with
  | nil => rfl
  | cons m rest ih =>
    rw [readTests, List.mapM_cons, ih]
    rfl

lemma readField_of_not_object (hfield : e.field? key = some ⟨kind, some column⟩) {raw : Json}
    (h : ∀ operators, raw ≠ .object operators) :
    e.readField key raw = .error (.invalidShape e.name (some key) .operatorsNotObject) := by
  rw [readField, hfield]
  cases raw with
  | object operators => exact absurd rfl (h operators)
  | _ => rfl

lemma verdict_readField_object (hfield : e.field? key = some ⟨kind, some column⟩) {ops : List (String × Json)}
    (hne : ops ≠ []) :
    verdict (e.readField key (.object ops)) = verdict (ops.mapM (e.readOperator key kind)) := by
  rw [← readTests_eq_mapM, readField, hfield]
  cases ops with
  | nil => exact absurd rfl hne
  | cons m rest => exact Outcome.verdict_bind_ok _ _

lemma refusesOperators_object_iff {ops : List (String × Json)} (hne : ops ≠ []) {p : Place} {err : FilterError} :
    e.RefusesOperators key kind (.object ops) p err ↔
      faultsOfItems (fun i m p err => ∃ fault, kind.RefusesTest i m.1 m.2 p fault ∧
        err = .invalidShape e.name (some (key ++ "." ++ m.1)) fault) ops p err := by
  constructor
  · intro h
    cases h with
    | notObject h => exact absurd rfl (h ops)
    | empty => exact absurd rfl hne
    | test h => exact ⟨_, _, _, rfl, _, h, rfl⟩
  · rintro ⟨pre, m, post, rfl, fault, h, rfl⟩
    exact .test h

lemma readOperators_reportsFirst (hfield : e.field? key = some ⟨kind, some column⟩) (raw : Json) :
    ReportsFirst (e.readField key) (e.RefusesOperators key kind) SameUpTo raw := by
  by_cases hobject : ∃ ops, raw = .object ops
  · obtain ⟨ops, rfl⟩ := hobject
    by_cases hne : ops = []
    · subst hne
      refine .refused (.invalidShape e.name (some key) .noOperators) (by rw [readField, hfield])
        (fun p err => ⟨fun h => ?_, ?_⟩)
      · generalize hempty : Json.object [] = raw at h
        cases h with
        | notObject h => exact absurd hempty.symm (h [])
        | empty => exact ⟨rfl, rfl⟩
        | test => simp at hempty
      · rintro ⟨rfl, rfl⟩
        exact .empty
    · refine ReportsFirst.items (f := e.readOperator key kind) ?_ ?_
        (fun p raw' => SameUpTo.exists_members) ?_ (fun p err => refusesOperators_object_iff hne)
      · rintro i m p err ⟨fault, h, -⟩
        exact h.ofItem
      · intro m _ i
        refine (FieldKind.readTest_reportsFirst kind i m).mapError ?_
        rintro p m' ⟨hkey, -⟩
        rw [hkey]
      · exact fun ops' hempty => verdict_readField_object hfield fun h => hne (hempty.mp h)
  · rw [not_exists] at hobject
    refine .refused _ (readField_of_not_object hfield hobject) (fun p err => ⟨fun h => ?_, ?_⟩)
    · cases h with
      | notObject => exact ⟨rfl, rfl⟩
      | empty | test => exact absurd rfl (hobject _)
    · rintro ⟨rfl, rfl⟩
      exact .notObject hobject

lemma RefusesField.ofItem {i : Nat} {raw : Json} {p : Place} {err : FilterError}
    (h : e.RefusesField i key raw p err) : p.OfItem i := by
  cases h <;> rfl

lemma readField_reportsFirst (e : Entity) (i : Nat) (m : String × Json) :
    ReportsFirst (fun m => e.readField m.1 m.2) (fun m => e.RefusesField i m.1 m.2) (SameMember i) m := by
  obtain ⟨key, raw⟩ := m
  rcases hfield : e.field? key with _ | ⟨kind, _ | column⟩
  · refine .at_key (.invalidShape e.name (some key) .unknownKey) (fun v => by simp only [readField, hfield])
      (fun p err => ⟨fun h => ?_, ?_⟩)
    · cases h with
      | unknown => exact ⟨rfl, rfl⟩
      | hidden h | operators h => simp [hfield] at h
    · rintro ⟨rfl, rfl⟩
      exact .unknown hfield
  · refine .at_key (.invalidShape e.name (some key) .hiddenField) (fun v => by simp only [readField, hfield])
      (fun p err => ⟨fun h => ?_, ?_⟩)
    · cases h with
      | unknown h => simp [hfield] at h
      | hidden => exact ⟨rfl, rfl⟩
      | operators h hcolumn =>
        obtain rfl := Option.some.inj (hfield.symm.trans h)
        cases hcolumn
    · rintro ⟨rfl, rfl⟩
      exact .hidden hfield rfl
  · refine (readOperators_reportsFirst hfield raw).within (fun v => rfl) (fun p err => ⟨fun h => ?_, ?_⟩)
    · cases h with
      | unknown h => simp [hfield] at h
      | hidden h hcolumn =>
        obtain rfl := Option.some.inj (hfield.symm.trans h)
        cases hcolumn
      | operators h _ hp =>
        obtain rfl := Option.some.inj (hfield.symm.trans h)
        exact ⟨_, rfl, hp⟩
    · rintro ⟨q, rfl, hq⟩
      exact .operators hfield rfl hq

end Entity

end EntityQuery
