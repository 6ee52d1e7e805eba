import EntityQuery.Filter.Reading
import EntityQuery.Proofs.Outcome
import Mathlib.Data.List.Forall2

/-! What the operators of a field are read to. Each reader gives a result exactly if the result stands in a
relation to what was read, from the single scalar up to the field. -/

namespace EntityQuery

lemma FilterOperator.name_of_ofName? {name : String} {op : FilterOperator}
    (h : FilterOperator.ofName? name = some op) : op.name = name := by
  simpa using List.find?_some h

lemma FilterOperator.eq_of_takesList {op : FilterOperator} (h : op.comparison.takesList = true) :
    op = .isIn ∨ op = .notIn := by
  cases op with
  | isIn => exact Or.inl rfl
  | notIn => exact Or.inr rfl
  | _ => cases h

namespace FieldKind

inductive Denotes : FieldKind → Json → Datum → Prop
  | text (s : String) : Denotes .string (.string s) (.text s)
  | integer (n : Int) : Denotes .number (.integer n) (.integer n)
  | float (x : Binary64) : Denotes .number (.float x) (.float x)
  | boolean (b : Bool) : Denotes .boolean (.bool b) (.boolean b)
  | date {s : String} {t : Instant} (h : Instant.ofText? s = some t) : Denotes .date (.string s) (.date t)

inductive Holds (kind : FieldKind) (op : FilterOperator) : Json → TestOperand → Prop
  | flag (hop : op.comparison.isNullCheck = true) (b : Bool) : Holds kind op (.bool b) (.flag b)
  | list {elements : List Json} {ds : List Datum} (hop : op.comparison.takesList = true)
      (h : List.Forall₂ kind.Denotes elements ds) : Holds kind op (.array elements) (.list ds)
  | value {raw : Json} {d : Datum} (hnull : op.comparison.isNullCheck = false)
      (hlist : op.comparison.takesList = false) (h : kind.Denotes raw d) : Holds kind op raw (.value d)

variable {kind : FieldKind}

lemma readScalar_eq_ok_iff {raw : Json} {d : Datum} : kind.readScalar raw = .ok d ↔ kind.Denotes raw d := by
  constructor
  · intro h
    rw [readScalar.eq_def] at h
    split at h
    · exact Except.ok.inj h ▸ .text _
    · exact Except.ok.inj h ▸ .integer _
    · exact Except.ok.inj h ▸ .float _
    · exact Except.ok.inj h ▸ .boolean _
    · split at h
      · next hdate => exact Except.ok.inj h ▸ .date hdate
      · cases h
    · cases h
  · intro h
    cases h with
    | date hdate => simp only [readScalar, hdate]
    | _ => rfl

lemma readScalars_eq_ok_iff {raws : List Json} {ds : List Datum} :
    kind.readScalars raws = .ok ds ↔ List.Forall₂ kind.Denotes raws ds := by
  induction raws generalizing ds with
  | nil => simp [readScalars, eq_comm]
  | cons raw rest ih =>
    rw [readScalars, Outcome.bind_eq_ok_iff]
    constructor
    · rintro ⟨first, hfirst, h⟩
      obtain ⟨others, hothers, h⟩ := Outcome.bind_eq_ok_iff.mp h
      exact Except.ok.inj h ▸ .cons (readScalar_eq_ok_iff.mp hfirst) (ih.mp hothers)
    · rintro (_ | ⟨hfirst, hothers⟩)
      exact ⟨_, readScalar_eq_ok_iff.mpr hfirst, Outcome.bind_eq_ok_iff.mpr ⟨_, ih.mpr hothers, rfl⟩⟩

section Operand

variable {op : FilterOperator} {raw : Json} {o : TestOperand}

lemma readOperand_of_isNullCheck (hop : op.comparison.isNullCheck = true) :
    kind.readOperand op raw = .ok o ↔ ∃ b, raw = .bool b ∧ .flag b = o := by
  cases op with
  | isNull | isNotNull => cases raw <;> simp [readOperand]
  | _ => cases hop

lemma readOperand_of_takesList (hop : op.comparison.takesList = true) :
    kind.readOperand op raw = .ok o ↔
      ∃ elements ds, raw = .array elements ∧ kind.readScalars elements = .ok ds ∧ .list ds = o := by
  cases op with
  | isIn | notIn => cases raw <;> simp [readOperand, Outcome.map_eq_ok_iff]
  | _ => cases hop

lemma readOperand_of_value (hnull : op.comparison.isNullCheck = false)
    (hlist : op.comparison.takesList = false) :
    kind.readOperand op raw = .ok o ↔ ∃ d, kind.readScalar raw = .ok d ∧ .value d = o := by
  cases raw with
  | null => cases kind <;> simp [readOperand, readScalar]
  | _ =>
    cases op with
    | isNull | isNotNull => cases hnull
    | isIn | notIn => cases hlist
    | _ => exact Outcome.map_eq_ok_iff

lemma readOperand_eq_ok_iff : kind.readOperand op raw = .ok o ↔ kind.Holds op raw o := by
  constructor
  · intro h
    cases hnull : op.comparison.isNullCheck with
    | true =>
      obtain ⟨b, rfl, rfl⟩ := (readOperand_of_isNullCheck hnull).mp h
      exact .flag hnull b
    | false =>
      cases hlist : op.comparison.takesList with
      | true =>
        obtain ⟨elements, ds, rfl, hds, rfl⟩ := (readOperand_of_takesList hlist).mp h
        exact .list hlist (readScalars_eq_ok_iff.mp hds)
      | false =>
        obtain ⟨d, hd, rfl⟩ := (readOperand_of_value hnull hlist).mp h
        exact .value hnull hlist (readScalar_eq_ok_iff.mp hd)
  · rintro (⟨hop, b⟩ | ⟨hop, hds⟩ | ⟨hnull, hlist, hd⟩)
    · exact (readOperand_of_isNullCheck hop).mpr ⟨b, rfl, rfl⟩
    · exact (readOperand_of_takesList hop).mpr ⟨_, _, rfl, readScalars_eq_ok_iff.mpr hds, rfl⟩
    · exact (readOperand_of_value hnull hlist).mpr ⟨_, readScalar_eq_ok_iff.mpr hd, rfl⟩

end Operand

lemma readTest_eq_ok_iff {name : String} {raw : Json} {t : Test} :
    kind.readTest name raw = .ok t ↔ ∃ op o, FilterOperator.ofName? name = some op ∧
      kind.allows op = true ∧ kind.readOperand op raw = .ok o ∧ t = ⟨op, o⟩ := by
  rw [readTest]
  cases FilterOperator.ofName? name with
  | none => simp
  | some op =>
    by_cases hallows : kind.allows op
    · simp only [if_pos hallows, Outcome.map_eq_ok_iff]
      constructor
      · rintro ⟨o, ho, rfl⟩
        exact ⟨op, o, rfl, hallows, ho, rfl⟩
      · rintro ⟨op', o, hop, -, ho, rfl⟩
        obtain rfl := Option.some.inj hop
        exact ⟨o, ho, rfl⟩
    · simp [hallows]

end FieldKind

structure Test.Mirrors (kind : FieldKind) (m : String × Json) (t : Test) : Prop where
  name : m.1 = t.operator.name
  allows : kind.allows t.operator = true
  operand : kind.Holds t.operator m.2 t.operand

lemma FieldKind.readTest_eq_ok_iff_mirrors {kind : FieldKind} {m : String × Json} {t : Test} :
    kind.readTest m.1 m.2 = .ok t ↔ t.Mirrors kind m := by
  rw [readTest_eq_ok_iff]
  constructor
  · rintro ⟨op, o, hop, hallows, ho, rfl⟩
    exact ⟨(FilterOperator.name_of_ofName? hop).symm, hallows, readOperand_eq_ok_iff.mp ho⟩
  · rintro ⟨hname, hallows, ho⟩
    exact ⟨_, _, hname ▸ FilterOperator.ofName?_name _, hallows, readOperand_eq_ok_iff.mpr ho, rfl⟩

structure FieldTests.Mirrors (e : Entity) (name : String) (raw : Json) (f : FieldTests) : Prop where
  key : f.key = name
  kind : (e.field? name).map Field.kind = some f.kind
  column : e.column? name = some f.column
  tests : ∃ operators, raw = .object operators ∧ operators ≠ [] ∧
    List.Forall₂ (Test.Mirrors f.kind) operators f.tests

namespace Entity

variable {e : Entity} {key : String} {kind : FieldKind}

lemma readTests_cons_eq_ok_iff {name : String} {raw : Json} {rest : List (String × Json)}
    {tests : List Test} : e.readTests key kind ((name, raw) :: rest) = .ok tests ↔
      ∃ first others, kind.readTest name raw = .ok first ∧ e.readTests key kind rest = .ok others ∧
        tests = first :: others := by
  rw [readTests, Outcome.bind_eq_ok_iff]
  constructor
  · rintro ⟨first, hfirst, h⟩
    obtain ⟨others, hothers, h⟩ := Outcome.bind_eq_ok_iff.mp h
    refine ⟨first, others, ?_, hothers, (Except.ok.inj h).symm⟩
    cases htest : kind.readTest name raw with
    | error fault => simp [htest, Except.mapError] at hfirst
    | ok t => simpa [htest, Except.mapError] using hfirst
  · rintro ⟨first, others, hfirst, hothers, rfl⟩
    refine ⟨first, by rw [hfirst]; rfl, Outcome.bind_eq_ok_iff.mpr ⟨others, hothers, rfl⟩⟩

lemma readTests_eq_ok_iff {operators : List (String × Json)} {tests : List Test} :
    e.readTests key kind operators = .ok tests ↔ List.Forall₂ (Test.Mirrors kind) operators tests := by
  induction operators generalizing tests with
  | nil => simp [readTests, eq_comm]
  | cons m rest ih =>
    rw [readTests_cons_eq_ok_iff, List.forall₂_cons_left_iff]
    simp only [ih, FieldKind.readTest_eq_ok_iff_mirrors, exists_and_left]

lemma readField_object_eq_ok_iff {ops : List (String × Json)} {f : FieldTests} :
    e.readField key (.object ops) = .ok f ↔ ∃ kind column tests, e.field? key = some ⟨kind, some column⟩ ∧
      ops ≠ [] ∧ e.readTests key kind ops = .ok tests ∧ f = ⟨key, column, kind, tests⟩ := by
  rw [readField]
  rcases e.field? key with _ | ⟨kind, _ | column⟩
  · simp
  · simp
  · cases ops with
    | nil => simp
    | cons o rest =>
      simp only [Outcome.bind_eq_ok_iff, Except.ok.injEq, Option.some.injEq, Field.mk.injEq, ne_eq,
        reduceCtorEq, not_false_eq_true, true_and]
      constructor
      · rintro ⟨tests, htests, rfl⟩
        exact ⟨kind, column, tests, ⟨rfl, rfl⟩, htests, rfl⟩
      · rintro ⟨_, _, tests, ⟨rfl, rfl⟩, htests, rfl⟩
        exact ⟨tests, htests, rfl⟩

lemma exists_object_of_readField {raw : Json} {f : FieldTests} (h : e.readField key raw = .ok f) :
    ∃ operators, raw = .object operators := by
  cases raw with
  | object operators => exact ⟨operators, rfl⟩
  | _ =>
    rw [readField] at h
    split at h
    · cases h
    · cases h
    · cases h

lemma readField_eq_ok_iff {raw : Json} {f : FieldTests} :
    e.readField key raw = .ok f ↔ f.Mirrors e key raw := by
  constructor
  · intro h
    obtain ⟨operators, rfl⟩ := exists_object_of_readField h
    obtain ⟨kind, column, tests, hfield, hne, htests, rfl⟩ := readField_object_eq_ok_iff.mp h
    refine ⟨rfl, by rw [hfield]; rfl, by rw [column?, hfield]; rfl, operators, rfl, hne, ?_⟩
    exact readTests_eq_ok_iff.mp htests
  · rintro ⟨rfl, hkind, hcolumn, operators, rfl, hne, htests⟩
    obtain ⟨⟨kind, column⟩, hfield, rfl⟩ := Option.map_eq_some_iff.mp hkind
    rw [column?, hfield] at hcolumn
    obtain rfl : column = some f.column := hcolumn
    exact readField_object_eq_ok_iff.mpr ⟨_, _, f.tests, hfield, hne, readTests_eq_ok_iff.mpr htests, rfl⟩

end Entity

end EntityQuery
