import EntityQuery.Proofs.Lowering.Repetition
import EntityQuery.Proofs.Reach.Chains
import EntityQuery.Proofs.Reading.Grammar
import EntityQuery.Proofs.Reading.Refusal

/-! What compiling can fail with. A filter that was read belongs to registered entities and has operands of the
form that their operators take, so that lowering it meets no other fault than an empty list, and stops at
the first one. -/

namespace EntityQuery

open Outcome (FailsWith valueUnless)

def Test.fault? (t : Test) : Option FilterError :=
  if t.operand = .list [] then some (.missingValue t.operator.comparison) else none

def FieldTests.fault? (f : FieldTests) : Option FilterError :=
  f.tests.findSome? Test.fault?

def FilterTree.fault? (t : FilterTree) : Option FilterError :=
  t.fields.findSome? FieldTests.fault?

def FilterError.IsMissing (err : FilterError) : Prop :=
  err = .missingValue .isIn ∨ err = .missingValue .notIn

def FilterError.Concerns (entity : String) (err : FilterError) : Prop :=
  err = .unknownEntity entity ∨ err.IsShape ∨ err.IsMissing

def FilterTree.HasEmptyList (t : FilterTree) : Prop :=
  ∃ f ∈ t.fields, ∃ test ∈ f.tests, test.operand = .list []

section Here

variable {kind : FieldKind} {op : FilterOperator} {err : FilterError}

lemma TestOperand.Fits.validate {o : TestOperand} (h : o.Fits kind op) (table column : String) :
    Condition.validate ⟨table, column, op.comparison, o.operand?⟩ = valueUnless (Test.fault? ⟨op, o⟩) () := by
  rw [Condition.validate, Slots.reserve.eq_def]
  cases o with
  | flag b =>
    have hnull : op.comparison.isNullCheck = true := h
    simp [hnull, Except.map, Test.fault?, valueUnless]
  | value d =>
    obtain ⟨hnull, hlist, -⟩ := h
    simp [hnull, hlist, operand?, Except.map, Test.fault?, valueUnless]
  | list ds =>
    obtain ⟨hlist, -⟩ := h
    have hnull : op.comparison.isNullCheck = false := by
      rcases FilterOperator.eq_of_takesList hlist with rfl | rfl <;> rfl
    cases ds <;> simp [hnull, hlist, operand?, Except.map, Test.fault?, valueUnless]

lemma FieldTests.validate_conditions {f : FieldTests}
    (h : ∀ test ∈ f.tests, test.operand.Fits f.kind test.operator) (table : String) :
    forM (f.conditions table) Condition.validate = valueUnless f.fault? () := by
  rw [conditions, List.forM_map]
  exact Outcome.forM_eq_valueUnless fun test htest => (h test htest).validate table f.column

lemma Test.fault?_eq_some_iff {t : Test} :
    t.fault? = some err ↔ t.operand = .list [] ∧ err = .missingValue t.operator.comparison := by
  rw [fault?]
  split
  · next h => simp [h, eq_comm]
  · next h => simp [h]

namespace FilterTree

variable {t : FilterTree}

lemma exists_test_of_fault?_eq_some (h : t.fault? = some err) :
    ∃ f ∈ t.fields, ∃ test ∈ f.tests, test.operand = .list [] ∧
      err = .missingValue test.operator.comparison := by
  obtain ⟨f, hf, h⟩ := List.exists_of_findSome?_eq_some h
  obtain ⟨test, htest, h⟩ := List.exists_of_findSome?_eq_some h
  exact ⟨f, hf, test, htest, Test.fault?_eq_some_iff.mp h⟩

lemma exists_fault?_iff : (∃ err, t.fault? = some err) ↔ t.HasEmptyList := by
  constructor
  · rintro ⟨err, h⟩
    obtain ⟨f, hf, test, htest, hlist, -⟩ := exists_test_of_fault?_eq_some h
    exact ⟨f, hf, test, htest, hlist⟩
  · rintro ⟨f, hf, test, htest, hlist⟩
    by_contra hnone
    have hnone : t.fault? = none := by simpa [Option.eq_none_iff_forall_ne_some] using hnone
    have hfield : f.fault? = none := List.findSome?_eq_none_iff.mp hnone f hf
    have htest := List.findSome?_eq_none_iff.mp hfield test htest
    simp [Test.fault?, hlist] at htest

lemma isMissing_of_fault?_eq_some (h : t.FieldsFit) (herr : t.fault? = some err) : err.IsMissing := by
  obtain ⟨f, hf, test, htest, hlist, rfl⟩ := exists_test_of_fault?_eq_some herr
  have hfits := h f hf test htest
  rw [hlist] at hfits
  rcases FilterOperator.eq_of_takesList hfits.1 with hop | hop <;> rw [hop]
  · exact Or.inl rfl
  · exact Or.inr rfl

lemma at_of_mem_lowered {strategy : Strategy} {u : FilterTree} (h : u ∈ t.lowered strategy) :
    ∃ p, At t p u := by
  cases strategy with
  | graph =>
    rcases List.mem_cons.mp h with rfl | h
    · exact ⟨_, .root _⟩
    · obtain ⟨⟨p, u⟩, hv, rfl⟩ := List.mem_map.mp h
      exact ⟨p, (at_of_mem_visits hv).1⟩
  | stack =>
    obtain ⟨⟨p, u⟩, hv, rfl⟩ := List.mem_map.mp h
    exact ⟨p, mem_positions.mp hv⟩

end FilterTree

end Here

namespace Schema

open FilterTree

variable {s : Schema} {defs : List (String × EntityDef)} {entity : String} {raw : Json} {t : FilterTree}
  {strategy : Strategy} {err : FilterError}

lemma Declares.exists_entity (hbuild : build defs = .ok s) (h : s.Declares t)
    (ht : ∃ e, s.entity t.entity = .ok e) {p : List String} {u : FilterTree} (hu : At t p u) :
    ∃ e, s.entity u.entity = .ok e := by
  induction hu with
  | root => exact ht
  | nested hr _ ih =>
    obtain ⟨href, hnested⟩ := declares_iff.mp h _ hr
    exact ih hnested (href.exists_entity hbuild)

lemma fieldConditions_eq_valueUnless (hentity : ∃ e, s.entity t.entity = .ok e) (h : t.FieldsFit) :
    s.fieldConditions t = valueUnless t.fault? (s.ownConditions t) := by
  obtain ⟨e, he⟩ := hentity
  have hvalid : (t.fields.flatMap (FieldTests.conditions e.table)).forM Condition.validate =
      valueUnless t.fault? () := by
    rw [List.forM_eq_forM, Outcome.forM_flatMap]
    exact Outcome.forM_eq_valueUnless fun f hf => FieldTests.validate_conditions (h f hf) e.table
  rw [ownConditions, fieldConditions, he]
  dsimp only [bind, Except.bind]
  rw [hvalid]
  cases t.fault? <;> rfl

lemma gather_eq_valueUnless {ts : List FilterTree}
    (h : ∀ t ∈ ts, s.fieldConditions t = valueUnless t.fault? (s.ownConditions t)) :
    s.gather ts = valueUnless (ts.findSome? FilterTree.fault?) (ts.flatMap s.ownConditions) := by
  induction ts with
  | nil => rfl
  | cons t ts ih =>
    obtain ⟨ht, hts⟩ := List.forall_mem_cons.mp h
    rw [gather, ht, ih hts, List.findSome?_cons, List.flatMap_cons]
    cases t.fault? with
    | some err => rfl
    | none => cases ts.findSome? FilterTree.fault? <;> rfl

lemma lower_eq_valueUnless (hbuild : build defs = .ok s) (ht : s.readFilter entity raw = .ok t) :
    s.lower strategy t = valueUnless ((t.lowered strategy).findSome? FilterTree.fault?)
      ((t.lowered strategy).flatMap s.ownConditions) := by
  obtain ⟨e, members, entries, he, -, hreads, rfl⟩ := readFilter_eq_ok_iff.mp ht
  have htyped := (mirrors_of_readFilter ht).wellTyped
  rw [lower_eq]
  apply gather_eq_valueUnless
  intro u hu
  obtain ⟨p, hu⟩ := at_of_mem_lowered hu
  have hentity := (hreads.declares he).exists_entity hbuild ⟨e, he⟩ hu
  exact fieldConditions_eq_valueUnless hentity (htyped p u hu)

lemma lower_failsWith (hbuild : build defs = .ok s) (ht : s.readFilter entity raw = .ok t) :
    FailsWith FilterError.IsMissing (s.lower strategy t) := by
  intro err herr
  rw [lower_eq_valueUnless hbuild ht, Outcome.valueUnless_eq_error_iff] at herr
  obtain ⟨u, hu, herr⟩ := List.exists_of_findSome?_eq_some herr
  obtain ⟨p, hu⟩ := at_of_mem_lowered hu
  exact isMissing_of_fault?_eq_some ((mirrors_of_readFilter ht).wellTyped p u hu) herr

lemma compile_of_not_isRegistered (h : s.isRegistered entity = false) :
    s.compile strategy entity raw = .error (.unknownEntity entity) := by
  rw [compile, readFilter_of_not_isRegistered h]
  rfl

lemma compile_failsWith (hbuild : build defs = .ok s) (hentity : s.isRegistered entity = true) :
    FailsWith (fun err => err.IsShape ∨ err.IsMissing) (s.compile strategy entity raw) := by
  intro err herr
  rcases Outcome.bind_eq_error_iff.mp herr with hread | ⟨t, ht, hlower⟩
  · exact Or.inl (readFilter_failsWith hbuild hentity raw err hread)
  · exact Or.inr (lower_failsWith hbuild ht err hlower)

lemma readFilter_failsWith_concerns (hbuild : build defs = .ok s) (entity : String) (raw : Json) :
    FailsWith (FilterError.Concerns entity) (s.readFilter entity raw) := by
  cases hentity : s.isRegistered entity with
  | true => exact fun err herr => Or.inr (Or.inl (readFilter_failsWith hbuild hentity raw err herr))
  | false =>
    rw [readFilter_of_not_isRegistered hentity]
    exact .error (Or.inl rfl)

lemma compile_failsWith_concerns (hbuild : build defs = .ok s) (strategy : Strategy) (entity : String)
    (raw : Json) : FailsWith (FilterError.Concerns entity) (s.compile strategy entity raw) :=
  (readFilter_failsWith_concerns hbuild entity raw).bind fun _ ht err herr =>
    Or.inr (Or.inr (lower_failsWith hbuild ht err herr))

lemma selectFor_failsWith (hbuild : build defs = .ok s) (strategy : Strategy) (entity : String) (raw : Json)
    (columns : List String) :
    FailsWith (FilterError.Concerns entity) (s.selectFor strategy entity raw columns) := by
  cases hentity : s.isRegistered entity with
  | true =>
    obtain ⟨e, he⟩ := isRegistered_iff.mp hentity
    rw [selectFor, he]
    exact (compile_failsWith_concerns hbuild strategy entity raw).bind fun conditions _ => .ok _
  | false =>
    rw [selectFor, entity_of_not_isRegistered hentity]
    exact .error (Or.inl rfl)

lemma referenceChains_failsWith (hbuild : build defs = .ok s) (entity : String) (raw : Json) :
    FailsWith (FilterError.Concerns entity) (s.referenceChains entity raw) :=
  (readFilter_failsWith_concerns hbuild entity raw).bind fun _ _ => .ok _

/-- An entity that is not registered is the first cause of failure, a filter that reading refuses the second, and
an empty list of a membership test the only one behind them. -/
theorem compile_failures (hbuild : build defs = .ok s) (strategy : Strategy) (entity : String) (raw : Json) :
    (∀ name, s.compile strategy entity raw = .error (.unknownEntity name) ↔
      s.isRegistered entity = false ∧ name = entity) ∧
    (s.isRegistered entity = true →
      ((∃ owner key fault, s.compile strategy entity raw = .error (.invalidShape owner key fault)) ↔
        ∃ err, s.readFilter entity raw = .error err)) ∧
    (∀ t, s.readFilter entity raw = .ok t → ∀ err, s.compile strategy entity raw = .error err →
      err = .missingValue .isIn ∨ err = .missingValue .notIn) ∧
    ∀ columns err, s.compile strategy entity raw = .error err ∨
        s.selectFor strategy entity raw columns = .error err ∨ s.referenceChains entity raw = .error err →
      (∀ c, err ≠ .listRequired c) ∧ (∀ c, err ≠ .scalarRequired c) ∧
      (∀ name, err ≠ .unsupportedOperator name) ∧ ∀ table, err ≠ .noAssignments table := by
  refine ⟨fun name => ⟨fun h => ?_, ?_⟩, fun hentity => ⟨?_, ?_⟩, fun t ht err herr => ?_,
    fun columns err herr => ?_⟩
  · cases hentity : s.isRegistered entity with
    | true =>
      rcases compile_failsWith hbuild hentity _ h with ⟨_, _, _, hshape⟩ | hmissing | hmissing
      · cases hshape
      · cases hmissing
      · cases hmissing
    | false =>
      have hname := Except.error.inj (h.symm.trans (compile_of_not_isRegistered hentity))
      exact ⟨rfl, FilterError.unknownEntity.inj hname⟩
  · rintro ⟨hentity, rfl⟩
    exact compile_of_not_isRegistered hentity
  · rintro ⟨owner, key, fault, h⟩
    rcases Outcome.bind_eq_error_iff.mp h with hread | ⟨t, ht, hlower⟩
    · exact ⟨_, hread⟩
    · rcases lower_failsWith hbuild ht _ hlower with hmissing | hmissing <;> cases hmissing
  · rintro ⟨err, hread⟩
    obtain ⟨owner, key, fault, rfl⟩ := readFilter_failsWith hbuild hentity raw err hread
    exact ⟨owner, key, fault, Outcome.bind_eq_error_iff.mpr (Or.inl hread)⟩
  · rw [s.compile_eq_lower ht] at herr
    exact lower_failsWith hbuild ht err herr
  · have hconcerns : FilterError.Concerns entity err := by
      rcases herr with h | h | h
      · exact compile_failsWith_concerns hbuild strategy entity raw err h
      · exact selectFor_failsWith hbuild strategy entity raw columns err h
      · exact referenceChains_failsWith hbuild entity raw err h
    rcases hconcerns with rfl | ⟨owner, key, fault, rfl⟩ | rfl | rfl <;> simp

def withStatuses (statuses : List Json) : Json :=
  .object [("application", .object [("status", .object [("notIn", .array statuses)])])]

theorem conversation_fails_with_missing :
    hiring.compile .graph "conversation" (withStatuses []) = .error (.missingValue .notIn) ∧
    hiring.compile .stack "conversation" (withStatuses [.null]) =
      .error (.invalidShape "application" (some "status.notIn") (.scalarExpected .string)) ∧
    (∃ err, hiring.readFilter "conversation" (withStatuses [.null]) = .error err) ∧
    hiring.compile .stack "city" (withStatuses []) = .error (.unknownEntity "city") := by
  have hmissing : hiring.compile .graph "conversation" (withStatuses []) = .error (.missingValue .notIn) := by
    decide +kernel
  have hshape : hiring.compile .stack "conversation" (withStatuses [.null]) =
      .error (.invalidShape "application" (some "status.notIn") (.scalarExpected .string)) := by
    decide +kernel
  obtain ⟨-, hread, -⟩ := compile_failures build_hiring .stack "conversation" (withStatuses [.null])
  obtain ⟨hname, -⟩ := compile_failures build_hiring .stack "city" (withStatuses [])
  exact ⟨hmissing, hshape, (hread (by decide)).mp ⟨_, _, _, hshape⟩, (hname "city").mpr ⟨by decide, rfl⟩⟩

end Schema

end EntityQuery
