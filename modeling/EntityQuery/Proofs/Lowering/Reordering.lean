import EntityQuery.Proofs.Json.Reordering
import EntityQuery.Proofs.Lowering.Repetition
import EntityQuery.Proofs.Pairing
import EntityQuery.Proofs.Reading.FirstOffence
import EntityQuery.Proofs.Weight

/-! The order of keys. A filter lowered off the stack weighs the bag of its conditions. The weight of an object is
the sum of the weights of its members, and that of a field the sum of those of its tests, so that neither the
order of the keys of a filter nor that of the operators of a field matters. -/

namespace EntityQuery

open Outcome (weigh bag)

namespace FieldKind

variable {kind : FieldKind} {raw raw' : Json}

lemma not_denotes_of_reorders {d : Datum} (h : raw.Reorders raw') : ¬ kind.Denotes raw d := by
  intro hd
  cases h <;> cases hd

lemma not_holds_of_reorders {op : FilterOperator} {o : TestOperand} (h : raw.Reorders raw') :
    ¬ kind.Holds op raw o := by
  intro ho
  cases ho with
  | flag => cases h
  | list _ hds =>
    cases h with
    | element pre post hv =>
      obtain ⟨d, -, hd⟩ := exists_right_of_forall₂ hds List.mem_append_cons_self
      exact not_denotes_of_reorders hv hd
  | value _ _ hd => exact not_denotes_of_reorders h hd

end FieldKind

def Condition.weight (c : Condition) : WithTop (Multiset Condition) :=
  weigh (fun _ => {c}) c.validate

namespace FieldTests

def weight (table : String) (f : FieldTests) : WithTop (Multiset Condition) :=
  ((f.conditions table).map Condition.weight).sum

def testWeight (table column : String) (t : Test) : WithTop (Multiset Condition) :=
  Condition.weight ⟨table, column, t.operator.comparison, t.operand.operand?⟩

lemma weight_eq (table : String) (f : FieldTests) :
    f.weight table = (f.tests.map (testWeight table f.column)).sum := by
  rw [weight, conditions, List.map_map]
  rfl

end FieldTests

namespace Schema

variable {s : Schema} {e : Entity} {entity key table : String}

section Lowered

def entryWeight (s : Schema) (table : String) : FilterEntry → WithTop (Multiset Condition)
  | .field f => f.weight table
  | .reference t => bag (s.lower .stack t)

lemma bag_fieldConditions {t : FilterTree} (he : s.entity t.entity = .ok e) :
    bag (s.fieldConditions t) = (t.fields.map (FieldTests.weight e.table)).sum := by
  have hvalid : bag (s.fieldConditions t) =
      ((t.fields.flatMap (FieldTests.conditions e.table)).map Condition.weight).sum := by
    rw [fieldConditions, he]
    exact Outcome.bag_forM _ _
  rw [hvalid]
  induction t.fields with
  | nil => rfl
  | cons f fs ih =>
    rw [List.flatMap_cons, List.map_append, List.sum_append, ih, List.map_cons, List.sum_cons, FieldTests.weight]

lemma bag_gather_lowered (ts : List FilterTree) :
    bag (s.gather (ts.flatMap fun t => t.lowered .stack)) = (ts.map fun t => bag (s.lower .stack t)).sum := by
  induction ts with
  | nil => rfl
  | cons t ts ih =>
    rw [List.flatMap_cons, gather_append, List.map_cons, List.sum_cons, ← ih, lower_eq]
    exact Outcome.bag_append _ _

lemma bag_lower (t : FilterTree) : bag (s.lower .stack t) =
    bag (s.fieldConditions t) + (t.references.map fun r => bag (s.lower .stack r)).sum := by
  have hlowered : t.lowered .stack = t :: t.references.reverse.flatMap fun r => r.lowered .stack := by
    rw [FilterTree.lowered, FilterTree.positions_eq]
    simp [FilterTree.lowered, List.map_flatMap, Function.comp_def]
  -- the references leave the stack last first, which their sum does not tell
  rw [lower_eq, hlowered, gather, ← (t.references.reverse_perm.map _).sum_eq, ← bag_gather_lowered]
  exact Outcome.bag_append _ _

lemma sum_entryWeight (entity table : String) (entries : List FilterEntry) :
    (entries.map (s.entryWeight table)).sum =
      ((FilterTree.node entity entries).fields.map (FieldTests.weight table)).sum +
        ((FilterTree.node entity entries).references.map fun r => bag (s.lower .stack r)).sum := by
  induction entries with
  | nil => rfl
  | cons entry entries ih =>
    rw [List.map_cons, List.sum_cons, ih]
    cases entry with
    | field f =>
      rw [FilterTree.fields_field, FilterTree.references_field, List.map_cons, List.sum_cons, add_assoc]
      rfl
    | reference r =>
      rw [FilterTree.fields_reference, FilterTree.references_reference, List.map_cons, List.sum_cons, add_left_comm]
      rfl

lemma bag_lower_node (he : s.entity entity = .ok e) (entries : List FilterEntry) :
    bag (s.lower .stack (.node entity entries)) = (entries.map (s.entryWeight e.table)).sum := by
  rw [bag_lower, bag_fieldConditions he, sum_entryWeight]

end Lowered

section Field

variable {kind : FieldKind} {raw raw' : Json} {ops ops' : List (String × Json)}

lemma not_readField_of_reorders {pre post : List (String × Json)} {name : String} (h : raw.Reorders raw') :
    ¬ ∃ f, e.readField key (.object (pre ++ (name, raw) :: post)) = .ok f := by
  rintro ⟨f, hf⟩
  obtain ⟨-, -, -, ops, hops, -, htests⟩ := Entity.readField_eq_ok_iff.mp hf
  obtain rfl := Json.object.inj hops
  obtain ⟨test, -, htest⟩ := exists_right_of_forall₂ htests List.mem_append_cons_self
  exact FieldKind.not_holds_of_reorders h htest.operand

lemma weigh_readField_object {column : String} (hfield : e.field? key = some ⟨kind, some column⟩)
    (hne : ops ≠ []) : weigh (FieldTests.weight table) (e.readField key (.object ops)) =
      (ops.map fun m => weigh (FieldTests.testWeight table column) (e.readOperator key kind m)).sum := by
  have hread : e.readField key (.object ops) =
      (e.readTests key kind ops).map fun tests => ⟨key, column, kind, tests⟩ := by
    rw [Entity.readField, hfield]
    cases ops with
    | nil => exact absurd rfl hne
    | cons m rest => exact Outcome.bind_ok_eq_map _ _
  rw [hread, Outcome.weigh_map, Entity.readTests_eq_mapM, ← Outcome.weigh_mapM]
  simp only [FieldTests.weight_eq]

lemma weigh_readField_of_perm (h : ops.Perm ops') :
    weigh (FieldTests.weight table) (e.readField key (.object ops)) =
      weigh (FieldTests.weight table) (e.readField key (.object ops')) := by
  rcases hfield : e.field? key with _ | ⟨kind, _ | column⟩
  · rw [Entity.readField, Entity.readField, hfield]
  · rw [Entity.readField, Entity.readField, hfield]
  · by_cases hne : ops = []
    · subst hne
      rw [← h.nil_eq]
    · have hne' : ops' ≠ [] := fun hnil => hne (hnil ▸ h).eq_nil
      rw [weigh_readField_object hfield hne, weigh_readField_object hfield hne', (h.map _).sum_eq]

lemma weigh_readField_of_reorders (h : raw.Reorders raw') :
    weigh (FieldTests.weight table) (e.readField key raw) =
      weigh (FieldTests.weight table) (e.readField key raw') := by
  cases h with
  | here h => exact weigh_readField_of_perm h
  | member pre post name h =>
    -- no operator is given an object, so both are refused
    rw [Outcome.weigh_eq_top_iff.mpr (not_readField_of_reorders h),
      Outcome.weigh_eq_top_iff.mpr (not_readField_of_reorders h.symm)]
  | element pre post h =>
    have harray : ∀ elements, ¬ ∃ f, e.readField key (.array elements) = .ok f := by
      rintro elements ⟨f, hf⟩
      obtain ⟨ops, hops⟩ := Entity.exists_object_of_readField hf
      cases hops
    rw [Outcome.weigh_eq_top_iff.mpr (harray _), Outcome.weigh_eq_top_iff.mpr (harray _)]

end Field

section Filter

variable {raw raw' : Json}

def weight (s : Schema) (entity : String) (raw : Json) : WithTop (WithTop (Multiset Condition)) :=
  weigh (fun t => bag (s.lower .stack t)) (s.readFilter entity raw)

lemma weight_eq_top_iff : s.weight entity raw = ⊤ ↔ ¬ ∃ t, s.readFilter entity raw = .ok t :=
  Outcome.weigh_eq_top_iff

lemma weight_of_unknown {err : FilterError} (he : s.entity entity = .error err) : s.weight entity raw = ⊤ := by
  rw [weight, readFilter, he]
  rfl

lemma weight_object (he : s.entity entity = .ok e) (ms : List (String × Json)) :
    s.weight entity (.object ms) =
      (ms.map fun m => weigh (s.entryWeight e.table) (s.readEntry e m.1 m.2)).sum := by
  rw [weight, readFilter_object he, Outcome.weigh_map, readEntries_eq_mapM, ← Outcome.weigh_mapM]
  simp only [bag_lower_node he]

lemma weigh_readEntry_of_reorders (h : raw.Reorders raw') (hnested : s.weight key raw = s.weight key raw') :
    weigh (s.entryWeight table) (s.readEntry e key raw) = weigh (s.entryWeight table) (s.readEntry e key raw') := by
  cases href : e.refersTo key with
  | true =>
    cases h with
    | here | member =>
      rw [readEntry_object href, readEntry_object href, Outcome.weigh_map, Outcome.weigh_map]
      exact hnested
    | element =>
      rw [readEntry_of_not_object href (by simp) (by simp), readEntry_of_not_object href (by simp) (by simp)]
  | false =>
    have hread : ∀ raw, s.readEntry e key raw = (e.readField key raw).map .field := by
      intro raw
      rw [readEntry.eq_def, if_neg (by simp [href])]
    rw [hread, hread, Outcome.weigh_map, Outcome.weigh_map]
    exact weigh_readField_of_reorders h

lemma weight_of_reorders (h : raw.Reorders raw') : s.weight entity raw = s.weight entity raw' := by
  induction h generalizing entity with
  | here h =>
    cases he : s.entity entity with
    | error err => rw [weight_of_unknown he, weight_of_unknown he]
    | ok e => rw [weight_object he, weight_object he, (h.map _).sum_eq]
  | member pre post key h ih =>
    cases he : s.entity entity with
    | error err => rw [weight_of_unknown he, weight_of_unknown he]
    | ok e =>
      simp only [weight_object he, List.map_append, List.map_cons, List.sum_append, List.sum_cons]
      rw [weigh_readEntry_of_reorders h ih]
  | element =>
    cases he : s.entity entity with
    | error err => rw [weight_of_unknown he, weight_of_unknown he]
    | ok e =>
      rw [weight, weight, readFilter_of_not_object he (by simp), readFilter_of_not_object he (by simp)]

lemma weight_of_reordered (h : raw.Reordered raw') : s.weight entity raw = s.weight entity raw' := by
  induction h with
  | refl => rfl
  | tail _ hstep ih => exact ih.trans (weight_of_reorders hstep)

/-- A filter with the members of its objects in another order, at any depth, is read if and only if the filter is.
Lowered off the stack both fail, or both give the same conditions but for their order. -/
theorem compile_stack_of_reordered (h : raw.Reordered raw') (s : Schema) (entity : String) :
    ((∃ t, s.readFilter entity raw = .ok t) ↔ ∃ t, s.readFilter entity raw' = .ok t) ∧
    (((∃ err, s.compile .stack entity raw = .error err) ∧ ∃ err, s.compile .stack entity raw' = .error err) ∨
      ∃ conditions conditions', s.compile .stack entity raw = .ok conditions ∧
        s.compile .stack entity raw' = .ok conditions' ∧ conditions.Perm conditions') := by
  have hweight : s.weight entity raw = s.weight entity raw' := weight_of_reordered h
  have hread : (∃ t, s.readFilter entity raw = .ok t) ↔ ∃ t, s.readFilter entity raw' = .ok t := by
    rw [← not_iff_not, ← weight_eq_top_iff, hweight, weight_eq_top_iff]
  refine ⟨hread, ?_⟩
  by_cases hok : ∃ t, s.readFilter entity raw = .ok t
  · obtain ⟨t, ht⟩ := hok
    obtain ⟨t', ht'⟩ := hread.mp ⟨t, ht⟩
    rw [weight, weight, ht, ht'] at hweight
    have hbag : bag (s.lower .stack t) = bag (s.lower .stack t') := WithTop.coe_injective hweight
    rw [s.compile_eq_lower ht, s.compile_eq_lower ht']
    exact Outcome.bag_eq_bag_iff.mp hbag
  · have hfails : ∀ raw, (¬ ∃ t, s.readFilter entity raw = .ok t) →
        ∃ err, s.compile .stack entity raw = .error err := by
      intro raw hraw
      cases hr : s.readFilter entity raw with
      | ok t => exact absurd ⟨t, hr⟩ hraw
      | error err => exact ⟨err, Outcome.bind_eq_error_iff.mpr (Or.inl hr)⟩
    exact Or.inl ⟨hfails raw hok, hfails raw' fun hok' => hok (hread.mpr hok')⟩

def paidInOslo (bounds : List (String × Json)) : List (String × Json) :=
  [("pay", .object bounds), ("address", .object [("city", .object [("equals", .string "Oslo")])])]

def openPaidInOslo : Json :=
  .object [("status", .object [("equals", .string "open")]),
    ("user", .object [("email", .object [("like", .string "a%")])]),
    ("job", .object (paidInOslo [("greaterThan", .integer 3), ("lessThan", .integer 9)]))]

def openPaidInOsloReordered : Json :=
  .object [("job", .object (paidInOslo [("lessThan", .integer 9), ("greaterThan", .integer 3)]).reverse),
    ("user", .object [("email", .object [("like", .string "a%")])]),
    ("status", .object [("equals", .string "open")])]

lemma reordered_openPaidInOslo : openPaidInOslo.Reordered openPaidInOsloReordered := by
  have hbounds : Json.Reordered (.object [("greaterThan", .integer 3), ("lessThan", .integer 9)])
      (.object [("lessThan", .integer 9), ("greaterThan", .integer 3)]) := .single (.here (.swap _ _ _))
  have hvalues : List.Forall₂ (fun m m' => m.1 = m'.1 ∧ m.2.Reordered m'.2)
      (paidInOslo [("greaterThan", .integer 3), ("lessThan", .integer 9)])
      (paidInOslo [("lessThan", .integer 9), ("greaterThan", .integer 3)]) :=
    .cons ⟨rfl, hbounds⟩ (.cons ⟨rfl, .refl⟩ .nil)
  have hjob := Json.Reordered.object hvalues (List.reverse_perm _).symm
  exact (hjob.member [_, _] [] "job").tail (.here (List.reverse_perm [_, _, _]))

theorem openPaidInOslo_perm : ∃ conditions conditions',
    hiring.compile .stack "application" openPaidInOslo = .ok conditions ∧
    hiring.compile .stack "application" openPaidInOsloReordered = .ok conditions' ∧
    conditions.Perm conditions' ∧ conditions ≠ conditions' ∧ conditions.length = 5 := by
  have hcompile : hiring.compile .stack "application" openPaidInOslo =
      .ok [⟨"application", "status", .eq, some (.scalar (.text "open"))⟩,
        ⟨"job", "pay", .gt, some (.scalar (.integer 3))⟩, ⟨"job", "pay", .lt, some (.scalar (.integer 9))⟩,
        ⟨"address", "city", .eq, some (.scalar (.text "Oslo"))⟩,
        ⟨"users", "email", .like, some (.scalar (.text "a%"))⟩] := by decide +kernel
  have hcompile' : hiring.compile .stack "application" openPaidInOsloReordered =
      .ok [⟨"application", "status", .eq, some (.scalar (.text "open"))⟩,
        ⟨"users", "email", .like, some (.scalar (.text "a%"))⟩,
        ⟨"job", "pay", .lt, some (.scalar (.integer 9))⟩, ⟨"job", "pay", .gt, some (.scalar (.integer 3))⟩,
        ⟨"address", "city", .eq, some (.scalar (.text "Oslo"))⟩] := by decide +kernel
  obtain ⟨-, hsame⟩ := compile_stack_of_reordered reordered_openPaidInOslo hiring "application"
  rcases hsame with ⟨⟨err, herr⟩, -⟩ | ⟨conditions, conditions', h, h', hperm⟩
  · cases hcompile.symm.trans herr
  · obtain rfl := Except.ok.inj (hcompile.symm.trans h)
    obtain rfl := Except.ok.inj (hcompile'.symm.trans h')
    exact ⟨_, _, h, h', hperm, by decide, rfl⟩

end Filter

end Schema

end EntityQuery
