import EntityQuery.Proofs.Lowering.Agreement

/-! Filters with their operands masked. Which trees a filter is lowered from, and whether this succeeds, does
not depend on the operands as long as the mask keeps their form. -/

namespace EntityQuery

def Test.mapOperand (f : TestOperand → TestOperand) (t : Test) : Test :=
  { t with operand := f t.operand }

def FieldTests.mapOperands (f : TestOperand → TestOperand) (ft : FieldTests) : FieldTests :=
  { ft with tests := ft.tests.map (Test.mapOperand f) }

mutual

def FilterTree.mapOperands (f : TestOperand → TestOperand) : FilterTree → FilterTree
  | .node entity entries => .node entity (FilterEntry.mapEntries f entries)

def FilterEntry.mapEntries (f : TestOperand → TestOperand) : List FilterEntry → List FilterEntry
  | [] => []
  | e :: rest => e.mapOperands f :: FilterEntry.mapEntries f rest

def FilterEntry.mapOperands (f : TestOperand → TestOperand) : FilterEntry → FilterEntry
  | .field ft => .field (ft.mapOperands f)
  | .reference t => .reference (t.mapOperands f)

end

def Condition.mapOperand (g : Option Operand → Option Operand) (c : Condition) : Condition :=
  { c with operand := g c.operand }

structure Masks (f : TestOperand → TestOperand) (g : Option Operand → Option Operand) : Prop where
  operand : ∀ o, (f o).operand? = g o.operand?
  reserve : ∀ comparison o start, Slots.reserve comparison (g o) start = Slots.reserve comparison o start

section

variable (f : TestOperand → TestOperand)

namespace FilterTree

lemma entity_mapOperands (t : FilterTree) : (t.mapOperands f).entity = t.entity := by
  cases t
  rfl

lemma references_mapOperands (t : FilterTree) :
    (t.mapOperands f).references = t.references.map (mapOperands f) := by
  obtain ⟨entity, entries⟩ := t
  rw [mapOperands]
  induction entries with
  | nil => rfl
  | cons e rest ih =>
    cases e with
    | field ft => exact ih
    | reference r => exact congrArg (r.mapOperands f :: ·) ih

lemma fields_mapOperands (t : FilterTree) :
    (t.mapOperands f).fields = t.fields.map (FieldTests.mapOperands f) := by
  obtain ⟨entity, entries⟩ := t
  rw [mapOperands]
  induction entries with
  | nil => rfl
  | cons e rest ih =>
    cases e with
    | field ft => exact congrArg (ft.mapOperands f :: ·) ih
    | reference r => exact ih

lemma reference?_mapOperands (t : FilterTree) (entity : String) :
    (t.mapOperands f).reference? entity = (t.reference? entity).map (mapOperands f) := by
  simp only [reference?, references_mapOperands, List.find?_map, Function.comp_def, entity_mapOperands]

lemma fresh_mapOperands (visited : List String) (t : FilterTree) :
    ReferenceGraph.fresh visited (t.mapOperands f) =
      (ReferenceGraph.fresh visited t).map (mapOperands f) := by
  simp only [ReferenceGraph.fresh, references_mapOperands, entity_mapOperands, List.filter_map,
    Function.comp_def]

lemma expand_mapOperands (g : ReferenceGraph) (visited : List String) (queue : List FilterTree) :
    g.expand visited (queue.map (mapOperands f)) = g.expand visited queue := by
  induction g, visited, queue using ReferenceGraph.expand.induct with
  | case1 g visited => simp [ReferenceGraph.expand]
  | case2 g visited t queue hmem ih =>
    rw [List.map_cons, ReferenceGraph.expand, entity_mapOperands, if_pos hmem, ih,
      ReferenceGraph.expand, if_pos hmem]
  | case3 g visited t queue hmem ih =>
    rw [List.map_cons, ReferenceGraph.expand, entity_mapOperands, if_neg hmem, fresh_mapOperands,
      ← List.map_append, List.foldl_map, ReferenceGraph.expand, if_neg hmem, ← ih]
    simp only [entity_mapOperands]

lemma ofTree_mapOperands (t : FilterTree) :
    ReferenceGraph.ofTree (t.mapOperands f) = ReferenceGraph.ofTree t := by
  rw [ReferenceGraph.ofTree, entity_mapOperands]
  exact expand_mapOperands f _ _ [t]

lemma along_mapOperands (t : FilterTree) (names : List String) :
    ((t.mapOperands f).along names).map Prod.snd =
      ((t.along names).map Prod.snd).map (mapOperands f) := by
  induction names generalizing t with
  | nil => rfl
  | cons e rest ih =>
    rw [along, along, reference?_mapOperands]
    cases t.reference? e with
    | none => rfl
    | some r =>
      simp only [Option.map_some, List.map_cons, List.map_map, Function.comp_def] at ih ⊢
      rw [ih r]

lemma visits_mapOperands (t : FilterTree) :
    (t.mapOperands f).visits.map Prod.snd = (t.visits.map Prod.snd).map (mapOperands f) := by
  simp only [visits, ofTree_mapOperands, List.map_flatMap, along_mapOperands]

lemma positions_mapOperands (t : FilterTree) :
    (t.mapOperands f).positions.map Prod.snd = (t.positions.map Prod.snd).map (mapOperands f) := by
  induction t using references_induction with
  | h t ih =>
    rw [positions_eq, positions_eq t, references_mapOperands, ← List.map_reverse, List.flatMap_map]
    simp only [List.map_cons, List.map_map, Function.comp_def, List.map_flatMap] at ih ⊢
    apply congrArg
    apply List.flatMap_congr
    intro r hr
    exact ih r (List.mem_reverse.mp hr)

end FilterTree

end

section

variable {f : TestOperand → TestOperand} {g : Option Operand → Option Operand}

lemma FieldTests.conditions_mapOperands (h : Masks f g) (table : String) (ft : FieldTests) :
    (ft.mapOperands f).conditions table = (ft.conditions table).map (Condition.mapOperand g) := by
  simp only [FieldTests.conditions, FieldTests.mapOperands, Test.mapOperand, List.map_map, Function.comp_def,
    Condition.mapOperand, h.operand]

lemma Condition.validate_mapOperand (h : Masks f g) (c : Condition) :
    (c.mapOperand g).validate = c.validate := by
  simp only [Condition.validate, Condition.mapOperand, h.reserve]

lemma Condition.forM_validate_mapOperand (h : Masks f g) (cs : List Condition) :
    (cs.map (mapOperand g)).forM validate = cs.forM validate := by
  induction cs with
  | nil => rfl
  | cons c cs ih =>
    change (validate (c.mapOperand g) >>= fun _ => (cs.map (mapOperand g)).forM validate) = _
    rw [validate_mapOperand h, ih]
    rfl

namespace Schema

variable (s : Schema)

lemma fieldConditions_mapOperands (h : Masks f g) (t : FilterTree) :
    s.fieldConditions (t.mapOperands f) =
      (s.fieldConditions t).map (List.map (Condition.mapOperand g)) := by
  rw [fieldConditions, fieldConditions, FilterTree.entity_mapOperands]
  cases s.entity t.entity with
  | error err => rfl
  | ok e =>
    have hconditions : (t.mapOperands f).fields.flatMap (FieldTests.conditions e.table) =
        (t.fields.flatMap (FieldTests.conditions e.table)).map (Condition.mapOperand g) := by
      simp only [FilterTree.fields_mapOperands, List.flatMap_map, List.map_flatMap,
        FieldTests.conditions_mapOperands h]
    change ((t.mapOperands f).fields.flatMap (FieldTests.conditions e.table)).forM Condition.validate >>=
      (fun _ => .ok ((t.mapOperands f).fields.flatMap (FieldTests.conditions e.table))) =
      Except.map _ ((t.fields.flatMap (FieldTests.conditions e.table)).forM Condition.validate >>=
        fun _ => .ok (t.fields.flatMap (FieldTests.conditions e.table)))
    rw [hconditions, Condition.forM_validate_mapOperand h]
    cases (t.fields.flatMap (FieldTests.conditions e.table)).forM Condition.validate <;> rfl

lemma gather_mapOperands (h : Masks f g) (ts : List FilterTree) :
    s.gather (ts.map (FilterTree.mapOperands f)) =
      (s.gather ts).map (List.map (Condition.mapOperand g)) := by
  induction ts with
  | nil => rfl
  | cons t ts ih =>
    rw [List.map_cons, gather, gather, fieldConditions_mapOperands s h, ih]
    cases s.fieldConditions t with
    | error err => rfl
    | ok here =>
      cases s.gather ts with
      | error err => rfl
      | ok onward => exact congrArg Except.ok List.map_append.symm

lemma lower_mapOperands (h : Masks f g) (strategy : Strategy) (t : FilterTree) :
    s.lower strategy (t.mapOperands f) =
      (s.lower strategy t).map (List.map (Condition.mapOperand g)) := by
  cases strategy with
  | graph =>
    rw [lower, lower, lowerByChains_eq, lowerByChains_eq, FilterTree.visits_mapOperands,
      ← List.map_cons, gather_mapOperands s h]
  | stack =>
    rw [lower, lower, lowerByStack_eq, lowerByStack_eq, FilterTree.positions_mapOperands,
      gather_mapOperands s h]

end Schema

end

end EntityQuery
