import EntityQuery.Proofs.Rendering.Updates

/-! The SELECT for a filter. What a filter is compiled to is always rendered: its conditions were checked
before, and the number of their first slot plays no role in that. They stand behind `where` in their order,
and the values are bound in the same order. -/

namespace EntityQuery

namespace Condition

lemma boundValues_of_validate {c : Condition} (h : c.validate = .ok ()) :
    (c.comparison.isNullCheck = true ∧ c.boundValues = []) ∨
    (c.comparison.isNullCheck = false ∧ c.comparison.takesList = false ∧
      ∃ v, c.operand = some (.scalar v) ∧ c.boundValues = [v]) ∨
    (c.comparison.isNullCheck = false ∧ c.comparison.takesList = true ∧
      ∃ vs, c.operand = some (.list vs) ∧ vs ≠ [] ∧ c.boundValues = vs) := by
  obtain ⟨slots, hslots, -⟩ := Outcome.map_eq_ok_iff.mp h
  rw [boundValues]
  rcases Slots.reserve_cases hslots with ⟨hnull, -⟩ | ⟨hnull, hlist, v, hv, -⟩ | ⟨hnull, hlist, vs, hvs, hne, -⟩
  · exact Or.inl ⟨hnull, if_pos hnull⟩
  · rw [if_neg hnull, hv]
    exact Or.inr (Or.inl ⟨by simpa using hnull, by simpa using hlist, v, rfl, rfl⟩)
  · rw [if_neg hnull, hvs]
    exact Or.inr (Or.inr ⟨by simpa using hnull, hlist, vs, rfl, hne, rfl⟩)

def conjunction (cs : List Condition) : Template :=
  .fixed "where " :: [.fixed " and "].intercalate (cs.map template)

lemma holes_conjunction (cs : List Condition) : (conjunction cs).holes = (cs.flatMap boundValues).length := by
  have hlists := Template.Lists.intercalate (f := template) " and " cs fun c _ => .of_item c
  rw [conjunction, Template.holes_fixed]
  exact holes_of_lists (by simpa using hlists)

end Condition

lemma WhereClause.template_ofConditions (cs : List Condition) :
    (ofConditions cs).template = if cs.isEmpty then [] else Condition.conjunction cs := by
  have hmap : (cs.map Term.condition).map Term.template = cs.map Condition.template := List.map_map
  have hblank : ∀ t ∈ cs.map Condition.template, ¬ t.isBlank := by
    intro t ht
    obtain ⟨c, -, rfl⟩ := List.mem_map.mp ht
    exact c.not_isBlank_template
  have hjoin : Template.join " and " (cs.map Condition.template) =
      [.fixed " and "].intercalate (cs.map Condition.template) := by
    rw [Template.join, List.filter_eq_self.mpr fun t ht => by simpa using hblank t ht]
  rw [ofConditions, template, hmap, hjoin]
  cases cs with
  | nil => rfl
  | cons c rest => simp [Condition.conjunction, Term.template, c.not_isBlank_template]

namespace Select

def textAround (sel : Select) (filterText : String) : String :=
  joinParts ["select " ++ sel.columnsText, "from " ++ sel.table, joinsText sel.joins, filterText,
    groupingText sel.grouping, orderText sel.ordering, limitText sel.limit, offsetText sel.offset]

lemma build_of_conditions {sel : Select} {cs : List Condition} (hfilter : sel.filter = some (.ofConditions cs))
    (hvalid : ∀ c ∈ cs, c.validate = .ok ()) : sel.build =
      .ok ⟨sel.textAround ((WhereClause.ofConditions cs).template.fill 1), cs.flatMap Condition.boundValues⟩ := by
  obtain ⟨query, hquery⟩ := exists_build hfilter hvalid
  obtain ⟨w, hw, h⟩ := Outcome.bind_eq_ok_iff.mp hquery
  rw [hfilter, renderFilter] at hw
  obtain rfl := WhereClause.render_eq_ok hw
  rw [hquery, ← h, WhereClause.conditions_ofConditions]
  rfl

end Select

namespace Schema

/-- Whatever a filter is compiled to makes a SELECT, and the clause of its conditions is the same whatever else
the SELECT is given. -/
theorem select_of_compile {s : Schema} {strategy : Strategy} {entity : String} {raw : Json}
    {conditions : List Condition} (h : s.compile strategy entity raw = .ok conditions) (columns : List String)
    (steps : List Select.Step) (hsteps : ∀ st ∈ steps, st.KeepsFilter) : ∃ sel query filterText,
      s.selectFor strategy entity raw columns = .ok sel ∧
      (steps.foldl Select.step sel).build = .ok query ∧
      query.values = conditions.flatMap Condition.boundValues ∧
      (∀ c ∈ conditions, c.template.holes = c.boundValues.length ∧
        ((c.comparison.isNullCheck = true ∧ c.boundValues = []) ∨
          (c.comparison.isNullCheck = false ∧ c.comparison.takesList = false ∧
            ∃ v, c.operand = some (.scalar v) ∧ c.boundValues = [v]) ∨
          (c.comparison.isNullCheck = false ∧ c.comparison.takesList = true ∧
            ∃ vs, c.operand = some (.list vs) ∧ vs ≠ [] ∧ c.boundValues = vs))) ∧
      query.text = (steps.foldl Select.step sel).textAround filterText ∧
      (filterText = "" ↔ conditions = []) ∧
      (conditions ≠ [] → filterText = (Condition.conjunction conditions).fill 1) ∧
      (Condition.conjunction conditions).holes = query.values.length := by
  have hvalid := s.validate_of_compile h
  obtain ⟨e, -, hselect⟩ := s.exists_selectFor h
  obtain ⟨sel, hsel, hfilter⟩ : ∃ sel, s.selectFor strategy entity raw columns = .ok sel ∧
      sel.filter = some (.ofConditions conditions) := ⟨_, hselect columns, rfl⟩
  have hbuild := Select.build_of_conditions ((Select.filter_foldl_step hsteps sel).trans hfilter) hvalid
  refine ⟨sel, _, _, hsel, hbuild, rfl, fun c hc => ⟨c.holes_template, c.boundValues_of_validate (hvalid c hc)⟩,
    rfl, ?_, fun hne => ?_, Condition.holes_conjunction conditions⟩
  · rw [WhereClause.template_ofConditions]
    cases conditions with
    | nil => exact iff_of_true rfl rfl
    | cons c rest => simp [Condition.conjunction, Template.fill]
  · rw [WhereClause.template_ofConditions, if_neg (by simpa using hne)]

def waitingApplications : Json :=
  .object [("status", .object [("in", .array [.string "open", .string "new"]), ("isNull", .bool false)]),
    ("job", .object [("pay", .object [("lessThan", .integer 9)])])]

theorem waitingApplications_selected : ∃ sel query,
    hiring.selectFor .graph "application" waitingApplications ["status"] = .ok sel ∧
    ((sel.step (.join ⟨.inner, "application", "job", [("job_id", "id")]⟩)).step (.limit 5)).build = .ok query ∧
    query.values = [.text "open", .text "new", .integer 9] ∧
    query.text = "select status from application join job on application.job_id = job.id " ++
      "where application.status in ($1, $2) and application.status is null and job.pay < $3 limit 5" := by
  have hcompile : hiring.compile .graph "application" waitingApplications =
      .ok [⟨"application", "status", .isIn, some (.list [.text "open", .text "new"])⟩,
        ⟨"application", "status", .isNull, none⟩, ⟨"job", "pay", .lt, some (.scalar (.integer 9))⟩] := by
    decide +kernel
  obtain ⟨sel, query, filterText, hsel, hquery, hvalues, -, htext, -, hfilter, -⟩ :=
    select_of_compile hcompile ["status"] [.join ⟨.inner, "application", "job", [("job_id", "id")]⟩, .limit 5]
      (by simp [Select.Step.KeepsFilter])
  have hsel' : hiring.selectFor .graph "application" waitingApplications ["status"] =
      .ok { table := "application", columns := ["status"], filter := some (.ofConditions [
        ⟨"application", "status", .isIn, some (.list [.text "open", .text "new"])⟩,
        ⟨"application", "status", .isNull, none⟩, ⟨"job", "pay", .lt, some (.scalar (.integer 9))⟩]) } := by
    decide +kernel
  obtain rfl := Except.ok.inj (hsel'.symm.trans hsel)
  refine ⟨_, query, hsel, hquery, hvalues, ?_⟩
  rw [htext, hfilter (by simp)]
  decide +kernel

end Schema

end EntityQuery
