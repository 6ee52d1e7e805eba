import EntityQuery.Proofs.Masking.Text
import EntityQuery.Proofs.Rendering.Numbering
import EntityQuery.Statement.Update

/-! Updates as templates. The assignments come before the filter both in the text and among the values, so that
the slots of the whole statement are numbered from one on without a gap. -/

namespace EntityQuery

open Template (Lists fillAll)

namespace Condition

lemma validate_ne_noAssignments (c : Condition) (table : String) :
    c.validate ≠ .error (.noAssignments table) := by
  rw [validate, Slots.reserve.eq_def]
  split
  · simp [Except.map]
  · rcases c.operand with _ | (v | vs)
    · simp [Except.map]
    · dsimp only
      split <;> simp [Except.map]
    · dsimp only
      split
      · simp [Except.map]
      · split <;> simp [Except.map]

lemma template_blank (c : Condition) : c.blank.template = c.template := by
  have hbound : c.blank.bound? = c.bound?.map Operand.blank := by
    rw [bound?, bound?, blank, mapOperand]
    split <;> rfl
  have hoperand : ∀ o : Operand, o.blank.template = o.template := by
    intro o
    cases o with
    | scalar v => rfl
    | list vs => simp [Operand.blank, Operand.template, List.map_const']
  rw [template, template, hbound]
  cases c.bound? with
  | none => rfl
  | some o => exact congrArg _ (hoperand o)

end Condition

lemma Group.template_blank (g : Group) : g.blank.template = g.template := by
  simp [template, blank, Function.comp_def, Condition.template_blank]

lemma Term.template_blank (t : Term) : t.blank.template = t.template := by
  cases t with
  | condition c => exact c.template_blank
  | group g => exact g.template_blank

lemma WhereClause.template_blank (clause : WhereClause) : clause.blank.template = clause.template := by
  cases clause with
  | terms ts => simp [template, blank, Function.comp_def, Term.template_blank]
  | group g => exact g.template_blank

lemma WhereClause.template_eq_nil {clause : WhereClause} (h : clause.template.isBlank) :
    clause.template = [] := by
  cases clause with
  | terms ts =>
    rw [template] at h ⊢
    split at h
    · next hall => rw [if_pos hall]
    · simp [Template.isBlank] at h
  | group g =>
    rw [template, Group.template] at h ⊢
    split at h
    · next hnone => rw [if_pos hnone]
    · simp [Template.isBlank] at h

section Filter

def filterTemplate (filter : Option WhereClause) : Template :=
  (filter.map WhereClause.template).getD []

def filterConditions (filter : Option WhereClause) : List Condition :=
  (filter.map WhereClause.conditions).getD []

variable (filter : Option WhereClause)

lemma lists_filterTemplate : Lists Condition.template (filterTemplate filter) (filterConditions filter) := by
  cases filter with
  | none => exact .nil
  | some clause => exact clause.lists_template

lemma verdict_renderFilter (start : Nat) :
    Outcome.verdict (renderFilter filter start) = (filterConditions filter).forM Condition.validate := by
  cases filter with
  | none => rfl
  | some clause => exact clause.verdict_render start

lemma renderFilter_eq_ok {start : Nat} {r : Rendered} (h : renderFilter filter start = .ok r) :
    r.text = (filterTemplate filter).fill (firstSlot start) ∧
      r.values = (filterConditions filter).flatMap Condition.boundValues := by
  cases filter with
  | none =>
    obtain rfl := Except.ok.inj h
    exact ⟨rfl, rfl⟩
  | some clause =>
    rw [WhereClause.render_eq_ok h]
    exact ⟨rfl, rfl⟩

lemma map_values_renderFilter (start start' : Nat) :
    (renderFilter filter start).map Rendered.values = (renderFilter filter start').map Rendered.values := by
  have hverdict := (verdict_renderFilter filter start).trans (verdict_renderFilter filter start').symm
  cases h : renderFilter filter start with
  | error err =>
    cases h' : renderFilter filter start' with
    | error err' =>
      rw [h, h'] at hverdict
      obtain rfl : err = err' := Except.error.inj (show (.error err : Except _ Unit) = .error err' from hverdict)
      rfl
    | ok r' =>
      rw [h, h'] at hverdict
      cases hverdict
  | ok r =>
    cases h' : renderFilter filter start' with
    | error err' =>
      rw [h, h'] at hverdict
      cases hverdict
    | ok r' =>
      exact congrArg Except.ok ((renderFilter_eq_ok filter h).2.trans (renderFilter_eq_ok filter h').2.symm)

end Filter

def Assignment.template (a : Assignment) : Template :=
  [.fixed (a.column ++ " = "), .hole]

def assignmentsTemplate (as : List Assignment) : Template :=
  .fixed "set " :: [.fixed ", "].intercalate (as.map Assignment.template)

lemma fillAll_assignments (as : List Assignment) (n : Nat) :
    fillAll (as.map Assignment.template) n =
      (as.zipIdx n).map fun (a, index) => a.column ++ " = " ++ placeholder index := by
  induction as generalizing n with
  | nil => rfl
  | cons a as ih => simp [fillAll, ih, Assignment.template, Template.fill, String.append_assoc]

lemma lists_assignmentsTemplate (as : List Assignment) :
    Lists Assignment.template (assignmentsTemplate as) as := by
  have hlists := Lists.intercalate (f := Assignment.template) ", " as fun a _ => .of_item a
  simpa [assignmentsTemplate] using Lists.fixed "set " hlists

lemma holes_of_lists_assignments {t : Template} {as : List Assignment} (h : Lists Assignment.template t as) :
    t.holes = as.length := by
  rw [h.holes]
  simp [Assignment.template, List.map_const']

lemma holes_assignmentsTemplate (as : List Assignment) : (assignmentsTemplate as).holes = as.length :=
  holes_of_lists_assignments (lists_assignmentsTemplate as)

namespace Update

def template (u : Update) : Template :=
  Template.join " " [[.fixed ("update " ++ u.table)], assignmentsTemplate u.assignments,
    [.fixed (joinsText u.joins)], filterTemplate u.filter, [.fixed "returning *"]]

def blank (u : Update) : Update :=
  { u with
    assignments := u.assignments.map fun a => { a with value := .integer 0 }
    filter := u.filter.map WhereClause.blank }

lemma template_blank (u : Update) : u.blank.template = u.template := by
  have hassignments : assignmentsTemplate u.blank.assignments = assignmentsTemplate u.assignments := by
    rw [assignmentsTemplate, blank, List.map_map]
    rfl
  have hfilter : filterTemplate u.blank.filter = filterTemplate u.filter := by
    simp [filterTemplate, blank, Function.comp_def, WhereClause.template_blank]
  rw [template, hassignments, hfilter]
  rfl

lemma renderAssignments_eq {as : List Assignment} (h : as ≠ []) : renderAssignments as 1 =
    ⟨(assignmentsTemplate as).fill 1, as.map Assignment.value, 1 + as.length⟩ := by
  rw [renderAssignments, if_neg (by simpa using h)]
  simp [assignmentsTemplate, Template.fill, ← Template.intercalate_fillAll, fillAll_assignments, firstSlot]

lemma fill_template (u : Update) : u.template.fill 1 = joinParts ["update " ++ u.table,
    (assignmentsTemplate u.assignments).fill 1, joinsText u.joins,
    (filterTemplate u.filter).fill (1 + u.assignments.length), "returning *"] := by
  rw [template, ← Template.intercalate_filter_fillAll, joinParts]
  simp only [fillAll, Template.fill, holes_assignmentsTemplate, Template.holes_fixed, Template.holes_nil,
    Nat.add_zero, String.append_empty]

lemma build_eq {u : Update} (h : u.assignments ≠ []) (start : Nat) : u.build =
    ((renderFilter u.filter start).map Rendered.values).map fun values =>
      { text := u.template.fill 1, values := u.assignments.map Assignment.value ++ values } := by
  rw [map_values_renderFilter u.filter start (1 + u.assignments.length), build, if_neg (by simpa using h),
    renderAssignments_eq h, fill_template]
  cases hw : renderFilter u.filter (1 + u.assignments.length) with
  | error err =>
    simp only [hw]
    rfl
  | ok w =>
    have htext := (renderFilter_eq_ok u.filter hw).1
    rw [firstSlot_of_one_le (Nat.le_add_right 1 _)] at htext
    simp only [hw, ← htext]
    rfl

lemma holes_template (u : Update) :
    u.template.holes = u.assignments.length + (filterTemplate u.filter).holes := by
  simp [template, Template.holes_join, holes_assignmentsTemplate]

lemma build_eq_noAssignments {u : Update} (h : u.assignments = []) :
    u.build = .error (.noAssignments u.table) := by
  rw [build, if_pos (by simpa using h)]

lemma renderFilter_ne_noAssignments (filter : Option WhereClause) (start : Nat) (table : String) :
    renderFilter filter start ≠ .error (.noAssignments table) := by
  intro h
  have hverdict := verdict_renderFilter filter start
  rw [h] at hverdict
  obtain ⟨c, -, hc⟩ := Outcome.exists_of_forM_eq_error hverdict.symm
  exact c.validate_ne_noAssignments table hc

lemma build_eq_error_iff {u : Update} (h : u.assignments ≠ []) (start : Nat) (err : FilterError) :
    u.build = .error err ↔ renderFilter u.filter start = .error err := by
  rw [build_eq h start]
  cases renderFilter u.filter start <;> simp [Except.map]

lemma place_assignment {u : Update} {pre post : List Assignment} {a : Assignment}
    (h : u.assignments = pre ++ a :: post) : ∃ before after,
      u.template = before ++ a.template ++ after ∧ before.holes = pre.length := by
  have hset : ¬ (assignmentsTemplate u.assignments).isBlank := by
    simp [Template.isBlank, assignmentsTemplate]
  obtain ⟨before, after, htemplate, hbefore, -⟩ := Template.exists_join_append " "
    [[.fixed ("update " ++ u.table)]]
    [[.fixed (joinsText u.joins)], filterTemplate u.filter, [.fixed "returning *"]] hset
  have hlists := lists_assignmentsTemplate u.assignments
  rw [h] at hlists
  obtain ⟨inner, outer, hsplit, hinner, -⟩ := hlists.exists_append
  refine ⟨before ++ inner, outer ++ after, ?_, ?_⟩
  · rw [h] at htemplate
    rw [template, h]
    simpa [hsplit] using htemplate
  · rw [Template.holes_append, hbefore, holes_of_lists_assignments hinner]
    simp

lemma place_filter {u : Update} {clause : WhereClause} (h : u.filter = some clause) : ∃ before after,
    u.template = before ++ clause.template ++ after ∧ before.holes = u.assignments.length ∧
      after.holes = 0 := by
  have hfilter : filterTemplate u.filter = clause.template := by
    rw [h]
    rfl
  by_cases hblank : clause.template.isBlank
  · -- a clause that leaves no text may be placed at the end
    have hnone := WhereClause.template_eq_nil hblank
    refine ⟨u.template, [], by simp [hnone], ?_, rfl⟩
    rw [holes_template, hfilter, hnone]
    rfl
  · obtain ⟨before, after, htemplate, hbefore, hafter⟩ := Template.exists_join_append " "
      [[.fixed ("update " ++ u.table)], assignmentsTemplate u.assignments, [.fixed (joinsText u.joins)]]
      [[.fixed "returning *"]] hblank
    refine ⟨before, after, ?_, ?_, ?_⟩
    · rw [template, hfilter]
      exact htemplate
    · rw [hbefore]
      simp [holes_assignmentsTemplate]
    · rw [hafter]
      simp

/-- An update fails if it has no assignments, else as its filter does. Otherwise its text is a template with the
slots numbered from one on, those of the assignments first, and its values are bound in that order. -/
theorem build_fills_template (u : Update) :
    ((∃ table, u.build = .error (.noAssignments table)) ↔ u.assignments = []) ∧
    (u.assignments ≠ [] → ∀ start,
      (∀ err, u.build = .error err ↔ ∃ clause, u.filter = some clause ∧ clause.render start = .error err) ∧
      ∀ w, renderFilter u.filter start = .ok w → ∃ q, u.build = .ok q ∧
        q.values = u.assignments.map Assignment.value ++ w.values ∧
        q.text = u.template.fill 1 ∧ u.template.holes = q.values.length) ∧
    (∀ u' : Update, u'.blank = u.blank → u'.template = u.template) ∧
    (∀ pre a post, u.assignments = pre ++ a :: post → ∃ before after : Template,
      u.template = before ++ [.fixed (a.column ++ " = "), .hole] ++ after ∧ before.holes = pre.length) ∧
    (∀ clause, u.filter = some clause → ∃ before after : Template, u.template = before ++ clause.template ++ after ∧
      before.holes = u.assignments.length ∧ after.holes = 0) ∧
    ∀ joins, { u with joins }.template.holes = u.template.holes := by
  refine ⟨⟨?_, fun h => ⟨u.table, build_eq_noAssignments h⟩⟩, fun h start => ⟨fun err => ?_, fun w hw => ?_⟩,
    fun u' hblank => ?_, fun pre a post h => place_assignment h, fun clause h => place_filter h, fun joins => ?_⟩
  · rintro ⟨table, hbuild⟩
    by_contra h
    exact renderFilter_ne_noAssignments u.filter 1 table ((build_eq_error_iff h 1 _).mp hbuild)
  · rw [build_eq_error_iff h start err]
    cases u.filter with
    | none => simp [renderFilter]
    | some clause => simp [renderFilter]
  · refine ⟨_, by rw [build_eq h start, hw]; rfl, rfl, rfl, ?_⟩
    rw [holes_template, (renderFilter_eq_ok u.filter hw).2, Condition.holes_of_lists (lists_filterTemplate u.filter)]
    simp
  · rw [← u'.template_blank, hblank, u.template_blank]
  · rw [holes_template, holes_template]

def hire : Update :=
  { table := "applications"
    assignments := [⟨"status", .text "hired"⟩, ⟨"score", .integer 7⟩]
    joins := [{ source := "applications", target := "jobs", columns := [("job_id", "id")] }]
    filter := some (.terms [.condition ⟨"jobs", "closed_at", .isNull, none⟩,
      .condition ⟨"applications", "id", .isIn, some (.list [.text "a", .text "b"])⟩]) }

theorem hire_numbered : (∃ q, hire.build = .ok q ∧
      q.text = "update applications set status = $1, score = $2 join jobs on applications.job_id = jobs.id " ++
        "where jobs.closed_at is null and applications.id in ($3, $4) returning *" ∧
      q.values = [.text "hired", .integer 7, .text "a", .text "b"]) ∧
    hire.template.holes = 4 ∧
    { hire with assignments := [⟨"status", .boolean true⟩, ⟨"score", .text "$9"⟩] }.template = hire.template ∧
    (∃ before after : Template, hire.template = before ++ [.fixed "score = ", .hole] ++ after ∧
      before.holes = 1) ∧
    ∃ before after : Template, hire.template = before ++ filterTemplate hire.filter ++ after ∧
      before.holes = 2 ∧ after.holes = 0 := by
  obtain ⟨-, hbuild, hblank, hplaces, hfilter, -⟩ := hire.build_fills_template
  have hrender : renderFilter hire.filter 3 =
      .ok ⟨"where jobs.closed_at is null and applications.id in ($3, $4)", [.text "a", .text "b"], 5⟩ := by
    decide +kernel
  obtain ⟨q, hq, hvalues, htext, hholes⟩ := (hbuild (by decide) 3).2 _ hrender
  rw [hvalues] at hholes
  exact ⟨⟨q, hq, htext.trans (by decide +kernel), hvalues⟩, hholes, hblank _ rfl,
    hplaces [⟨"status", .text "hired"⟩] _ [] rfl, hfilter _ rfl⟩

end Update

end EntityQuery
