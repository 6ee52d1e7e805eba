import EntityQuery.Proofs.Masking.Reading
import EntityQuery.Proofs.Rendering.Verdict

/-! What a SELECT tells of the values of its filter: their number, and nothing in its text. Taking the values
out of the conditions takes them out of the bound values and leaves the text as it is. -/

namespace EntityQuery

def blankValues (vs : List Scalar) : List Scalar :=
  vs.map fun _ => .integer 0

lemma length_blankValues (vs : List Scalar) : (blankValues vs).length = vs.length :=
  List.length_map _

lemma blankValues_append (vs ws : List Scalar) :
    blankValues (vs ++ ws) = blankValues vs ++ blankValues ws :=
  List.map_append

def Rendered.blank (r : Rendered) : Rendered :=
  { r with values := blankValues r.values }

def RenderedParts.blank (r : RenderedParts) : RenderedParts :=
  { r with values := blankValues r.values }

def Query.blank (q : Query) : Query :=
  { q with values := blankValues q.values }

def Group.blank (g : Group) : Group :=
  { g with members := g.members.map Condition.blank }

def Term.blank : Term → Term
  | condition c => condition c.blank
  | group g => group g.blank

def WhereClause.blank : WhereClause → WhereClause
  | terms ts => terms (ts.map Term.blank)
  | group g => group g.blank

def Select.blank (sel : Select) : Select :=
  { sel with filter := sel.filter.map WhereClause.blank }

lemma Condition.boundValues_blank (c : Condition) : c.blank.boundValues = blankValues c.boundValues := by
  obtain ⟨table, column, comparison, operand⟩ := c
  rw [boundValues, boundValues]
  by_cases hnull : comparison.isNullCheck
  · rw [blank, mapOperand, if_pos hnull, if_pos hnull]
    rfl
  · rw [blank, mapOperand, if_neg hnull, if_neg hnull]
    rcases operand with _ | (v | vs)
    · rfl
    · rfl
    · exact List.map_const'.symm

lemma Condition.render_blank (c : Condition) (start : Nat) :
    c.blank.render start = (c.render start).map Rendered.blank := by
  have hslots : Slots.reserve c.blank.comparison c.blank.operand (firstSlot start) =
      Slots.reserve c.comparison c.operand (firstSlot start) := masks_blank.reserve _ _ _
  rw [render, render, boundValues_blank, hslots]
  cases Slots.reserve c.comparison c.operand (firstSlot start) <;> rfl

lemma renderConditions_blank (cs : List Condition) (start : Nat) :
    renderConditions (cs.map Condition.blank) start = (renderConditions cs start).map RenderedParts.blank := by
  induction cs generalizing start with
  | nil => rfl
  | cons c rest ih =>
    rw [List.map_cons, renderConditions, renderConditions, c.render_blank]
    cases c.render start with
    | error err => rfl
    | ok first =>
      simp only [Except.map, Rendered.blank, bind, Except.bind, ih]
      cases renderConditions rest first.next with
      | error err => rfl
      | ok others => simp only [RenderedParts.blank, blankValues_append]

lemma Group.render_blank (g : Group) (start : Nat) :
    g.blank.render start = (g.render start).map Rendered.blank := by
  rw [render, render]
  change (renderConditions (g.members.map Condition.blank) (firstSlot start) >>= fun parts => _) = _
  rw [renderConditions_blank]
  cases renderConditions g.members (firstSlot start) <;> rfl

lemma Term.render_blank (t : Term) (start : Nat) :
    t.blank.render start = (t.render start).map Rendered.blank := by
  cases t with
  | condition c => exact c.render_blank start
  | group g => exact g.render_blank start

lemma renderTerms_blank (ts : List Term) (start : Nat) :
    renderTerms (ts.map Term.blank) start = (renderTerms ts start).map RenderedParts.blank := by
  induction ts generalizing start with
  | nil => rfl
  | cons t rest ih =>
    rw [List.map_cons, renderTerms, renderTerms, t.render_blank]
    cases t.render start with
    | error err => rfl
    | ok first =>
      simp only [Except.map, Rendered.blank, bind, Except.bind, ih]
      cases renderTerms rest first.next with
      | error err => rfl
      | ok others => simp only [RenderedParts.blank, blankValues_append]

lemma WhereClause.render_blank (clause : WhereClause) (start : Nat) :
    clause.blank.render start = (clause.render start).map Rendered.blank := by
  cases clause with
  | terms ts =>
    rw [blank, render, render, renderTerms_blank]
    cases renderTerms ts (firstSlot start) <;> rfl
  | group g => exact g.render_blank start

lemma renderFilter_blank (filter : Option WhereClause) (start : Nat) :
    renderFilter (filter.map WhereClause.blank) start = (renderFilter filter start).map Rendered.blank := by
  cases filter with
  | none => rfl
  | some clause => exact clause.render_blank start

namespace Select

lemma build_blank (sel : Select) : sel.blank.build = sel.build.map Query.blank := by
  rw [build, build]
  change (renderFilter (sel.filter.map WhereClause.blank) 1 >>= fun condition => _) = _
  rw [renderFilter_blank]
  cases renderFilter sel.filter 1 <;> rfl

lemma build_of_blank_eq {sel sel' : Select} (h : sel.blank = sel'.blank) {query query' : Query}
    (hquery : sel.build = .ok query) (hquery' : sel'.build = .ok query') :
    query.text = query'.text ∧ query.values.length = query'.values.length := by
  have hbuild := congrArg build h
  rw [build_blank, build_blank, hquery, hquery'] at hbuild
  have hblank : query.blank = query'.blank := Except.ok.inj hbuild
  have hvalues : blankValues query.values = blankValues query'.values := congrArg Query.values hblank
  refine ⟨(congrArg Query.text hblank :), ?_⟩
  rw [← length_blankValues, hvalues, length_blankValues]

def Step.KeepsFilter (st : Step) : Prop :=
  ∀ clause, st ≠ .filter clause

lemma filter_step {st : Step} (h : st.KeepsFilter) (sel : Select) : (sel.step st).filter = sel.filter := by
  cases st with
  | filter clause => exact absurd rfl (h clause)
  | _ => rfl

lemma blank_step {st : Step} (h : st.KeepsFilter) (sel : Select) :
    (sel.step st).blank = sel.blank.step st := by
  cases st with
  | filter clause => exact absurd rfl (h clause)
  | _ => rfl

lemma filter_foldl_step {steps : List Step} (h : ∀ st ∈ steps, st.KeepsFilter) (sel : Select) :
    (steps.foldl step sel).filter = sel.filter := by
  induction steps generalizing sel with
  | nil => rfl
  | cons st rest ih =>
    obtain ⟨hst, hrest⟩ := List.forall_mem_cons.mp h
    rw [List.foldl_cons, ih hrest, filter_step hst]

lemma blank_foldl_step {steps : List Step} (h : ∀ st ∈ steps, st.KeepsFilter) (sel : Select) :
    (steps.foldl step sel).blank = steps.foldl step sel.blank := by
  induction steps generalizing sel with
  | nil => rfl
  | cons st rest ih =>
    obtain ⟨hst, hrest⟩ := List.forall_mem_cons.mp h
    rw [List.foldl_cons, ih hrest, blank_step hst, List.foldl_cons]

end Select

namespace Schema

variable {s : Schema}

lemma blank_ofConditions (cs : List Condition) :
    (WhereClause.ofConditions cs).blank = .ofConditions (cs.map Condition.blank) := by
  simp only [WhereClause.ofConditions, WhereClause.blank, List.map_map]
  rfl

lemma forall₂_of_map_blank {cs cs' : List Condition} (h : cs.map Condition.blank = cs'.map Condition.blank) :
    List.Forall₂ (fun c c' => c.table = c'.table ∧ c.column = c'.column ∧ c.comparison = c'.comparison ∧
      c.boundValues.length = c'.boundValues.length) cs cs' := by
  rw [← List.forall₂_eq_eq_eq, List.forall₂_map_left_iff, List.forall₂_map_right_iff] at h
  refine h.imp fun c c' hblank => ⟨?_, ?_, ?_, ?_⟩
  · exact (congrArg Condition.table hblank :)
  · exact (congrArg Condition.column hblank :)
  · exact (congrArg Condition.comparison hblank :)
  · have hvalues := congrArg Condition.boundValues hblank
    rw [c.boundValues_blank, c'.boundValues_blank] at hvalues
    rw [← length_blankValues, hvalues, length_blankValues]

lemma selectFor_of_map_blank {entity : String} {raw raw' : Json} {strategy : Strategy}
    {cs cs' : List Condition} (h : s.compile strategy entity raw = .ok cs)
    (h' : s.compile strategy entity raw' = .ok cs') (hblank : cs.map Condition.blank = cs'.map Condition.blank)
    (columns : List String) : ∃ sel sel', s.selectFor strategy entity raw columns = .ok sel ∧
      s.selectFor strategy entity raw' columns = .ok sel' ∧ sel.filter = some (.ofConditions cs) ∧
      sel'.filter = some (.ofConditions cs') ∧ sel.blank = sel'.blank := by
  obtain ⟨e, he, hsel⟩ := s.exists_selectFor h
  obtain ⟨e', he', hsel'⟩ := s.exists_selectFor h'
  obtain rfl := Except.ok.inj (he.symm.trans he')
  refine ⟨_, _, hsel columns, hsel' columns, rfl, rfl, ?_⟩
  simp only [Select.blank, Option.map_some, blank_ofConditions, hblank]

/-- Filters of one shape give conditions that differ in their values only, and queries of one text with as
many values, whatever else the SELECT is given. The flags of null checks make no difference at all. -/
theorem values_stay_out_of_text {defs : List (String × EntityDef)} (hbuild : build defs = .ok s)
    (strategy : Strategy) (entity : String) (raw raw' : Json) :
    (s.SameShape entity raw raw' → ∀ conditions conditions',
      s.compile strategy entity raw = .ok conditions → s.compile strategy entity raw' = .ok conditions' →
      List.Forall₂ (fun c c' => c.table = c'.table ∧ c.column = c'.column ∧ c.comparison = c'.comparison ∧
        c.boundValues.length = c'.boundValues.length) conditions conditions' ∧
      ∀ columns (steps : List Select.Step), (∀ st ∈ steps, st.KeepsFilter) → ∃ sel sel' query query',
        s.selectFor strategy entity raw columns = .ok sel ∧
        s.selectFor strategy entity raw' columns = .ok sel' ∧
        (steps.foldl Select.step sel).build = .ok query ∧
        (steps.foldl Select.step sel').build = .ok query' ∧
        query.text = query'.text ∧ query.values.length = query'.values.length) ∧
    (s.SameButFlags entity raw raw' →
      s.compile strategy entity raw = s.compile strategy entity raw' ∧
      ∀ columns, s.selectFor strategy entity raw columns = s.selectFor strategy entity raw' columns) := by
  constructor
  · intro hshape conditions conditions' hc hc'
    have hblank := hshape.map_blank hc hc'
    refine ⟨forall₂_of_map_blank hblank, fun columns steps hsteps => ?_⟩
    obtain ⟨sel, sel', hsel, hsel', hfilter, hfilter', hsame⟩ := selectFor_of_map_blank hc hc' hblank columns
    obtain ⟨query, hquery⟩ := Select.exists_build
      ((Select.filter_foldl_step hsteps sel).trans hfilter) (s.validate_of_compile hc)
    obtain ⟨query', hquery'⟩ := Select.exists_build
      ((Select.filter_foldl_step hsteps sel').trans hfilter') (s.validate_of_compile hc')
    have hsteps' : (steps.foldl Select.step sel).blank = (steps.foldl Select.step sel').blank := by
      rw [Select.blank_foldl_step hsteps, Select.blank_foldl_step hsteps, hsame]
    exact ⟨sel, sel', query, query', hsel, hsel', hquery, hquery',
      Select.build_of_blank_eq hsteps' hquery hquery'⟩
  · intro hflags
    have hcompile := hflags.compile_eq hbuild strategy
    exact ⟨hcompile, fun columns => by rw [selectFor, selectFor, hcompile]⟩

def withStatus (status : String) (flag : Bool) (user : Json) : Json :=
  .object [("status", .object [("equals", .string status), ("isNull", .bool flag)]), ("user", user)]

theorem quote_out_of_text : ∃ sel sel' query query',
    hiring.selectFor .graph "application" (withStatus "open" true .null) ["status"] = .ok sel ∧
    hiring.selectFor .graph "application" (withStatus "'; drop table job --" false (.object [])) ["status"] =
      .ok sel' ∧
    (sel.step (.limit 5)).build = .ok query ∧ (sel'.step (.limit 5)).build = .ok query' ∧
    query.text = query'.text ∧ query.values.length = query'.values.length ∧
    hiring.compile .stack "application" (withStatus "open" true .null) =
      hiring.compile .stack "application" (withStatus "open" false (.object [])) := by
  have hstatus : ¬ hiring.IsReference "application" "status" := by
    rw [isReference_iff (e := ⟨"application", "application", [("status", ⟨.string, some "status"⟩)],
      ["user", "job"]⟩) rfl]
    decide
  have huser : hiring.IsReference "application" "user" := ⟨_, rfl, rfl⟩
  have hshape : hiring.SameShape "application" (withStatus "open" true .null)
      (withStatus "'; drop table job --" false (.object [])) :=
    ⟨_, _, rfl, rfl, .field hstatus (.cons ⟨rfl, by decide⟩ (.cons ⟨rfl, by decide⟩ .nil))
      (.reference huser rfl rfl (.nil _) (.nil _))⟩
  have hflags : hiring.SameButFlags "application" (withStatus "open" true .null)
      (withStatus "open" false (.object [])) :=
    ⟨_, _, rfl, rfl, .field hstatus (.cons ⟨rfl, Or.inl rfl⟩ (.cons ⟨rfl, Or.inr ⟨Or.inl rfl, _, _, rfl, rfl⟩⟩
      .nil)) (.reference huser rfl rfl (.nil _) (.nil _))⟩
  have hcompile : hiring.compile .graph "application" (withStatus "open" true .null) =
      .ok [⟨"application", "status", .eq, some (.scalar (.text "open"))⟩,
        ⟨"application", "status", .isNull, none⟩] := by decide +kernel
  have hcompile' : hiring.compile .graph "application"
      (withStatus "'; drop table job --" false (.object [])) =
      .ok [⟨"application", "status", .eq, some (.scalar (.text "'; drop table job --"))⟩,
        ⟨"application", "status", .isNull, none⟩] := by decide +kernel
  obtain ⟨-, hbuilt⟩ := (values_stay_out_of_text build_hiring .graph "application" _ _).1 hshape _ _
    hcompile hcompile'
  obtain ⟨sel, sel', query, query', hsel, hsel', hquery, hquery', htext, hvalues⟩ :=
    hbuilt ["status"] [.limit 5] (by simp [Select.Step.KeepsFilter])
  exact ⟨sel, sel', query, query', hsel, hsel', hquery, hquery', htext, hvalues,
    ((values_stay_out_of_text build_hiring .stack "application" _ _).2 hflags).1⟩

end Schema

end EntityQuery
