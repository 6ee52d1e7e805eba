import EntityQuery.Proofs.Rendering.Delimited
import EntityQuery.Proofs.Rendering.EmptyGroups

/-! The text of a clause leaves no doubt about the clause. The text of every part says where the part ends, from
the slots of one condition up to the whole. -/

namespace EntityQuery

lemma placeholder_selfDelimiting :
    SelfDelimiting (fun n x => x = (placeholder n).toList) fun _ _ : Nat => True := by
  rintro n m x y rest rest' rfl rfl hrest hrest' h
  have hdigits : ∀ k, ∀ c ∈ Nat.toDigits 10 k, c.isDigit := fun k c hc =>
    Nat.isDigit_of_mem_toDigits (by decide) (by decide) hc
  have hstops : ∀ {s}, Stops s → ∀ c ∈ s.head?, c.isDigit = false := by
    intro s hs c hc
    rcases hs c hc with rfl | rfl | rfl <;> rfl
  have htext : ∀ k, (placeholder k).toList = '$' :: Nat.toDigits 10 k := by simp [placeholder]
  rw [htext, htext] at h
  obtain ⟨-, h⟩ := List.cons.inj h
  exact ⟨trivial, (append_inj_of_class (hdigits n) (hdigits m) (hstops hrest) (hstops hrest') h).2⟩

def Comparison.opening (c : Comparison) : String :=
  if c.isNullCheck then c.token else if c.takesList then c.token ++ " (" else c.token ++ " "

lemma Comparison.opening_inj {a b : Comparison} {u v : List Char}
    (h : a.opening.toList ++ u = b.opening.toList ++ v) : a = b := by
  have hall : ∀ a ∈ all, ∀ b ∈ all, a.opening.toList.isPrefixOf b.opening.toList → a = b := by decide +kernel
  have hleft : a.opening.toList <+: a.opening.toList ++ u := List.prefix_append _ _
  have hright : b.opening.toList <+: a.opening.toList ++ u := h ▸ List.prefix_append _ _
  rcases List.prefix_or_prefix_of_prefix hleft hright with hheads | hheads
  · exact hall a a.mem_all b b.mem_all (List.isPrefixOf_iff_prefix.mpr hheads)
  · exact (hall b b.mem_all a a.mem_all (List.isPrefixOf_iff_prefix.mpr hheads)).symm

inductive Comparison.WritesSlots (c : Comparison) : Nat → List Char → Prop
  | none (hnull : c.isNullCheck = true) : WritesSlots c 0 []
  | one (n : Nat) (hnull : c.isNullCheck = false) (hlist : c.takesList = false) :
      WritesSlots c 1 (placeholder n).toList
  | many (ns : List Nat) (hnull : c.isNullCheck = false) (hlist : c.takesList = true) (hne : ns ≠ []) :
      WritesSlots c ns.length (", ".toList.intercalate (ns.map (String.toList ∘ placeholder)) ++ [')'])

lemma Comparison.writesSlots_selfDelimiting (c : Comparison) :
    SelfDelimiting c.WritesSlots fun k k' => k = k' := by
  intro k k' x y rest rest' hx hy hrest hrest' h
  cases hx with
  | none hnull =>
    cases hy with
    | none => exact ⟨rfl, h⟩
    | one _ hnot | many _ hnot => simp [hnull] at hnot
  | one n hnull hlist =>
    cases hy with
    | none hnot => simp [hnull] at hnot
    | one m => exact ⟨rfl, (placeholder_selfDelimiting rfl rfl hrest hrest' h).2⟩
    | many _ _ hnot => simp [hlist] at hnot
  | many ns hnull hlist hne =>
    cases hy with
    | none hnot => simp [hnull] at hnot
    | one _ _ hnot => simp [hlist] at hnot
    | many ms _ _ hne' =>
      rw [List.append_assoc, List.append_assoc] at h
      have hwrites : ∀ ks : List Nat, List.Forall₂ (fun n x => x = (placeholder n).toList) ks
          (ks.map (String.toList ∘ placeholder)) := by
        intro ks
        simp [List.forall₂_map_right_iff, List.forall₂_same]
      have hsep : IsSeparator ", ".toList := ⟨',', [' '], rfl, Or.inr rfl⟩
      obtain ⟨hagree, hend, -⟩ := placeholder_selfDelimiting.intercalate hsep hsep (fun _ _ _ => rfl)
        (closes_parenthesis rest) (closes_parenthesis rest') (hwrites ns) (hwrites ms) hne hne' h
      exact ⟨hagree.length_eq, (List.cons.inj hend).2⟩

def isWordChar (ch : Char) : Bool :=
  ch.isAlphanum || ch == '_'

namespace Condition

def NamedByWords (c : Condition) : Prop :=
  (∀ ch ∈ c.table.toList, isWordChar ch) ∧ ∀ ch ∈ c.column.toList, isWordChar ch

structure Agrees (c c' : Condition) : Prop where
  table : c.table = c'.table
  column : c.column = c'.column
  comparison : c.comparison = c'.comparison
  bound : c.boundValues.length = c'.boundValues.length

def Writes (c : Condition) (x : List Char) : Prop :=
  c.NamedByWords ∧ ∃ slots, c.comparison.WritesSlots c.boundValues.length slots ∧
    x = c.table.toList ++ '.' :: (c.column.toList ++ ' ' :: (c.comparison.opening.toList ++ slots))

lemma writes_selfDelimiting : SelfDelimiting Writes Agrees := by
  rintro c c' x y rest rest' ⟨hnames, slots, hslots, rfl⟩ ⟨hnames', slots', hslots', rfl⟩ hrest hrest' h
  simp only [List.append_assoc, List.cons_append] at h
  obtain ⟨htable, h⟩ := append_inj_of_class hnames.1 hnames'.1 (by simp [isWordChar])
    (by simp [isWordChar]) h
  obtain ⟨-, h⟩ := List.cons.inj h
  obtain ⟨hcolumn, h⟩ := append_inj_of_class hnames.2 hnames'.2 (by simp [isWordChar])
    (by simp [isWordChar]) h
  obtain ⟨-, h⟩ := List.cons.inj h
  have hcomparison := Comparison.opening_inj h
  rw [hcomparison] at h hslots
  obtain ⟨hbound, hend⟩ := Comparison.writesSlots_selfDelimiting _ hslots hslots' hrest hrest'
    (List.append_cancel_left h)
  exact ⟨⟨String.toList_inj.mp htable, String.toList_inj.mp hcolumn, hcomparison, hbound⟩, hend⟩

lemma writes_of_render {c : Condition} (hnames : c.NamedByWords) {start : Nat} {r : Rendered}
    (h : c.render start = .ok r) : c.Writes r.text.toList := by
  obtain ⟨slots, hslots, h⟩ := Outcome.bind_eq_ok_iff.mp h
  obtain rfl := Except.ok.inj h
  refine ⟨hnames, ?_⟩
  rcases Slots.reserve_cases hslots with ⟨hnull, rfl⟩ | ⟨hnull, hlist, v, hv, rfl⟩ |
    ⟨hnull, hlist, vs, hvs, hne, rfl⟩
  · have hbound : c.boundValues.length = 0 := by simp [boundValues, hnull]
    refine ⟨[], hbound ▸ .none hnull, ?_⟩
    simp [textWith, columnRef, Comparison.opening, hnull]
  · have hbound : c.boundValues.length = 1 := by simp [boundValues, hnull, hv, Operand.values]
    refine ⟨_, by rw [hbound]; exact .one (firstSlot start) (by simpa using hnull) (by simpa using hlist), ?_⟩
    simp [textWith, columnRef, Comparison.opening, hnull, hlist, Slots.text]
  · have hbound : c.boundValues.length = (List.range' (firstSlot start) vs.length).length := by
      simp [boundValues, hnull, hvs, Operand.values]
    refine ⟨_, by rw [hbound]; exact .many _ (by simpa using hnull) hlist (by simpa using hne), ?_⟩
    simp [textWith, columnRef, Comparison.opening, hnull, hlist, Slots.text, String.toList_intercalate]

lemma writes_of_renderConditions {cs : List Condition} (hnames : ∀ c ∈ cs, c.NamedByWords) {start : Nat}
    {parts : RenderedParts} (h : renderConditions cs start = .ok parts) :
    List.Forall₂ Writes cs (parts.texts.map String.toList) := by
  induction cs generalizing start parts with
  | nil =>
    obtain rfl := Except.ok.inj h
    exact .nil
  | cons c rest ih =>
    obtain ⟨hc, hrest⟩ := List.forall_mem_cons.mp hnames
    obtain ⟨first, hfirst, h⟩ := Outcome.bind_eq_ok_iff.mp h
    obtain ⟨others, hothers, h⟩ := Outcome.bind_eq_ok_iff.mp h
    obtain rfl := Except.ok.inj h
    exact .cons (writes_of_render hc hfirst) (ih hrest hothers)

end Condition

namespace Group

/-- The same conditions in the same order, under the same connective if there are two of them or more. -/
structure Agrees (g g' : Group) : Prop where
  members : List.Forall₂ Condition.Agrees g.members g'.members
  connective : 2 ≤ g.members.length → g.connective = g'.connective

def Writes (g : Group) (x : List Char) : Prop :=
  g.members ≠ [] ∧ ∃ xs, List.Forall₂ Condition.Writes g.members xs ∧
    x = '(' :: ((" " ++ g.connective.name ++ " ").toList.intercalate xs ++ [')'])

lemma writes_selfDelimiting : SelfDelimiting Writes Agrees := by
  rintro g g' x y rest rest' ⟨hne, xs, hxs, rfl⟩ ⟨hne', ys, hys, rfl⟩ - - h
  simp only [List.append_assoc, List.cons_append] at h
  obtain ⟨-, h⟩ := List.cons.inj h
  have hsep : ∀ k : Connective, IsSeparator (" " ++ k.name ++ " ").toList := fun k =>
    ⟨' ', k.name.toList ++ [' '], by simp, Or.inl rfl⟩
  have hheads : ∀ (k k' : Connective) (u v : List Char),
      (" " ++ k.name ++ " ").toList ++ u = (" " ++ k'.name ++ " ").toList ++ v → k = k' := by
    intro k k' u v h
    cases k <;> cases k' <;> simp [Connective.name] at h ⊢
  obtain ⟨hmembers, hend, hseps⟩ := Condition.writes_selfDelimiting.intercalate (hsep _) (hsep _)
    (fun u v h => by rw [hheads _ _ u v h]) (closes_parenthesis rest) (closes_parenthesis rest') hxs hys hne hne' h
  refine ⟨⟨hmembers, fun hlen => ?_⟩, (List.cons.inj hend).2⟩
  exact hheads _ _ [] [] (by rw [hseps hlen])

lemma writes_of_render {g : Group} (hnames : ∀ c ∈ g.members, c.NamedByWords) (hne : g.members ≠ []) {start : Nat}
    {r : Rendered} (h : g.render start = .ok r) : g.Writes r.text.toList := by
  obtain ⟨parts, hparts, h⟩ := Outcome.bind_eq_ok_iff.mp h
  obtain rfl := Except.ok.inj h
  have hwrites := Condition.writes_of_renderConditions hnames hparts
  have htexts : parts.texts ≠ [] := by
    intro hnil
    rw [hnil, List.map_nil, List.forall₂_nil_right_iff] at hwrites
    exact hne hwrites
  refine ⟨hne, _, hwrites, ?_⟩
  simp [htexts, String.toList_intercalate]

end Group

namespace Term

inductive Agrees : Term → Term → Prop
  | condition {c c' : Condition} (h : c.Agrees c') : Agrees (condition c) (condition c')
  | group {g g' : Group} (h : g.Agrees g') : Agrees (group g) (group g')

def Writes : Term → List Char → Prop
  | condition c => c.Writes
  | group g => g.Writes

lemma writes_selfDelimiting : SelfDelimiting Writes Agrees := by
  -- a parenthesis begins a group, but neither a name nor the dot behind an empty one
  have hmixed : ∀ {c : Condition} {g : Group} {x y rest rest' : List Char}, c.Writes x → g.Writes y →
      x ++ rest ≠ y ++ rest' := by
    rintro c g x y rest rest' ⟨hnames, slots, -, rfl⟩ ⟨-, ys, -, rfl⟩ h
    cases htable : c.table.toList with
    | nil => simp [htable] at h
    | cons ch tail =>
      have hword := hnames.1 ch (by simp [htable])
      simp only [htable, List.cons_append, List.cons.injEq] at h
      rw [h.1] at hword
      cases hword
  rintro (c | g) (c' | g') x y rest rest' hx hy hrest hrest' h
  · exact (Condition.writes_selfDelimiting hx hy hrest hrest' h).imp_left .condition
  · exact absurd h (hmixed hx hy)
  · exact absurd h.symm (hmixed hy hx)
  · exact (Group.writes_selfDelimiting hx hy hrest hrest' h).imp_left .group

lemma Writes.ne_nil {t : Term} {x : List Char} (h : t.Writes x) : x ≠ [] := by
  cases t with
  | condition c =>
    obtain ⟨-, slots, -, rfl⟩ := h
    simp
  | group g =>
    obtain ⟨-, xs, -, rfl⟩ := h
    simp

lemma render_cases {t : Term} (hnames : ∀ c ∈ t.conditions, c.NamedByWords) {start : Nat} {r : Rendered}
    (h : t.render start = .ok r) : (t.isEmptyGroup = true ∧ r.text = "") ∨
      (t.isEmptyGroup = false ∧ t.Writes r.text.toList) := by
  cases t with
  | condition c => exact Or.inr ⟨rfl, Condition.writes_of_render (hnames c (by simp [conditions])) h⟩
  | group g =>
    by_cases hempty : g.members = []
    · rw [render, Group.render, hempty] at h
      obtain rfl := Except.ok.inj h
      exact Or.inl ⟨by simp [isEmptyGroup, hempty], rfl⟩
    · exact Or.inr ⟨by simp [isEmptyGroup, hempty], Group.writes_of_render hnames hempty h⟩

lemma writes_of_renderTerms {ts : List Term} (hnames : ∀ t ∈ ts, ∀ c ∈ t.conditions, c.NamedByWords) {start : Nat}
    {parts : RenderedParts} (h : renderTerms ts start = .ok parts) :
    List.Forall₂ Writes (ts.filter fun t => ¬ t.isEmptyGroup) (parts.texts.map String.toList) := by
  induction ts generalizing start parts with
  | nil =>
    obtain rfl := Except.ok.inj h
    exact .nil
  | cons t rest ih =>
    obtain ⟨ht, hrest⟩ := List.forall_mem_cons.mp hnames
    obtain ⟨first, hfirst, h⟩ := Outcome.bind_eq_ok_iff.mp h
    obtain ⟨others, hothers, h⟩ := Outcome.bind_eq_ok_iff.mp h
    obtain rfl := Except.ok.inj h
    have hothers := ih hrest hothers
    rcases render_cases ht hfirst with ⟨hempty, htext⟩ | ⟨hempty, hwrites⟩
    · rw [List.filter_cons_of_neg (by simp [hempty]), if_pos htext]
      exact hothers
    · have htext : first.text ≠ "" := fun he => hwrites.ne_nil (by simp [he])
      rw [List.filter_cons_of_pos (by simp [hempty]), if_neg htext]
      exact .cons hwrites hothers

end Term

namespace WhereClause

inductive Agrees : WhereClause → WhereClause → Prop
  | terms {ts ts' : List Term} (h : List.Forall₂ Term.Agrees (ts.filter fun t => ¬ t.isEmptyGroup)
      (ts'.filter fun t => ¬ t.isEmptyGroup)) : Agrees (terms ts) (terms ts')
  | group {g g' : Group} (h : g.Agrees g') : Agrees (group g) (group g')

def Writes : WhereClause → List Char → Prop
  | terms ts, x => (ts.filter fun t => ¬ t.isEmptyGroup) ≠ [] ∧ ∃ xs,
      List.Forall₂ Term.Writes (ts.filter fun t => ¬ t.isEmptyGroup) xs ∧
      x = "where ".toList ++ " and ".toList.intercalate xs
  | group g, x => g.Writes x

lemma Writes.agrees {clause clause' : WhereClause} {x : List Char} (h : clause.Writes x) (h' : clause'.Writes x) :
    clause.Agrees clause' := by
  cases clause with
  | terms ts =>
    obtain ⟨hne, xs, hxs, rfl⟩ := h
    cases clause' with
    | terms ts' =>
      obtain ⟨hne', ys, hys, hxy⟩ := h'
      have hsep : IsSeparator " and ".toList := ⟨' ', "and ".toList, rfl, Or.inl rfl⟩
      have hjoined : " and ".toList.intercalate xs ++ [] = " and ".toList.intercalate ys ++ [] := by
        rw [List.append_cancel_left hxy]
      obtain ⟨hagree, -, -⟩ := Term.writes_selfDelimiting.intercalate hsep hsep (fun _ _ _ => rfl) closes_nil
        closes_nil hxs hys hne hne' hjoined
      exact .terms hagree
    | group g =>
      obtain ⟨-, ys, -, hxy⟩ := h'
      simp at hxy
  | group g =>
    cases clause' with
    | terms ts' =>
      obtain ⟨-, xs, -, rfl⟩ := h
      obtain ⟨-, ys, -, hxy⟩ := h'
      simp at hxy
    | group g' =>
      have hstops : Stops [] := .of_closes closes_nil
      exact .group (Group.writes_selfDelimiting h h' hstops hstops rfl).1

lemma writes_of_render {clause : WhereClause} (hnames : ∀ c ∈ clause.conditions, c.NamedByWords) {start : Nat}
    {r : Rendered} (h : clause.render start = .ok r) : r.text = "" ∨ clause.Writes r.text.toList := by
  cases clause with
  | terms ts =>
    obtain ⟨parts, hparts, h⟩ := Outcome.bind_eq_ok_iff.mp h
    obtain rfl := Except.ok.inj h
    rw [conditions_terms] at hnames
    have hwrites := Term.writes_of_renderTerms (fun t ht c hc => hnames c (List.mem_flatMap.mpr ⟨t, ht, hc⟩)) hparts
    by_cases htexts : parts.texts = []
    · exact Or.inl (by simp [htexts])
    · refine Or.inr ⟨?_, _, hwrites, by simp [htexts, String.toList_intercalate]⟩
      intro hnil
      rw [hnil, List.forall₂_nil_left_iff, List.map_eq_nil_iff] at hwrites
      exact htexts hwrites
  | group g =>
    rcases Term.render_cases (t := .group g) hnames h with ⟨-, htext⟩ | ⟨-, hwrites⟩
    · exact Or.inl htext
    · exact Or.inr hwrites

lemma exists_render_of_renderAt {o : Overflow} {clause : WhereClause} {start : UInt64}
    (hfits : o = .wraps → FitFrom clause.conditions start) {r : Rendered} (h : clause.renderAt o start = .ok r) :
    clause.render start.toNat = .ok r := by
  have hfit : FitFrom clause.conditions start := by
    cases o with
    | wraps => exact hfits rfl
    | traps => exact (exists_renderAt_traps_iff.mp ⟨r, h⟩).2
  rw [renderAt_of_fitFrom hfit] at h
  exact Outcome.mapError_eq_ok_iff.mp h

def remixed : WhereClause :=
  .terms [.group ⟨.or, []⟩,
    .condition ⟨"users", "state", .eq, some (.scalar (.text "NY"))⟩,
    .group ⟨.or, [⟨"users", "age", .gt, some (.scalar (.integer 21))⟩,
      ⟨"users", "tag", .isIn, some (.list [.text "c", .text "d"])⟩]⟩,
    .condition ⟨"users", "deleted_at", .isNotNull, none⟩]

def among (n : Nat) : WhereClause :=
  .ofConditions [⟨"t", "c", .isIn, some (.list (List.replicate n (.text "a")))⟩]

end WhereClause

end EntityQuery
