import EntityQuery.Filter.Tree
import Mathlib.Data.List.Count
import Mathlib.Data.List.Nodup
import Mathlib.Data.List.Infix
import Mathlib.Tactic.Common

/-! Positions in a filter: a nested tree stands at the end of a path of entity names from the root. Where
no tree has two references of one name, the path tells the nested tree. -/

namespace EntityQuery

mutual

def FilterTree.positions : FilterTree → List (List String × FilterTree)
  | .node entity entries => ([entity], .node entity entries) ::
      (FilterEntry.positions entries).map fun v => (entity :: v.1, v.2)

def FilterEntry.positions : List FilterEntry → List (List String × FilterTree)
  | [] => []
  | e :: rest => FilterEntry.positions rest ++ e.nestedPositions

def FilterEntry.nestedPositions : FilterEntry → List (List String × FilterTree)
  | .field _ => []
  | .reference t => t.positions

end

namespace FilterTree

inductive At : FilterTree → List String → FilterTree → Prop
  | root (t : FilterTree) : At t [t.entity] t
  | nested {t r u : FilterTree} {p : List String} (hr : r ∈ t.references) (h : At r p u) :
      At t (t.entity :: p) u

def Distinct (t : FilterTree) : Prop :=
  ∀ p u, At t p u → (u.references.map entity).Nodup

@[simp] lemma references_nil (n : String) : (node n []).references = [] :=
  rfl

@[simp] lemma references_field (n : String) (f : FieldTests) (es : List FilterEntry) :
    (node n (.field f :: es)).references = (node n es).references :=
  rfl

@[simp] lemma references_reference (n : String) (r : FilterTree) (es : List FilterEntry) :
    (node n (.reference r :: es)).references = r :: (node n es).references :=
  rfl

@[simp] lemma fields_nil (n : String) : (node n []).fields = [] :=
  rfl

@[simp] lemma fields_field (n : String) (f : FieldTests) (es : List FilterEntry) :
    (node n (.field f :: es)).fields = f :: (node n es).fields :=
  rfl

@[simp] lemma fields_reference (n : String) (r : FilterTree) (es : List FilterEntry) :
    (node n (.reference r :: es)).fields = (node n es).fields :=
  rfl

lemma mem_fields {t : FilterTree} {f : FieldTests} : f ∈ t.fields ↔ .field f ∈ t.entries := by
  rw [fields, List.mem_filterMap]
  constructor
  · rintro ⟨entry, hentry, h⟩
    cases entry with
    | field f' => exact Option.some.inj h ▸ hentry
    | reference r => cases h
  · exact fun h => ⟨_, h, rfl⟩

lemma mem_references {t r : FilterTree} : r ∈ t.references ↔ .reference r ∈ t.entries := by
  rw [references, List.mem_filterMap]
  constructor
  · rintro ⟨entry, hentry, h⟩
    cases entry with
    | field f => cases h
    | reference r' => exact Option.some.inj h ▸ hentry
  · exact fun h => ⟨_, h, rfl⟩

lemma size_le_totalSize {r : FilterTree} {ts : List FilterTree} (h : r ∈ ts) : r.size ≤ totalSize ts := by
  induction ts with
  | nil => cases h
  | cons t ts ih =>
    rw [totalSize_cons]
    rcases List.mem_cons.mp h with rfl | h
    · omega
    · have := ih h
      omega

lemma size_lt_of_mem_references {t r : FilterTree} (h : r ∈ t.references) : r.size < t.size := by
  have ht := t.totalSize_references
  have hr := size_le_totalSize h
  omega

lemma references_induction {P : FilterTree → Prop}
    (h : ∀ t, (∀ r ∈ t.references, P r) → P t) (t : FilterTree) : P t := by
  induction hn : t.size using Nat.strong_induction_on generalizing t with
  | _ n ih =>
    subst hn
    exact h t fun r hr => ih r.size (size_lt_of_mem_references hr) r rfl

section Paths

variable {t u v r r' : FilterTree} {p : List String} {e : String}

lemma At.head (h : At t p u) : p.head? = some t.entity := by
  cases h <;> rfl

lemma At.ne_nil (h : At t p u) : p ≠ [] := by
  cases h <;> simp

lemma At.last (h : At t p u) : p.getLast? = some u.entity := by
  induction h with
  | root t => rfl
  | nested hr h ih =>
    rw [List.getLast?_cons, ih]
    rfl

lemma At.snoc (h : At t p u) (hr : r ∈ u.references) : At t (p ++ [r.entity]) r := by
  induction h with
  | root t => exact .nested hr (.root r)
  | nested hs _ ih => exact .nested hs (ih hr)

lemma At.eq_root (h : At t p u) (hp : p.length < 2) : u = t := by
  cases h with
  | root => rfl
  | nested hr h =>
    have := List.length_pos_iff.mpr h.ne_nil
    simp only [List.length_cons] at hp
    omega

lemma forall_at_iff {P : FilterTree → Prop} :
    (∀ p u, At t p u → P u) ↔ P t ∧ ∀ r ∈ t.references, ∀ p u, At r p u → P u := by
  constructor
  · exact fun h => ⟨h _ t (.root t), fun r hr p u hu => h _ u (.nested hr hu)⟩
  · rintro ⟨ht, hnested⟩ p u hu
    cases hu with
    | root => exact ht
    | nested hr hu => exact hnested _ hr _ u hu

lemma Distinct.of_mem (h : Distinct t) (hr : r ∈ t.references) : Distinct r :=
  fun _ u hu => h _ u (.nested hr hu)

lemma Distinct.nodup (h : Distinct t) : (t.references.map entity).Nodup :=
  h _ t (.root t)

lemma distinct_iff : t.Distinct ↔ (t.references.map entity).Nodup ∧ ∀ r ∈ t.references, r.Distinct :=
  forall_at_iff

lemma Distinct.eq_of_entity_eq (h : Distinct t) (hr : r ∈ t.references)
    (hr' : r' ∈ t.references) (he : r.entity = r'.entity) : r = r' :=
  List.inj_on_of_nodup_map h.nodup hr hr' he

lemma Distinct.at_unique (h : Distinct t) (hu : At t p u) (hv : At t p v) : u = v := by
  induction hu with
  | root t => exact (hv.eq_root (by simp)).symm
  | @nested t r u p hr hu ih =>
    cases hv with
    | root => exact absurd rfl hu.ne_nil
    | @nested _ r' _ _ hr' hv =>
      have he : r.entity = r'.entity := Option.some.inj (hu.head.symm.trans hv.head)
      obtain rfl := h.eq_of_entity_eq hr hr' he
      exact ih (h.of_mem hr) hv

lemma mem_of_reference?_eq_some (h : t.reference? e = some r) : r ∈ t.references ∧ r.entity = e :=
  ⟨List.mem_of_find?_eq_some h, by simpa using List.find?_some h⟩

lemma Distinct.reference?_entity (h : Distinct t) (hr : r ∈ t.references) :
    t.reference? r.entity = some r := by
  cases hf : t.reference? r.entity with
  | none => simpa using List.find?_eq_none.mp hf r hr
  | some r' =>
    obtain ⟨hr', he⟩ := mem_of_reference?_eq_some hf
    rw [h.eq_of_entity_eq hr' hr he]

lemma positions_eq (t : FilterTree) : t.positions = ([t.entity], t) ::
      (t.references.reverse.flatMap positions).map fun v => (t.entity :: v.1, v.2) := by
  obtain ⟨e, es⟩ := t
  rw [positions]
  congr 2
  simp only [references, entries]
  induction es with
  | nil => rfl
  | cons entry es ih =>
    cases entry with
    | field f => simpa [FilterEntry.positions, FilterEntry.nestedPositions] using ih
    | reference r => simpa [FilterEntry.positions, FilterEntry.nestedPositions] using ih

lemma mem_positions : (p, u) ∈ t.positions ↔ At t p u := by
  induction t using references_induction generalizing p with
  | h t ih =>
    rw [positions_eq, List.mem_cons, List.mem_map]
    constructor
    · rintro (h | ⟨⟨q, v⟩, hq, h⟩)
      · obtain ⟨rfl, rfl⟩ := Prod.mk.inj h
        exact .root _
      · obtain ⟨rfl, rfl⟩ := Prod.mk.inj h
        obtain ⟨r, hr, hq⟩ := List.mem_flatMap.mp hq
        have hr := List.mem_reverse.mp hr
        exact .nested hr ((ih r hr).mp hq)
    · rintro (_ | ⟨hr, hu⟩)
      · exact Or.inl rfl
      · exact Or.inr ⟨_, List.mem_flatMap.mpr ⟨_, List.mem_reverse.mpr hr, (ih _ hr).mpr hu⟩, rfl⟩

lemma Distinct.nodup_positions (h : Distinct t) : (t.positions.map Prod.fst).Nodup := by
  induction t using references_induction with
  | h t ih =>
    have hmap : (List.map Prod.fst ((t.references.reverse.flatMap positions).map
        fun v => (t.entity :: v.1, v.2))) =
        (t.references.reverse.flatMap fun r => r.positions.map Prod.fst).map (t.entity :: ·) := by
      simp only [List.map_map, Function.comp_def, List.map_flatMap]
    have hhead : ∀ r : FilterTree, ∀ p ∈ r.positions.map Prod.fst, p.head? = some r.entity := by
      intro r p hp
      obtain ⟨⟨q, v⟩, hq, rfl⟩ := List.mem_map.mp hp
      exact (mem_positions.mp hq).head
    rw [positions_eq, List.map_cons, List.nodup_cons, hmap]
    constructor
    · intro hmem
      obtain ⟨p, hp, he⟩ := List.mem_map.mp hmem
      obtain ⟨r, -, hp⟩ := List.mem_flatMap.mp hp
      rw [(List.cons.inj he).2] at hp
      cases hhead r [] hp
    · apply List.Nodup.map List.cons_injective
      apply List.nodup_flatMap.mpr
      constructor
      · intro r hr
        have hr := List.mem_reverse.mp hr
        exact ih r hr (h.of_mem hr)
      · have hne := List.pairwise_map.mp h.nodup
        apply (List.pairwise_reverse.mpr hne).imp
        intro r r' hrr' p hp hp'
        exact hrr' (Option.some.inj ((hhead r' p hp').symm.trans (hhead r p hp)))

end Paths

def along (t : FilterTree) : List String → List (List String × FilterTree)
  | [] => []
  | e :: rest =>
      match t.reference? e with
      | none => []
      | some r => ([t.entity, r.entity], r) :: (r.along rest).map fun v => (t.entity :: v.1, v.2)

section Along

variable {t u r : FilterTree} {p names : List String}

lemma at_of_mem_along (h : (p, u) ∈ t.along names) : At t p u ∧ 2 ≤ p.length := by
  induction names generalizing t p with
  | nil => cases h
  | cons e rest ih =>
    simp only [along] at h
    split at h
    · cases h
    · next r hr =>
      have hr := (mem_of_reference?_eq_some hr).1
      rcases List.mem_cons.mp h with h | h
      · obtain ⟨rfl, rfl⟩ := Prod.mk.inj h
        exact ⟨.nested hr (.root _), by simp⟩
      · obtain ⟨⟨q, v⟩, hq, he⟩ := List.mem_map.mp h
        obtain ⟨rfl, rfl⟩ := Prod.mk.inj he
        obtain ⟨hat, hlen⟩ := ih hq
        exact ⟨.nested hr hat, by simp only [List.length_cons]; omega⟩

lemma isPrefix_of_mem_along (h : (p, u) ∈ t.along names) : p <+: t.entity :: names := by
  induction names generalizing t p with
  | nil => cases h
  | cons e rest ih =>
    simp only [along] at h
    split at h
    · cases h
    · next r hr =>
      obtain ⟨-, rfl⟩ := mem_of_reference?_eq_some hr
      rcases List.mem_cons.mp h with h | h
      · obtain ⟨rfl, -⟩ := Prod.mk.inj h
        simp
      · obtain ⟨⟨q, v⟩, hq, he⟩ := List.mem_map.mp h
        obtain ⟨rfl, rfl⟩ := Prod.mk.inj he
        exact (List.prefix_cons_inj _).mpr (ih hq)

lemma along_cons_of_mem (h : Distinct t) (hr : r ∈ t.references) (rest : List String) :
    t.along (r.entity :: rest) =
      ([t.entity, r.entity], r) :: (r.along rest).map fun v => (t.entity :: v.1, v.2) := by
  rw [along, h.reference?_entity hr]

lemma count_along_of_isPrefix (h : Distinct t)
    (hu : At t p u) (hp : 2 ≤ p.length) (hpre : p <+: t.entity :: names) :
    ((t.along names).map Prod.fst).count p = 1 := by
  induction hu generalizing names with
  | root => simp at hp
  | @nested t r u q hr hu ih =>
    obtain ⟨q', rfl⟩ : ∃ q', q = r.entity :: q' := by
      cases q with
      | nil => exact absurd rfl hu.ne_nil
      | cons a q' =>
        obtain rfl := Option.some.inj hu.head
        exact ⟨q', rfl⟩
    obtain ⟨rest, rfl, hrest⟩ := List.cons_prefix_iff.mp ((List.prefix_cons_inj _).mp hpre)
    have hmap : ((r.along rest).map fun v => (t.entity :: v.1, v.2)).map Prod.fst =
        ((r.along rest).map Prod.fst).map (t.entity :: ·) := by
      simp only [List.map_map, Function.comp_def]
    rw [along_cons_of_mem h hr, List.map_cons, List.count_cons, hmap,
      List.count_map_of_injective _ _ (List.cons_injective)]
    cases q' with
    | nil =>
      have h0 : ((r.along rest).map Prod.fst).count [r.entity] = 0 := by
        apply List.count_eq_zero.mpr
        intro hmem
        obtain ⟨⟨q, v⟩, hq, rfl⟩ := List.mem_map.mp hmem
        simpa using (at_of_mem_along hq).2
      simp [h0]
    | cons b q' =>
      have h1 := ih (h.of_mem hr) (by simp) ((List.prefix_cons_inj _).mpr hrest)
      simp [h1]

lemma count_along (h : Distinct t) (hu : At t p u) (hp : 2 ≤ p.length) (names : List String) :
    ((t.along names).map Prod.fst).count p = if p <+: t.entity :: names then 1 else 0 := by
  split
  · next hpre => exact count_along_of_isPrefix h hu hp hpre
  · next hpre =>
    apply List.count_eq_zero.mpr
    intro hmem
    apply hpre
    obtain ⟨⟨q, v⟩, hq, rfl⟩ := List.mem_map.mp hmem
    exact isPrefix_of_mem_along hq

end Along

end FilterTree

end EntityQuery
