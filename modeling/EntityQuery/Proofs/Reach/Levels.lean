import EntityQuery.Proofs.Reach.FirstVisit

/-! Filters whose entities keep to one depth. There the trees are looked into level by level, so that no
reference leads to an entity looked into before, and where all trees of an entity refer to the same
entities, every step in the filter is an edge of the reference graph. -/

namespace EntityQuery.FilterTree

open ReferenceGraph

def OneDepth (t : FilterTree) : Prop :=
  ∀ p q u v, At t p u → At t q v → u.entity = v.entity → p.length = q.length

def SameReferences (t : FilterTree) : Prop :=
  ∀ p q u v, At t p u → At t q v → u.entity = v.entity →
    ∀ e, e ∈ u.references.map entity ↔ e ∈ v.references.map entity

def Narrow (t : FilterTree) : Prop :=
  ∀ p u, At t p u → 2 ≤ p.length → u.references.length ≤ 1

section Decidable

variable {t : FilterTree}

lemma oneDepth_iff : t.OneDepth ↔ ∀ v ∈ t.positions, ∀ w ∈ t.positions,
    v.2.entity = w.2.entity → v.1.length = w.1.length :=
  ⟨fun h _ hv _ hw => h _ _ _ _ (mem_positions.mp hv) (mem_positions.mp hw),
    fun h _ _ _ _ hu hv => h _ (mem_positions.mpr hu) _ (mem_positions.mpr hv)⟩

lemma sameReferences_iff : t.SameReferences ↔ ∀ v ∈ t.positions, ∀ w ∈ t.positions,
    v.2.entity = w.2.entity → v.2.references.map entity ⊆ w.2.references.map entity := by
  constructor
  · intro h v hv w hw he e
    exact (h _ _ _ _ (mem_positions.mp hv) (mem_positions.mp hw) he e).mp
  · intro h p q u v hu hv he e
    have hu := mem_positions.mpr hu
    have hv := mem_positions.mpr hv
    exact ⟨fun hmem => h _ hu _ hv he hmem, fun hmem => h _ hv _ hu he.symm hmem⟩

lemma narrow_iff : t.Narrow ↔ ∀ v ∈ t.positions, 2 ≤ v.1.length → v.2.references.length ≤ 1 :=
  ⟨fun h _ hv => h _ _ (mem_positions.mp hv), fun h _ _ hu => h _ (mem_positions.mpr hu)⟩

instance : Decidable t.OneDepth :=
  decidable_of_iff _ oneDepth_iff.symm

instance : Decidable t.SameReferences :=
  decidable_of_iff _ sameReferences_iff.symm

instance : Decidable t.Narrow :=
  decidable_of_iff _ narrow_iff.symm

end Decidable

lemma OneDepth.exists_depth {t : FilterTree} (h : t.OneDepth) :
    ∃ depth : String → Nat, ∀ p u, At t p u → depth u.entity = p.length := by
  have hpoint : ∀ e, ∃ n, ∀ p u, At t p u → u.entity = e → p.length = n := by
    intro e
    by_cases he : ∃ p u, At t p u ∧ u.entity = e
    · obtain ⟨q, v, hv, rfl⟩ := he
      exact ⟨q.length, fun p u hu hue => h p q u v hu hv hue⟩
    · exact ⟨0, fun p u hu hue => (he ⟨p, u, hu, hue⟩).elim⟩
  choose depth hdepth using hpoint
  exact ⟨depth, fun p u hu => (hdepth u.entity p u hu rfl).symm⟩

def LevelBy (depth : String → Nat) (t : FilterTree) : Prop :=
  ∀ p u, At t p u → ∀ r ∈ u.references, depth r.entity = depth u.entity + 1

lemma LevelBy.of_mem {depth : String → Nat} {t r : FilterTree} (h : LevelBy depth t)
    (hr : r ∈ t.references) : LevelBy depth r :=
  fun _ u hu => h _ u (.nested hr hu)

lemma OneDepth.exists_levelBy {t : FilterTree} (h : t.OneDepth) : ∃ depth, LevelBy depth t := by
  obtain ⟨depth, hdepth⟩ := h.exists_depth
  refine ⟨depth, fun p u hu r hr => ?_⟩
  rw [hdepth _ _ (hu.snoc hr), hdepth _ _ hu, List.length_append, List.length_singleton]

lemma sorted_firstVisits {depth : String → Nat} {visited : List String} {queue : List FilterTree}
    {k : Nat} (hlevel : ∀ t ∈ queue, LevelBy depth t)
    (hsorted : queue.Pairwise fun a b => depth a.entity ≤ depth b.entity)
    (hk : ∀ t ∈ queue, k ≤ depth t.entity ∧ depth t.entity ≤ k + 1) :
    (firstVisits visited queue).Pairwise (fun a b => depth a.entity ≤ depth b.entity) ∧
      ∀ t ∈ firstVisits visited queue, k ≤ depth t.entity := by
  induction visited, queue using firstVisits.induct generalizing k with
  | case1 visited => simp [firstVisits]
  | case2 visited t queue hmem ih =>
    rw [firstVisits, if_pos hmem]
    exact ih (List.forall_mem_cons.mp hlevel).2 (List.pairwise_cons.mp hsorted).2
      (List.forall_mem_cons.mp hk).2
  | case3 visited t queue hmem ih =>
    obtain ⟨hlevelt, hlevel⟩ := List.forall_mem_cons.mp hlevel
    obtain ⟨hle, hsorted⟩ := List.pairwise_cons.mp hsorted
    obtain ⟨hkt, hk⟩ := List.forall_mem_cons.mp hk
    have hfresh : ∀ r ∈ fresh visited t, depth r.entity = depth t.entity + 1 := fun r hr =>
      hlevelt _ t (.root t) r (mem_fresh.mp hr).1
    -- the level of `t` is the least in the queue, and what `t` adds to its end is one below
    have hlevel' : ∀ r ∈ queue ++ fresh visited t, LevelBy depth r := List.forall_mem_append.mpr
      ⟨hlevel, fun r hr => hlevelt.of_mem (mem_fresh.mp hr).1⟩
    have hk' : ∀ r ∈ queue ++ fresh visited t,
        depth t.entity ≤ depth r.entity ∧ depth r.entity ≤ depth t.entity + 1 := by
      intro r hr
      rcases List.mem_append.mp hr with hr | hr
      · have hle := hle r hr
        have hkr := hk r hr
        omega
      · have hr := hfresh r hr
        omega
    have hsorted' : (queue ++ fresh visited t).Pairwise fun a b => depth a.entity ≤ depth b.entity := by
      apply List.pairwise_append.mpr
      refine ⟨hsorted, List.pairwise_of_forall_mem_list fun a ha b hb => ?_, fun a ha b hb => ?_⟩
      · rw [hfresh a ha, hfresh b hb]
      · have ha := (hk' a (List.mem_append_left _ ha)).2
        have hb := hfresh b hb
        omega
    obtain ⟨hrest, hleast⟩ := ih hlevel' hsorted' hk'
    rw [firstVisits, if_neg hmem, List.pairwise_cons, List.forall_mem_cons]
    exact ⟨⟨hleast, hrest⟩, hkt.1, fun u hu => hkt.1.trans (hleast u hu)⟩

lemma OneDepth.hop {t u r : FilterTree} (h : t.OneDepth) (hu : u ∈ firstVisits [] [t])
    (hr : r ∈ u.references) : Hop [] (firstVisits [] [t]) u.entity r.entity := by
  obtain ⟨depth, hlevel⟩ := h.exists_levelBy
  have hsorted := (@sorted_firstVisits depth [] [t] (depth t.entity)
    (List.forall_mem_singleton.mpr hlevel) (List.pairwise_singleton _ _) (by simp)).1
  obtain ⟨p, hat⟩ := exists_at_of_mem_firstVisits hu
  have hdepth := hlevel p u hat r hr
  -- what was looked into before `u` is no lower than `u`, while `r` is
  obtain ⟨pre, post, horder⟩ := List.append_of_mem hu
  rw [horder] at hsorted ⊢
  refine ⟨pre, u, post, rfl, rfl, ⟨r, hr, rfl⟩, List.not_mem_nil, fun hpre => ?_, fun he => ?_⟩
  · obtain ⟨a, ha, he⟩ := List.mem_map.mp hpre
    have hle := (List.pairwise_append.mp hsorted).2.2 a ha u List.mem_cons_self
    rw [he] at hle
    omega
  · rw [he] at hdepth
    omega

lemma At.induction_down {t : FilterTree} {P : List String → FilterTree → Prop}
    (hroot : P [t.entity] t)
    (hstep : ∀ p u r, At t p u → P p u → r ∈ u.references → P (p ++ [r.entity]) r)
    {p : List String} {u : FilterTree} (h : At t p u) : P p u := by
  have hall : ∀ {v : FilterTree} {q : List String}, At v q u → ∀ pre, At t (pre ++ [v.entity]) v →
      P (pre ++ [v.entity]) v → P (pre ++ q) u := by
    intro v q hq
    clear h
    induction hq with
    | root v => exact fun _ _ hp => hp
    | @nested v r u q hr hq ih =>
      intro pre hv hp
      have := ih (pre ++ [v.entity]) (hv.snoc hr) (hstep _ _ _ hv hp hr)
      rwa [List.append_assoc] at this
  exact hall h [] (.root t) hroot

lemma SameReferences.exists_reference {t u v r : FilterTree} {p : List String} (h : t.SameReferences)
    (hu : At t p u) (hv : v ∈ firstVisits [] [t]) (he : v.entity = u.entity) (hr : r ∈ u.references) :
    ∃ r' ∈ v.references, r'.entity = r.entity := by
  obtain ⟨q, hat⟩ := exists_at_of_mem_firstVisits hv
  exact List.mem_map.mp ((h p q u v hu hat he.symm r.entity).mp (List.mem_map_of_mem hr))

lemma SameReferences.mem_firstVisits {t u : FilterTree} {p : List String} (h : t.SameReferences)
    (hu : At t p u) : u.entity ∈ (firstVisits [] [t]).map entity := by
  obtain ⟨hqueue, hreferences⟩ := ReferenceGraph.mem_firstVisits [] [t]
  apply hu.induction_down (P := fun _ u => u.entity ∈ (firstVisits [] [t]).map entity)
  · exact (hqueue t List.mem_cons_self).resolve_left List.not_mem_nil
  · intro p u r hu hmem hr
    -- the tree looked into for the entity of `u` need not be `u`, but refers to the same entities
    obtain ⟨v, hv, he⟩ := List.mem_map.mp hmem
    obtain ⟨r', hr', he'⟩ := h.exists_reference hu hv he hr
    exact he' ▸ (hreferences v hv r' hr').resolve_left List.not_mem_nil

lemma OneDepth.mem_edges {t u r : FilterTree} {p : List String} (hdepth : t.OneDepth)
    (hrefs : t.SameReferences) (hu : At t p u) (hr : r ∈ u.references) :
    (u.entity, r.entity) ∈ (ofTree t).edges := by
  obtain ⟨v, hv, he⟩ := List.mem_map.mp (hrefs.mem_firstVisits hu)
  obtain ⟨r', hr', he'⟩ := hrefs.exists_reference hu hv he hr
  rw [← he, ← he']
  exact (mem_edges_ofTree t _ _).mpr (hdepth.hop hv hr')

lemma isPath_of_at {t u : FilterTree} {p : List String} (hdepth : t.OneDepth)
    (hrefs : t.SameReferences) (h : At t p u) :
    p.IsChain fun source target => (source, target) ∈ (ofTree t).edges := by
  apply h.induction_down (P := fun p _ => p.IsChain _)
  · exact .singleton _
  · intro p u r hu hpath hr
    apply List.isChain_append.mpr
    refine ⟨hpath, .singleton _, fun a ha b hb => ?_⟩
    rw [hu.last] at ha
    obtain rfl := Option.some.inj ha
    obtain rfl := Option.some.inj hb
    exact hdepth.mem_edges hrefs hu hr

end EntityQuery.FilterTree
