import EntityQuery.Proofs.Lowering.Repetition
import EntityQuery.Proofs.Reach.Levels

/-! The two ways of lowering a filter compared. The chains give nothing that the stack does not give. Where
entities keep to one depth and to their references, both give the same conditions, and each as often
if no tree below the root branches. -/

namespace EntityQuery

namespace FilterTree

open ReferenceGraph

variable {t u : FilterTree} {p q : List String} {source target target' : String}

lemma mem_positions_tail : (p, u) ∈ t.positions.tail ↔ At t p u ∧ 2 ≤ p.length := by
  rw [← mem_positions, positions_eq, List.tail_cons, List.mem_cons]
  have hlong : ∀ v ∈ (t.references.reverse.flatMap positions).map (fun v => (t.entity :: v.1, v.2)),
      2 ≤ v.1.length := by
    intro v hv
    obtain ⟨w, hw, rfl⟩ := List.mem_map.mp hv
    obtain ⟨r, -, hw⟩ := List.mem_flatMap.mp hw
    have := List.length_pos_iff.mpr (mem_positions.mp hw).ne_nil
    simp only [List.length_cons]
    omega
  constructor
  · exact fun h => ⟨Or.inr h, hlong _ h⟩
  · rintro ⟨h | h, hp⟩
    · obtain ⟨rfl, -⟩ := Prod.mk.inj h
      simp at hp
    · exact h

lemma visits_subset (t : FilterTree) : t.visits ⊆ t.positions.tail := fun _ hv =>
  mem_positions_tail.mpr (at_of_mem_visits hv)

lemma positions_tail_subset (h : t.Distinct) (hdepth : t.OneDepth)
    (hrefs : t.SameReferences) : t.positions.tail ⊆ t.visits := by
  rintro ⟨p, u⟩ hv
  obtain ⟨hat, hp⟩ := mem_positions_tail.mp hv
  exact (mem_visits_iff h).mpr ⟨hat, hp, isPath_of_at hdepth hrefs hat⟩

lemma hop_ne_root (h : Hop [] (firstVisits [] [t]) source target) : target ≠ t.entity := by
  obtain ⟨pre, u, post, horder, rfl, -, -, hpre, hne⟩ := h
  rw [firstVisits, if_neg List.not_mem_nil] at horder
  cases pre with
  | nil =>
    obtain ⟨rfl, -⟩ := List.cons.inj horder
    exact hne
  | cons a pre =>
    obtain ⟨rfl, -⟩ := List.cons.inj horder
    exact List.ne_of_not_mem_cons hpre

lemma Narrow.hop_unique (h : t.Narrow)
    (hs : source ≠ t.entity) (hop : Hop [] (firstVisits [] [t]) source target)
    (hop' : Hop [] (firstVisits [] [t]) source target') : target = target' := by
  have hnd := (nodup_firstVisits [] [t]).1
  obtain ⟨pre, u, post, horder, rfl, ⟨r, hr, rfl⟩, -⟩ := hop
  obtain ⟨pre', u', post', horder', he, ⟨r', hr', rfl⟩, -⟩ := hop'
  have hu : u ∈ firstVisits [] [t] := by simp [horder]
  have hu' : u' ∈ firstVisits [] [t] := by simp [horder']
  obtain rfl := List.inj_on_of_nodup_map hnd hu' hu he
  obtain ⟨p, hat⟩ := exists_at_of_mem_firstVisits hu
  have hp : 2 ≤ p.length := by
    by_contra hp
    exact hs (congrArg entity (hat.eq_root (by omega)))
  have hlen := h p u' hat hp
  obtain ⟨i, hi, rfl⟩ := List.getElem_of_mem hr
  obtain ⟨j, hj, rfl⟩ := List.getElem_of_mem hr'
  obtain rfl : i = j := by omega
  rfl

lemma Narrow.pathToSink_unique (h : t.Narrow)
    (hs : source ≠ t.entity) (hp : (ofTree t).toDigraph.PathToSink source p)
    (hq : (ofTree t).toDigraph.PathToSink source q) : p = q := by
  induction hp generalizing q with
  | @sink source hnone =>
    cases hq with
    | sink => rfl
    | step hn => simp [hnone] at hn
  | @step source n p hn hp ih =>
    cases hq with
    | sink hnone => simp [hnone] at hn
    | @step _ n' q hn' hq =>
      have hop := (edge_ofTree_iff t source n).mp hn
      have hop' := (edge_ofTree_iff t source n').mp hn'
      obtain rfl := h.hop_unique hs hop hop'
      rw [ih (hop_ne_root hop) hq]

lemma visits_perm (h : t.Distinct) (hdepth : t.OneDepth) (hrefs : t.SameReferences)
    (hnarrow : t.Narrow) : t.visits.Perm t.positions.tail := by
  have hcount : ∀ p ∈ t.visits.map Prod.fst, (t.visits.map Prod.fst).count p ≤ 1 := by
    intro p hp
    obtain ⟨⟨p, u⟩, hv, rfl⟩ := List.mem_map.mp hp
    obtain ⟨hat, hlen⟩ := at_of_mem_visits hv
    -- only the root may branch, and its entity is that of no other tree
    have hne : u.entity ≠ t.entity := fun he => by
      have hone : p.length = 1 := hdepth _ _ _ _ hat (.root t) he
      dsimp only at hlen
      omega
    have hsub : ((ofTree t).pathsToSinks u.entity).Subsingleton := fun a ha b hb =>
      hnarrow.pathToSink_unique hne ha hb
    have hone := Set.encard_le_one_iff_subsingleton.mpr hsub
    rw [← count_visits_of_isPath h hat hlen (isPath_of_at hdepth hrefs hat)] at hone
    exact_mod_cast hone
  have hnd : (t.visits.map Prod.fst).Nodup := List.nodup_iff_count_le_one.mpr fun p => by
    by_cases hp : p ∈ t.visits.map Prod.fst
    · exact hcount p hp
    · simp [List.count_eq_zero.mpr hp]
  have hpos : t.positions.tail.Nodup := (List.Nodup.of_map _ h.nodup_positions).tail
  exact (List.perm_ext_iff_of_nodup (.of_map _ hnd) hpos).mpr fun v =>
    ⟨fun hv => visits_subset t hv, fun hv => positions_tail_subset h hdepth hrefs hv⟩

end FilterTree

namespace Schema

open FilterTree

variable (s : Schema)

lemma lowerByStack_eq_cons (t : FilterTree) :
    s.lowerByStack t = s.gather (t :: t.positions.tail.map Prod.snd) := by
  rw [lowerByStack_eq, positions_eq]
  rfl

lemma gather_of_subset {ts us : List FilterTree} {conditions : List Condition} (hsub : ts ⊆ us)
    (h : s.gather us = .ok conditions) :
    ∃ found, s.gather ts = .ok found ∧ ∀ c ∈ found, c ∈ conditions := by
  obtain ⟨hall, rfl⟩ := s.gather_eq_ok_iff.mp h
  refine ⟨ts.flatMap s.ownConditions, s.gather_eq_ok_iff.mpr ⟨fun u hu => hall u (hsub hu), rfl⟩, ?_⟩
  intro c hc
  obtain ⟨u, hu, hc⟩ := List.mem_flatMap.mp hc
  exact List.mem_flatMap.mpr ⟨u, hsub hu, hc⟩

lemma perm_of_gather {ts us : List FilterTree} {found conditions : List Condition} (h : ts.Perm us)
    (hts : s.gather ts = .ok found) (hus : s.gather us = .ok conditions) : found.Perm conditions := by
  obtain ⟨-, rfl⟩ := s.gather_eq_ok_iff.mp hts
  obtain ⟨-, rfl⟩ := s.gather_eq_ok_iff.mp hus
  exact h.flatMap_right s.ownConditions

lemma compile_graph_eq {entity : String} {raw : Json} {t : FilterTree}
    (ht : s.readFilter entity raw = .ok t) :
    s.compile .graph entity raw = s.gather (t :: t.visits.map Prod.snd) := by
  rw [s.compile_eq_lower ht]
  exact s.lowerByChains_eq t

lemma compile_stack_eq {entity : String} {raw : Json} {t : FilterTree}
    (ht : s.readFilter entity raw = .ok t) :
    s.compile .stack entity raw = s.gather (t :: t.positions.tail.map Prod.snd) := by
  rw [s.compile_eq_lower ht]
  exact s.lowerByStack_eq_cons t

/-- Where the stack gives conditions, the chains give some of these and no others. -/
theorem compile_graph_subset_stack {entity : String} {raw : Json} {conditions : List Condition}
    (h : s.compile .stack entity raw = .ok conditions) :
    ∃ found, s.compile .graph entity raw = .ok found ∧ ∀ c ∈ found, c ∈ conditions := by
  obtain ⟨t, ht, -⟩ := s.compile_eq_ok_iff.mp h
  rw [s.compile_stack_eq ht] at h
  rw [s.compile_graph_eq ht]
  exact s.gather_of_subset (List.cons_subset_cons _ (List.map_subset _ (visits_subset t))) h

def jobsOfOpenApplications : Json :=
  .object [("job", .object [("pay", .object [("lessThan", .integer 9)]),
    ("application", .object [("status", .object [("equals", .string "open")])])])]

theorem back_reference_on_no_chain : ∃ conditions found,
    hiring.compile .stack "application" jobsOfOpenApplications = .ok conditions ∧
    hiring.compile .graph "application" jobsOfOpenApplications = .ok found ∧
    (∀ c ∈ found, c ∈ conditions) ∧ found.length = 1 ∧ conditions.length = 2 := by
  have hstack : hiring.compile .stack "application" jobsOfOpenApplications =
      .ok [⟨"job", "pay", .lt, some (.scalar (.integer 9))⟩,
        ⟨"application", "status", .eq, some (.scalar (.text "open"))⟩] := by decide +kernel
  have hgraph : hiring.compile .graph "application" jobsOfOpenApplications =
      .ok [⟨"job", "pay", .lt, some (.scalar (.integer 9))⟩] := by decide +kernel
  obtain ⟨found, hfound, hsub⟩ := hiring.compile_graph_subset_stack hstack
  obtain rfl := Except.ok.inj (hgraph.symm.trans hfound)
  exact ⟨_, _, hstack, hfound, hsub, rfl, rfl⟩

/-- Where entities keep to one depth and to their references, the chains and the stack succeed together
and on the same conditions, and on each as often if no tree below the root branches. -/
theorem compile_graph_agrees_stack {entity : String} {raw : Json} {t : FilterTree}
    (hraw : raw.DistinctKeys) (ht : s.readFilter entity raw = .ok t) (hdepth : t.OneDepth)
    (hrefs : t.SameReferences) :
    ((∃ found, s.compile .graph entity raw = .ok found) ↔
      ∃ conditions, s.compile .stack entity raw = .ok conditions) ∧
    ∀ found conditions, s.compile .graph entity raw = .ok found →
      s.compile .stack entity raw = .ok conditions →
      (∀ c, c ∈ found ↔ c ∈ conditions) ∧ (t.Narrow → found.Perm conditions) := by
  have hdistinct := distinct_of_readFilter ht hraw
  rw [s.compile_graph_eq ht, s.compile_stack_eq ht]
  have hsub : t :: t.visits.map Prod.snd ⊆ t :: t.positions.tail.map Prod.snd :=
    List.cons_subset_cons _ (List.map_subset _ (visits_subset t))
  have hsub' : t :: t.positions.tail.map Prod.snd ⊆ t :: t.visits.map Prod.snd :=
    List.cons_subset_cons _ (List.map_subset _ (positions_tail_subset hdistinct hdepth hrefs))
  refine ⟨⟨?_, ?_⟩, ?_⟩
  · rintro ⟨found, hfound⟩
    obtain ⟨conditions, hconditions, -⟩ := s.gather_of_subset hsub' hfound
    exact ⟨conditions, hconditions⟩
  · rintro ⟨conditions, hconditions⟩
    obtain ⟨found, hfound, -⟩ := s.gather_of_subset hsub hconditions
    exact ⟨found, hfound⟩
  · intro found conditions hfound hconditions
    refine ⟨fun c => ⟨fun hc => ?_, fun hc => ?_⟩, fun hnarrow => ?_⟩
    · obtain ⟨found', hfound', hmem⟩ := s.gather_of_subset hsub hconditions
      obtain rfl := Except.ok.inj (hfound.symm.trans hfound')
      exact hmem c hc
    · obtain ⟨conditions', hconditions', hmem⟩ := s.gather_of_subset hsub' hfound
      obtain rfl := Except.ok.inj (hconditions.symm.trans hconditions')
      exact hmem c hc
    · exact s.perm_of_gather (((visits_perm hdistinct hdepth hrefs hnarrow).map Prod.snd).cons t)
        hfound hconditions

def twoCities : Json :=
  .object [("user", .object [("address", .object [("city", .object [("equals", .string "Oslo")])])]),
    ("job", .object [("address", .object [("city", .object [("equals", .string "Turin")])])])]

def twoCitiesTree : FilterTree :=
  .node "application" [
    .reference (.node "user" [.reference (.node "address"
      [.field ⟨"city", "city", .string, [⟨.equals, .value (.text "Oslo")⟩]⟩])]),
    .reference (.node "job" [.reference (.node "address"
      [.field ⟨"city", "city", .string, [⟨.equals, .value (.text "Turin")⟩]⟩])])]

theorem twoCities_perm : ∃ found conditions, hiring.compile .graph "application" twoCities = .ok found ∧
    hiring.compile .stack "application" twoCities = .ok conditions ∧
    found.Perm conditions ∧ found = conditions.reverse ∧ found.length = 2 := by
  have hraw : twoCities.DistinctKeys := by
    simp [twoCities, Json.distinctKeys_object_iff, Json.DistinctKeys.string]
  have htree : hiring.readFilter "application" twoCities = .ok twoCitiesTree := rfl
  have hgraph : hiring.compile .graph "application" twoCities =
      .ok [⟨"address", "city", .eq, some (.scalar (.text "Oslo"))⟩,
        ⟨"address", "city", .eq, some (.scalar (.text "Turin"))⟩] := by decide +kernel
  obtain ⟨hiff, hsame⟩ := hiring.compile_graph_agrees_stack hraw htree (by decide) (by decide)
  obtain ⟨conditions, hstack⟩ := hiff.mp ⟨_, hgraph⟩
  have hperm := (hsame _ _ hgraph hstack).2 (by decide)
  have hstack' : hiring.compile .stack "application" twoCities =
      .ok [⟨"address", "city", .eq, some (.scalar (.text "Turin"))⟩,
        ⟨"address", "city", .eq, some (.scalar (.text "Oslo"))⟩] := by decide +kernel
  obtain rfl := Except.ok.inj (hstack'.symm.trans hstack)
  exact ⟨_, _, hgraph, hstack, hperm, rfl, rfl⟩

end Schema

end EntityQuery
