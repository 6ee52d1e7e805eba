import EntityQuery.Proofs.Reach.Discovery
import EntityQuery.Proofs.Reading.Accepted
import EntityQuery.Proofs.Schema.Registered

/-! The chains of a filter that was read for a registered entity are all the ways from that entity to the
entities that refer no further. The references of the filter are declared ones, so that a chain is a way
through the registry as well. -/

namespace EntityQuery

namespace Schema

open FilterTree ReferenceGraph

variable {s : Schema} {defs : List (String × EntityDef)} {a b : String}

def Refers (s : Schema) (source target : String) : Prop :=
  ∃ e, s.entity source = .ok e ∧ e.refersTo target = true

lemma Refers.ne (hbuild : build defs = .ok s) (h : s.Refers a b) : b ≠ a := by
  obtain ⟨e, he, href⟩ := h
  exact (checked_of_refersTo hbuild he href).1

lemma Refers.exists_entity (hbuild : build defs = .ok s) (h : s.Refers a b) : ∃ e, s.entity b = .ok e := by
  obtain ⟨e, he, href⟩ := h
  exact exists_entity_of_refersTo hbuild he href

def Declares (s : Schema) (t : FilterTree) : Prop :=
  ∀ p u, At t p u → ∀ r ∈ u.references, s.Refers u.entity r.entity

lemma declares_iff {t : FilterTree} :
    s.Declares t ↔ ∀ r ∈ t.references, s.Refers t.entity r.entity ∧ s.Declares r := by
  constructor
  · exact fun h r hr => ⟨h _ t (.root t) r hr, fun p u hu => h _ u (.nested hr hu)⟩
  · intro h p u hu
    cases hu with
    | root => exact fun r hr => (h r hr).1
    | nested hr hu => exact (h _ hr).2 _ u hu

lemma Reads.declares {e : Entity} {ms : List (String × Json)} {entries : List FilterEntry}
    (h : Reads s e ms entries) {name : String} (he : s.entity name = .ok e) :
    s.Declares (.node name entries) := by
  induction h generalizing name with
  | nil => exact declares_iff.mpr (by simp)
  | @null _ key _ _ href _ ih =>
    have hempty : s.Declares (.empty key) := declares_iff.mpr (by simp [FilterTree.empty])
    rw [declares_iff, references_reference, List.forall_mem_cons]
    exact ⟨⟨⟨_, he, href⟩, hempty⟩, declares_iff.mp (ih he)⟩
  | reference href hnested _ _ ihInner ih =>
    rw [declares_iff, references_reference, List.forall_mem_cons]
    exact ⟨⟨⟨_, he, href⟩, ihInner hnested⟩, declares_iff.mp (ih he)⟩
  | field _ _ _ ih =>
    rw [declares_iff, references_field]
    exact declares_iff.mp (ih he)

section OfTree

variable {t : FilterTree}

lemma refers_of_edge (ht : s.Declares t) (h : (ofTree t).toDigraph.Edge a b) : s.Refers a b := by
  obtain ⟨pre, F, post, horder, rfl, ⟨r, hr, rfl⟩, -⟩ := (edge_ofTree_iff t a b).mp h
  have hF : F ∈ firstVisits [] [t] := by simp [horder]
  obtain ⟨p, hat⟩ := exists_at_of_mem_firstVisits hF
  exact ht p F hat r hr

lemma next_root_eq_nil_iff (hne : ∀ r ∈ t.references, r.entity ≠ t.entity) :
    (ofTree t).toDigraph.next t.entity = [] ↔ t.referenceKeys = [] := by
  have hedge : ∀ e, (ofTree t).toDigraph.Edge t.entity e ↔ e ∈ t.referenceKeys := by
    intro e
    rw [edge_ofTree_iff, firstVisits_root, hop_cons_iff]
    constructor
    · rintro (⟨r, hr, he⟩ | ⟨pre, F, post, horder, hF, -⟩)
      · obtain ⟨-, rfl⟩ := Prod.mk.inj he
        exact List.mem_map_of_mem (mem_fresh.mp hr).1
      · -- the root is looked into once, and first
        have hlater : F ∈ firstVisits [t.entity] ([] ++ fresh [] t) := horder ▸ by simp
        exact absurd (List.mem_singleton.mpr hF) ((nodup_firstVisits _ _).2 F hlater)
    · intro he
      obtain ⟨r, hr, rfl⟩ := List.mem_map.mp he
      exact Or.inl ⟨r, mem_fresh.mpr ⟨hr, by simpa using hne r hr⟩, rfl⟩
  rw [List.eq_nil_iff_forall_not_mem, List.eq_nil_iff_forall_not_mem]
  exact forall_congr' fun e => not_congr (hedge e)

lemma mem_chains_ofTree {p : List String} : p ∈ (ofTree t).chains ↔
    (ofTree t).toDigraph.PathToSink t.entity p ∧ 2 ≤ p.length := by
  rw [ReferenceGraph.chains, root_ofTree,
    Digraph.mem_chains (closed_ofTree t) (rankedBy_ofTree t) (root_mem_nodes t), and_comm]
  exact and_congr_right fun h => h.two_le_length_iff.symm

lemma chains_ofTree_eq_nil_iff (hne : ∀ r ∈ t.references, r.entity ≠ t.entity) :
    (ofTree t).chains = [] ↔ t.referenceKeys = [] := by
  rw [← next_root_eq_nil_iff hne]
  obtain ⟨p, hp⟩ := exists_pathToSink_ofTree t t.entity
  constructor
  · intro h
    by_contra hnext
    have hmem : p ∈ (ofTree t).chains := mem_chains_ofTree.mpr ⟨hp, hp.two_le_length_iff.mpr hnext⟩
    simp [h] at hmem
  · intro h
    rw [ReferenceGraph.chains, root_ofTree, Digraph.chains_eq, if_pos (List.isEmpty_iff.mpr h)]

end OfTree

lemma length_le_of_registered {p : List String} (hp : p.Nodup)
    (h : ∀ x ∈ p, ∃ e, s.entity x = .ok e) : p.length ≤ s.entities.length := by
  have hsubset : p ⊆ s.entities.map Entity.name := by
    intro x hx
    obtain ⟨e, he, hname⟩ := exists_entity_iff.mp (h x hx)
    exact List.mem_map.mpr ⟨e, he, hname⟩
  simpa using (List.subperm_of_subset hp hsubset).length_le

/-- The reference graph of an accepted filter has no cycle, so that the walk never meets its own path. It lists
every way from the root to the entities that refer no further, each once and those by earlier references
first. The steps of these ways are declared references, and there is none only if the filter refers to
nothing. -/
theorem chains_of_readFilter (hbuild : build defs = .ok s) {entity : String} {raw : Json} {t : FilterTree}
    (ht : s.readFilter entity raw = .ok t) :
    (ofTree t).toDigraph.Acyclic ∧
    (∀ way v, (way ++ [v]).IsChain (ofTree t).toDigraph.Edge →
      ((ofTree t).neighbors v).filter (fun n => n ∉ way ++ [v]) = (ofTree t).neighbors v) ∧
    (ofTree t).chains = (if ((ofTree t).neighbors entity).isEmpty then []
      else ((ofTree t).toDigraph.roam (ofTree t).nodes.length entity {}).found) ∧
    (∀ p, p ∈ (ofTree t).chains ↔ (ofTree t).toDigraph.PathToSink entity p ∧ 2 ≤ p.length) ∧
    (ofTree t).chains.Nodup ∧
    (ofTree t).chains.Pairwise (ofTree t).toDigraph.Earlier ∧
    (∀ p ∈ (ofTree t).chains, p.Nodup ∧ p.head? = some entity ∧ 2 ≤ p.length ∧
      p.length ≤ s.entities.length ∧ p.IsChain s.Refers) ∧
    ((ofTree t).chains = [] ↔ t.referenceKeys = []) := by
  obtain ⟨e, members, entries, he, -, hreads, rfl⟩ := readFilter_eq_ok_iff.mp ht
  have hdeclares := hreads.declares he
  have hacyclic := (rankedBy_ofTree (.node entity entries)).acyclic
  have hneighbors := nodup_neighbors (nodup_edges_ofTree (.node entity entries))
  refine ⟨hacyclic, fun way v => hacyclic.filter_next, ?_, fun p => mem_chains_ofTree,
    Digraph.nodup_chains hneighbors _, Digraph.pairwise_earlier_chains hneighbors _, fun p hp => ?_, ?_⟩
  · rw [ReferenceGraph.chains, root_ofTree]
    exact hacyclic.chains_eq_roam entity
  · obtain ⟨hpath, hlen⟩ := mem_chains_ofTree.mp hp
    have hnodup := hacyclic.nodup hpath.isChain
    have hregistered := hpath.forall_mem ⟨e, he⟩ fun a b hab =>
      (refers_of_edge hdeclares hab).exists_entity hbuild
    exact ⟨hnodup, hpath.head, hlen, length_le_of_registered hnodup hregistered,
      hpath.isChain.imp fun a b => refers_of_edge hdeclares⟩
  · apply chains_ofTree_eq_nil_iff
    exact fun r hr => (hdeclares _ _ (.root _) r hr).ne hbuild

def applicationOfJob : Json :=
  .object [("application", .object [("job", .object [("address", .object [])]),
    ("user", .object [("address", .null)])]), ("address", .null)]

def applicationOfJobTree : FilterTree :=
  .node "job" [.reference (.node "application" [.reference (.node "job" [.reference (.empty "address")]),
    .reference (.node "user" [.reference (.empty "address")])]), .reference (.empty "address")]

theorem back_reference_ends_chain : ∃ t, hiring.readFilter "job" applicationOfJob = .ok t ∧
    (ofTree t).chains = [["job", "application", "user"], ["job", "address"]] ∧
    (ofTree t).toDigraph.Acyclic ∧
    (∀ p, (ofTree t).toDigraph.PathToSink "job" p ∧ 2 ≤ p.length ↔
      p = ["job", "application", "user"] ∨ p = ["job", "address"]) ∧
    hiring.Refers "application" "user" := by
  have ht : hiring.readFilter "job" applicationOfJob = .ok applicationOfJobTree := rfl
  have hchains : (ofTree applicationOfJobTree).chains =
      [["job", "application", "user"], ["job", "address"]] := by
    decide +kernel
  obtain ⟨hacyclic, -, -, hmem, -, -, hsteps, -⟩ := chains_of_readFilter build_hiring ht
  obtain ⟨-, -, -, -, hrefers⟩ := hsteps ["job", "application", "user"] (by simp [hchains])
  refine ⟨_, ht, hchains, hacyclic, fun p => ?_, (List.isChain_cons_cons.mp hrefers.tail).1⟩
  rw [← hmem, hchains]
  simp

end Schema

end EntityQuery
