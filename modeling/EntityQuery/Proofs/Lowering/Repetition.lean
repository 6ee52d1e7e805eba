import EntityQuery.Proofs.Lowering.Gathering
import EntityQuery.Proofs.Reach.FirstVisit
import EntityQuery.Proofs.Reading.Accepted
import EntityQuery.Proofs.Schema.Registered

/-! How often the chains lead to a nested tree: once for each way from its entity to the sinks of the
reference graph, if the steps of its path are edges of that graph, and never otherwise. -/

namespace EntityQuery

namespace ReferenceGraph

def IsPath (g : ReferenceGraph) (p : List String) : Prop :=
  p.IsChain fun source target => (source, target) ∈ g.edges

instance (g : ReferenceGraph) (p : List String) : Decidable (g.IsPath p) :=
  inferInstanceAs (Decidable (p.IsChain fun source target => (source, target) ∈ g.edges))

def pathsToSinks (g : ReferenceGraph) (entity : String) : Set (List String) :=
  {p | g.toDigraph.PathToSink entity p}

lemma isPath_iff (g : ReferenceGraph) (p : List String) : g.IsPath p ↔ p.IsChain g.toDigraph.Edge :=
  List.IsChain.iff fun source target => (mem_neighbors g source target).symm

end ReferenceGraph

namespace FilterTree

open ReferenceGraph

variable {t u : FilterTree} {p chain : List String} {v : List String × FilterTree}

lemma head_of_mem_chains (h : chain ∈ (ofTree t).chains) : t.entity :: chain.drop 1 = chain := by
  rw [ReferenceGraph.chains, root_ofTree,
    Digraph.mem_chains (closed_ofTree t) (rankedBy_ofTree t) (root_mem_nodes t)] at h
  obtain ⟨tail, rfl⟩ := List.head?_eq_some_iff.mp h.2.head
  rfl

lemma count_visits (h : t.Distinct) (hu : At t p u) (hp : 2 ≤ p.length) :
    (t.visits.map Prod.fst).count p = (ofTree t).chains.countP (p <+: ·) := by
  have hchains : ∀ chain ∈ (ofTree t).chains, t.entity :: chain.drop 1 = chain :=
    fun _ => head_of_mem_chains
  rw [visits, List.map_flatMap]
  generalize (ofTree t).chains = chains at hchains ⊢
  induction chains with
  | nil => rfl
  | cons chain rest ih =>
    obtain ⟨hchain, hrest⟩ := List.forall_mem_cons.mp hchains
    rw [List.flatMap_cons, List.count_append, ih hrest, count_along h hu hp, hchain, List.countP_cons,
      Nat.add_comm]
    simp only [decide_eq_true_eq]

lemma at_of_mem_visits (h : v ∈ t.visits) : At t v.1 v.2 ∧ 2 ≤ v.1.length := by
  obtain ⟨chain, -, h⟩ := List.mem_flatMap.mp h
  exact at_of_mem_along h

lemma count_visits_of_isPath (h : t.Distinct) (hu : At t p u)
    (hp : 2 ≤ p.length) (hpath : (ofTree t).IsPath p) :
    ((t.visits.map Prod.fst).count p : ℕ∞) = ((ofTree t).pathsToSinks u.entity).encard := by
  rw [count_visits h hu hp, ReferenceGraph.chains, root_ofTree]
  exact Digraph.countP_prefix_chains (closed_ofTree t) (nodup_neighbors (nodup_edges_ofTree t))
    (rankedBy_ofTree t) (root_mem_nodes t) hu.head hu.last hp ((isPath_iff _ p).mp hpath)

lemma count_visits_eq_zero (h : t.Distinct) (hu : At t p u)
    (hp : 2 ≤ p.length) (hpath : ¬ (ofTree t).IsPath p) : (t.visits.map Prod.fst).count p = 0 := by
  rw [count_visits h hu hp, ReferenceGraph.chains, root_ofTree]
  exact Digraph.countP_prefix_chains_eq_zero (closed_ofTree t) (rankedBy_ofTree t) (root_mem_nodes t)
    fun hc => hpath ((isPath_iff _ p).mpr hc)

lemma count_visits_pos_iff (h : t.Distinct) (hu : At t p u)
    (hp : 2 ≤ p.length) : 0 < (t.visits.map Prod.fst).count p ↔ (ofTree t).IsPath p := by
  constructor
  · intro hpos
    by_contra hpath
    have := count_visits_eq_zero h hu hp hpath
    omega
  · intro hpath
    have hcount := count_visits_of_isPath h hu hp hpath
    have hne : ((ofTree t).pathsToSinks u.entity).encard ≠ 0 :=
      Set.encard_ne_zero.mpr (exists_pathToSink_ofTree t u.entity)
    rw [← hcount] at hne
    exact Nat.pos_of_ne_zero (by exact_mod_cast hne)

lemma mem_visits_iff (h : t.Distinct) :
    (p, u) ∈ t.visits ↔ At t p u ∧ 2 ≤ p.length ∧ (ofTree t).IsPath p := by
  constructor
  · intro hv
    obtain ⟨hat, hp⟩ := at_of_mem_visits hv
    exact ⟨hat, hp, (count_visits_pos_iff h hat hp).mp (List.count_pos_iff.mpr (List.mem_map_of_mem hv))⟩
  · rintro ⟨hat, hp, hpath⟩
    have hpos := List.count_pos_iff.mp ((count_visits_pos_iff h hat hp).mpr hpath)
    obtain ⟨⟨q, v⟩, hv, rfl⟩ := List.mem_map.mp hpos
    obtain rfl := h.at_unique hat (at_of_mem_visits hv).1
    exact hv

end FilterTree

namespace Schema

open FilterTree ReferenceGraph

variable (s : Schema)

lemma compile_eq_ok_iff {strategy : Strategy} {entity : String} {raw : Json}
    {conditions : List Condition} : s.compile strategy entity raw = .ok conditions ↔
      ∃ t, s.readFilter entity raw = .ok t ∧ s.lower strategy t = .ok conditions := by
  rw [compile, Outcome.bind_eq_ok_iff]

lemma compile_eq_lower {strategy : Strategy} {entity : String} {raw : Json} {t : FilterTree}
    (ht : s.readFilter entity raw = .ok t) : s.compile strategy entity raw = s.lower strategy t := by
  rw [compile, ht]
  rfl

lemma validate_of_compile {strategy : Strategy} {entity : String} {raw : Json}
    {conditions : List Condition} (h : s.compile strategy entity raw = .ok conditions) :
    ∀ c ∈ conditions, c.validate = .ok () := by
  obtain ⟨t, -, hlower⟩ := s.compile_eq_ok_iff.mp h
  exact s.validate_of_lower hlower

lemma exists_selectFor {strategy : Strategy} {entity : String} {raw : Json} {conditions : List Condition}
    (h : s.compile strategy entity raw = .ok conditions) : ∃ e, s.entity entity = .ok e ∧ ∀ columns,
      s.selectFor strategy entity raw columns =
        .ok { table := e.table, columns, filter := some (.ofConditions conditions) } := by
  obtain ⟨t, ht, -⟩ := s.compile_eq_ok_iff.mp h
  obtain ⟨e, -, -, he, -⟩ := readFilter_eq_ok_iff.mp ht
  refine ⟨e, he, fun columns => ?_⟩
  rw [selectFor, he, h]
  rfl

/-- What the chains give is the conditions of the root and of the nested trees that are visited. A
nested tree is visited as often as there are ways from its entity to the sinks, if its path is a path
of the reference graph, and never if it is none. -/
theorem compile_graph_visits {entity : String} {raw : Json} {conditions : List Condition}
    (hraw : raw.DistinctKeys) (h : s.compile .graph entity raw = .ok conditions) :
    ∃ t, s.readFilter entity raw = .ok t ∧
      (∀ p u v, At t p u → At t p v → u = v) ∧
      conditions = s.ownConditions t ++ t.visits.flatMap (fun v => s.ownConditions v.2) ∧
      s.fieldConditions t = .ok (s.ownConditions t) ∧
      (∀ v ∈ t.visits, At t v.1 v.2 ∧ 2 ≤ v.1.length ∧ s.fieldConditions v.2 = .ok (s.ownConditions v.2)) ∧
      ∀ p u, At t p u → 2 ≤ p.length →
        ((ofTree t).IsPath p → ((t.visits.map Prod.fst).count p : ℕ∞) =
          ((ofTree t).pathsToSinks u.entity).encard) ∧
        (¬ (ofTree t).IsPath p → (t.visits.map Prod.fst).count p = 0) ∧
        (0 < (t.visits.map Prod.fst).count p ↔ (ofTree t).IsPath p) := by
  obtain ⟨t, ht, hlower⟩ := s.compile_eq_ok_iff.mp h
  have hdistinct := distinct_of_readFilter ht hraw
  rw [lower, lowerByChains_eq, gather_eq_ok_iff, List.forall_mem_cons] at hlower
  obtain ⟨⟨hroot, hnested⟩, rfl⟩ := hlower
  refine ⟨t, ht, fun p u v => hdistinct.at_unique, ?_, hroot, ?_, ?_⟩
  · rw [List.flatMap_cons, List.flatMap_map]
  · intro v hv
    obtain ⟨hat, hlen⟩ := at_of_mem_visits hv
    exact ⟨hat, hlen, hnested _ (List.mem_map_of_mem hv)⟩
  · intro p u hu hp
    exact ⟨count_visits_of_isPath hdistinct hu hp, count_visits_eq_zero hdistinct hu hp,
      count_visits_pos_iff hdistinct hu hp⟩

def openApplications : Json :=
  .object [("application", .object [("status", .object [("equals", .string "open")]),
    ("user", .object [("address", .null)]), ("job", .object [("address", .object [])])])]

def openApplicationTree : FilterTree :=
  .node "application" [.field ⟨"status", "status", .string, [⟨.equals, .value (.text "open")⟩]⟩,
    .reference (.node "user" [.reference (.empty "address")]),
    .reference (.node "job" [.reference (.empty "address")])]

def statusOpen : Condition :=
  ⟨"application", "status", .eq, some (.scalar (.text "open"))⟩

theorem application_visited_twice : ∃ t,
    hiring.readFilter "conversation" openApplications = .ok t ∧
    hiring.compile .graph "conversation" openApplications = .ok [statusOpen, statusOpen] ∧
    hiring.ownConditions t ++ t.visits.flatMap (fun v => hiring.ownConditions v.2) = [statusOpen, statusOpen] ∧
    At t ["conversation", "application"] openApplicationTree ∧
    hiring.ownConditions openApplicationTree = [statusOpen] ∧
    (t.visits.map Prod.fst).count ["conversation", "application"] = 2 ∧
    ((ofTree t).pathsToSinks "application").encard = 2 := by
  have hraw : openApplications.DistinctKeys := by
    simp [openApplications, Json.distinctKeys_object_iff, Json.DistinctKeys.null, Json.DistinctKeys.string]
  have hcompile : hiring.compile .graph "conversation" openApplications = .ok [statusOpen, statusOpen] := by
    decide +kernel
  have htree : hiring.readFilter "conversation" openApplications =
      .ok (.node "conversation" [.reference openApplicationTree]) := rfl
  obtain ⟨t, ht, -, hconditions, -, -, hcount⟩ := hiring.compile_graph_visits hraw hcompile
  obtain rfl := Except.ok.inj (htree.symm.trans ht)
  have hat : At (.node "conversation" [.reference openApplicationTree]) ["conversation", "application"]
      openApplicationTree := .nested (List.mem_singleton.mpr rfl) (.root _)
  obtain ⟨hways, -, hpath⟩ := hcount _ _ hat (by decide)
  have htwo : ((FilterTree.node "conversation" [.reference openApplicationTree]).visits.map Prod.fst).count
      ["conversation", "application"] = 2 := by
    decide +kernel
  have hencard := hways (hpath.mp (htwo.symm ▸ Nat.two_pos))
  rw [htwo] at hencard
  exact ⟨_, ht, hcompile, hconditions.symm, hat, rfl, htwo, hencard.symm⟩

end Schema

end EntityQuery
