import EntityQuery.Proofs.Reach.Walk
import EntityQuery.Proofs.Tree.Position
import EntityQuery.Reach.Graph

/-! The reference graph in terms of the trees that are looked into. An edge leads from such a tree to each
entity it refers to that no tree before it, and not itself, belongs to; so the graph has no cycle. -/

namespace EntityQuery.ReferenceGraph

open FilterTree

def firstVisits (visited : List String) : List FilterTree → List FilterTree
  | [] => []
  | t :: queue =>
      if t.entity ∈ visited then firstVisits visited queue
      else t :: firstVisits (t.entity :: visited) (queue ++ fresh visited t)
termination_by queue => totalSize queue
decreasing_by
  · have := t.totalSize_references
    simp only [totalSize_cons]
    omega
  · have := totalSize_fresh_lt visited t
    simp only [totalSize_cons, totalSize_append]
    omega

lemma mem_fresh {visited : List String} {t r : FilterTree} :
    r ∈ fresh visited t ↔ r ∈ t.references ∧ r.entity ∉ t.entity :: visited := by
  simp [fresh]

lemma mem_appendNew {α : Type} {xs : List α} {x y : α} [Decidable (x ∈ xs)] :
    y ∈ (if x ∈ xs then xs else xs ++ [x]) ↔ y ∈ xs ∨ y = x := by
  split
  · next h =>
    constructor
    · exact Or.inl
    · rintro (h' | rfl)
      · exact h'
      · exact h
  · simp

section Edges

variable (g : ReferenceGraph) (source : String) (ts : List FilterTree)

lemma mem_edges_addEdges (e : String × String) :
    e ∈ (ts.foldl (fun g r => g.addEdge source r.entity) g).edges ↔
      e ∈ g.edges ∨ ∃ r ∈ ts, e = (source, r.entity) := by
  induction ts generalizing g with
  | nil => simp
  | cons t ts ih =>
    rw [List.foldl_cons, ih, List.exists_mem_cons_iff, ← or_assoc]
    exact or_congr_left mem_appendNew

lemma mem_nodes_addEdges (v : String) :
    v ∈ (ts.foldl (fun g r => g.addEdge source r.entity) g).nodes ↔
      v ∈ g.nodes ∨ ∃ r ∈ ts, v = r.entity := by
  induction ts generalizing g with
  | nil => simp
  | cons t ts ih =>
    rw [List.foldl_cons, ih, List.exists_mem_cons_iff, ← or_assoc]
    exact or_congr_left mem_appendNew

lemma nodup_edges_addEdges (h : g.edges.Nodup) :
    (ts.foldl (fun g r => g.addEdge source r.entity) g).edges.Nodup := by
  induction ts generalizing g with
  | nil => exact h
  | cons t ts ih =>
    apply ih
    simp only [addEdge]
    split
    · exact h
    · next hnew =>
      apply List.nodup_append.mpr
      refine ⟨h, List.nodup_singleton _, fun a ha b hb => ?_⟩
      obtain rfl := List.mem_singleton.mp hb
      rintro rfl
      exact hnew ha

lemma root_addEdges : (ts.foldl (fun g r => g.addEdge source r.entity) g).root = g.root := by
  induction ts generalizing g with
  | nil => rfl
  | cons t ts ih => exact ih _

end Edges

def Hop (visited : List String) (order : List FilterTree) (source target : String) : Prop :=
  ∃ pre t post, order = pre ++ t :: post ∧ t.entity = source ∧ (∃ r ∈ t.references, r.entity = target) ∧
    target ∉ visited ∧ target ∉ pre.map entity ∧ target ≠ t.entity

lemma hop_nil (visited : List String) (source target : String) : ¬ Hop visited [] source target := by
  rintro ⟨pre, t, post, h, -⟩
  simp at h

lemma hop_cons_iff {visited : List String} {t : FilterTree} {order : List FilterTree}
    {source target : String} : Hop visited (t :: order) source target ↔
      (∃ r ∈ fresh visited t, (source, target) = (t.entity, r.entity)) ∨
        Hop (t.entity :: visited) order source target := by
  constructor
  · rintro ⟨pre, u, post, horder, rfl, ⟨r, hr, rfl⟩, hv, hpre, hne⟩
    cases pre with
    | nil =>
      obtain ⟨rfl, rfl⟩ := List.cons.inj horder
      exact Or.inl ⟨r, mem_fresh.mpr ⟨hr, List.not_mem_cons_of_ne_of_not_mem hne hv⟩, rfl⟩
    | cons a pre =>
      obtain ⟨rfl, rfl⟩ := List.cons.inj horder
      obtain ⟨hta, hpre⟩ := List.ne_and_not_mem_of_not_mem_cons hpre
      exact Or.inr ⟨pre, u, post, rfl, rfl, ⟨r, hr, rfl⟩, List.not_mem_cons_of_ne_of_not_mem hta hv, hpre, hne⟩
  · rintro (⟨r, hr, he⟩ | ⟨pre, u, post, rfl, hu, hr, hv, hpre, hne⟩)
    · obtain ⟨rfl, rfl⟩ := Prod.mk.inj he
      obtain ⟨hr, hv⟩ := mem_fresh.mp hr
      obtain ⟨hne, hv⟩ := List.ne_and_not_mem_of_not_mem_cons hv
      exact ⟨[], t, order, rfl, rfl, ⟨r, hr, rfl⟩, hv, List.not_mem_nil, hne⟩
    · obtain ⟨hta, hv⟩ := List.ne_and_not_mem_of_not_mem_cons hv
      exact ⟨t :: pre, u, post, rfl, hu, hr, hv, List.not_mem_cons_of_ne_of_not_mem hta hpre, hne⟩

lemma mem_edges_expand (g : ReferenceGraph) (visited : List String) (queue : List FilterTree)
    (source target : String) : (source, target) ∈ (g.expand visited queue).edges ↔
      (source, target) ∈ g.edges ∨ Hop visited (firstVisits visited queue) source target := by
  induction g, visited, queue using expand.induct with
  | case1 g visited => simp [expand, firstVisits, hop_nil]
  | case2 g visited t queue hmem ih => rw [expand, firstVisits, if_pos hmem, if_pos hmem, ih]
  | case3 g visited t queue hmem ih =>
    rw [expand, firstVisits, if_neg hmem, if_neg hmem, ih, mem_edges_addEdges, hop_cons_iff, or_assoc]

lemma mem_nodes_expand (g : ReferenceGraph) (visited : List String) (queue : List FilterTree)
    (v : String) : v ∈ (g.expand visited queue).nodes ↔
      v ∈ g.nodes ∨ ∃ source, Hop visited (firstVisits visited queue) source v := by
  induction g, visited, queue using expand.induct with
  | case1 g visited => simp [expand, firstVisits, hop_nil]
  | case2 g visited t queue hmem ih => rw [expand, firstVisits, if_pos hmem, if_pos hmem, ih]
  | case3 g visited t queue hmem ih =>
    rw [expand, firstVisits, if_neg hmem, if_neg hmem, ih, mem_nodes_addEdges, or_assoc]
    simp only [hop_cons_iff, exists_or, Prod.mk.injEq]
    apply or_congr_right
    apply or_congr_left
    constructor
    · rintro ⟨r, hr, rfl⟩
      exact ⟨t.entity, r, hr, rfl, rfl⟩
    · rintro ⟨-, r, hr, -, rfl⟩
      exact ⟨r, hr, rfl⟩

lemma nodup_edges_expand (g : ReferenceGraph) (visited : List String) (queue : List FilterTree)
    (h : g.edges.Nodup) : (g.expand visited queue).edges.Nodup := by
  induction g, visited, queue using expand.induct with
  | case1 g visited => simpa [expand] using h
  | case2 g visited t queue hmem ih =>
    rw [expand, if_pos hmem]
    exact ih h
  | case3 g visited t queue hmem ih =>
    rw [expand, if_neg hmem]
    exact ih (nodup_edges_addEdges g t.entity _ h)

lemma root_expand (g : ReferenceGraph) (visited : List String) (queue : List FilterTree) :
    (g.expand visited queue).root = g.root := by
  induction g, visited, queue using expand.induct with
  | case1 g visited => rw [expand]
  | case2 g visited t queue hmem ih => rw [expand, if_pos hmem, ih]
  | case3 g visited t queue hmem ih => rw [expand, if_neg hmem, ih, root_addEdges]

lemma nodup_firstVisits (visited : List String) (queue : List FilterTree) :
    ((firstVisits visited queue).map entity).Nodup ∧
      ∀ t ∈ firstVisits visited queue, t.entity ∉ visited := by
  induction visited, queue using firstVisits.induct with
  | case1 visited => simp [firstVisits]
  | case2 visited t queue hmem ih => rwa [firstVisits, if_pos hmem]
  | case3 visited t queue hmem ih =>
    obtain ⟨hnd, hnew⟩ := ih
    rw [firstVisits, if_neg hmem, List.map_cons, List.nodup_cons, List.forall_mem_cons]
    refine ⟨⟨fun h => ?_, hnd⟩, hmem, fun u hu => List.not_mem_of_not_mem_cons (hnew u hu)⟩
    obtain ⟨u, hu, he⟩ := List.mem_map.mp h
    exact hnew u hu (he ▸ List.mem_cons_self)

lemma at_of_mem_firstVisits {visited : List String} {queue : List FilterTree} {u : FilterTree}
    (h : u ∈ firstVisits visited queue) : ∃ t ∈ queue, ∃ p, At t p u := by
  induction visited, queue using firstVisits.induct with
  | case1 visited => simp [firstVisits] at h
  | case2 visited t queue hmem ih =>
    rw [firstVisits, if_pos hmem] at h
    obtain ⟨q, hq, hat⟩ := ih h
    exact ⟨q, List.mem_cons_of_mem _ hq, hat⟩
  | case3 visited t queue hmem ih =>
    rw [firstVisits, if_neg hmem] at h
    rcases List.mem_cons.mp h with rfl | h
    · exact ⟨u, List.mem_cons_self, _, .root u⟩
    · obtain ⟨q, hq, p, hat⟩ := ih h
      rcases List.mem_append.mp hq with hq | hq
      · exact ⟨q, List.mem_cons_of_mem _ hq, p, hat⟩
      · exact ⟨t, List.mem_cons_self, _, .nested (mem_fresh.mp hq).1 hat⟩

lemma mem_firstVisits (visited : List String) (queue : List FilterTree) :
    (∀ t ∈ queue, t.entity ∈ visited ∨ t.entity ∈ (firstVisits visited queue).map entity) ∧
      ∀ t ∈ firstVisits visited queue, ∀ r ∈ t.references,
        r.entity ∈ visited ∨ r.entity ∈ (firstVisits visited queue).map entity := by
  induction visited, queue using firstVisits.induct with
  | case1 visited => simp [firstVisits]
  | case2 visited t queue hmem ih =>
    rw [firstVisits, if_pos hmem]
    exact ⟨List.forall_mem_cons.mpr ⟨Or.inl hmem, ih.1⟩, ih.2⟩
  | case3 visited t queue hmem ih =>
    have hstep : ∀ e, e ∈ t.entity :: visited ∨
        e ∈ (firstVisits (t.entity :: visited) (queue ++ fresh visited t)).map entity →
        e ∈ visited ∨ e ∈ (firstVisits visited (t :: queue)).map entity := by
      intro e he
      rw [firstVisits, if_neg hmem, List.map_cons, List.mem_cons]
      rw [List.mem_cons] at he
      tauto
    refine ⟨List.forall_mem_cons.mpr ⟨hstep _ (Or.inl List.mem_cons_self), fun q hq => ?_⟩, ?_⟩
    · exact hstep _ (ih.1 q (List.mem_append_left _ hq))
    · intro u hu r hr
      rw [firstVisits, if_neg hmem] at hu
      rcases List.mem_cons.mp hu with rfl | hu
      · by_cases hv : r.entity ∈ u.entity :: visited
        · exact hstep _ (Or.inl hv)
        · exact hstep _ (ih.1 r (List.mem_append_right _ (mem_fresh.mpr ⟨hr, hv⟩)))
      · exact hstep _ (ih.2 u hu r hr)

lemma Hop.idxOf_lt {visited : List String} {order : List FilterTree} {source target : String}
    (hnd : (order.map entity).Nodup) (h : Hop visited order source target) :
    (order.map entity).idxOf source < (order.map entity).idxOf target := by
  obtain ⟨pre, t, post, rfl, rfl, -, -, hpre, hne⟩ := h
  rw [List.map_append, List.map_cons] at hnd ⊢
  have hsource : t.entity ∉ pre.map entity := fun h =>
    (List.nodup_append.mp hnd).2.2 _ h _ List.mem_cons_self rfl
  rw [List.idxOf_append_of_notMem hsource, List.idxOf_append_of_notMem hpre, List.idxOf_cons_self,
    List.idxOf_cons_ne _ hne.symm]
  omega

lemma exists_at_of_mem_firstVisits {t u : FilterTree} (h : u ∈ firstVisits [] [t]) : ∃ p, At t p u := by
  obtain ⟨root, hroot, p, hat⟩ := at_of_mem_firstVisits h
  obtain rfl := List.mem_singleton.mp hroot
  exact ⟨p, hat⟩

section Tree

variable (t : FilterTree)

lemma mem_edges_ofTree (source target : String) :
    (source, target) ∈ (ofTree t).edges ↔ Hop [] (firstVisits [] [t]) source target := by
  simp [ofTree, mem_edges_expand, start]

lemma mem_neighbors (g : ReferenceGraph) (source target : String) :
    target ∈ g.neighbors source ↔ (source, target) ∈ g.edges := by
  simp [neighbors]

lemma nodup_neighbors {g : ReferenceGraph} (h : g.edges.Nodup) (source : String) :
    (g.neighbors source).Nodup := by
  apply h.filterMap
  rintro ⟨a, b⟩ ⟨a', b'⟩ c
  grind

lemma nodup_edges_ofTree : (ofTree t).edges.Nodup :=
  nodup_edges_expand _ _ _ List.nodup_nil

lemma root_ofTree : (ofTree t).root = t.entity :=
  root_expand _ _ _

lemma edge_ofTree_iff (source target : String) :
    (ofTree t).toDigraph.Edge source target ↔ Hop [] (firstVisits [] [t]) source target :=
  (mem_neighbors _ _ _).trans (mem_edges_ofTree t source target)

lemma closed_ofTree : (ofTree t).toDigraph.Closed := by
  intro v _ n hn
  have hn := (edge_ofTree_iff t v n).mp hn
  exact (mem_nodes_expand _ _ _ n).mpr (Or.inr ⟨v, hn⟩)

lemma root_mem_nodes : t.entity ∈ (ofTree t).toDigraph.nodes :=
  (mem_nodes_expand _ _ _ _).mpr (Or.inl (List.mem_singleton_self _))

def rank (v : String) : Nat :=
  ((firstVisits [] [t]).map entity).idxOf v

lemma rankedBy_ofTree : (ofTree t).toDigraph.RankedBy (rank t) := fun v n hn =>
  Hop.idxOf_lt (nodup_firstVisits [] [t]).1 ((edge_ofTree_iff t v n).mp hn)

lemma exists_pathToSink_ofTree (v : String) : ∃ p, (ofTree t).toDigraph.PathToSink v p :=
  Digraph.exists_pathToSink (rankedBy_ofTree t)
    (fun _ _ _ => Nat.lt_succ_of_le (List.idxOf_le_length)) v

end Tree

end EntityQuery.ReferenceGraph
