import EntityQuery.Proofs.Reach.FirstVisit
import Mathlib.Data.List.Flatten
import Mathlib.Logic.Relation

/-! The reference graph entity by entity. The trees that are looked into stand in the order in which their
entities are first referred to; the nodes and the neighbours of each node keep this order. -/

namespace EntityQuery

def FilterTree.referenceKeys (t : FilterTree) : List String :=
  t.references.map FilterTree.entity

namespace ReferenceGraph

open FilterTree

def addNew {α : Type} [DecidableEq α] (xs : List α) (x : α) : List α :=
  if x ∈ xs then xs else xs ++ [x]

section AddNew

variable {α : Type} [DecidableEq α] {xs ys : List α} {x : α}

lemma mem_foldl_addNew : x ∈ ys.foldl addNew xs ↔ x ∈ xs ∨ x ∈ ys := by
  induction ys generalizing xs with
  | nil => simp
  | cons y ys ih => rw [List.foldl_cons, ih, addNew, mem_appendNew, List.mem_cons, or_assoc]

lemma foldl_addNew_filter {seen : List α} (h : ∀ y ∈ seen, y ∈ xs) :
    (ys.filter fun y => y ∉ seen).foldl addNew xs = ys.foldl addNew xs := by
  induction ys generalizing xs with
  | nil => rfl
  | cons y ys ih =>
    have hnext : ∀ z ∈ seen, z ∈ addNew xs y := fun z hz => mem_appendNew.mpr (Or.inl (h z hz))
    rw [List.foldl_cons, ← ih hnext]
    by_cases hy : y ∈ seen
    · rw [List.filter_cons_of_neg (by simpa using hy), addNew, if_pos (h y hy)]
    · rw [List.filter_cons_of_pos (by simpa using hy), List.foldl_cons]

lemma filter_foldl_addNew (p : α → Bool) :
    (ys.foldl addNew xs).filter p = (ys.filter p).foldl addNew (xs.filter p) := by
  induction ys generalizing xs with
  | nil => rfl
  | cons y ys ih =>
    rw [List.foldl_cons, ih, List.filter_cons, addNew]
    by_cases hp : p y
    · by_cases hy : y ∈ xs <;> simp [hp, hy, addNew]
    · by_cases hy : y ∈ xs <;> simp [hp, hy]

lemma pairwise_idxOf_foldl_addNew (ys : List α) :
    (ys.foldl addNew []).Pairwise fun a b => ys.idxOf a < ys.idxOf b := by
  induction ys using List.reverseRecOn with
  | nil => exact .nil
  | append_singleton ys y ih =>
    have hmem : ∀ a ∈ ys.foldl addNew [], a ∈ ys := fun a ha => by simpa using mem_foldl_addNew.mp ha
    have hold : ∀ a ∈ ys, (ys ++ [y]).idxOf a = ys.idxOf a := fun a ha => List.idxOf_append_of_mem ha
    have hkeep : (ys.foldl addNew []).Pairwise fun a b => (ys ++ [y]).idxOf a < (ys ++ [y]).idxOf b := by
      apply ih.imp_of_mem
      intro a b ha hb hlt
      rwa [hold a (hmem a ha), hold b (hmem b hb)]
    rw [List.foldl_append, List.foldl_cons, List.foldl_nil, addNew]
    split
    · exact hkeep
    · next hy =>
      apply List.pairwise_append.mpr
      refine ⟨hkeep, List.pairwise_singleton _ _, fun a ha b hb => ?_⟩
      obtain rfl := List.mem_singleton.mp hb
      have hnew : b ∉ ys := fun h => hy (mem_foldl_addNew.mpr (Or.inr h))
      rw [hold a (hmem a ha), List.idxOf_append_of_notMem hnew]
      have := List.idxOf_lt_length_iff.mpr (hmem a ha)
      omega

end AddNew

def lookInto (g : ReferenceGraph) (visited : List String) : List FilterTree → ReferenceGraph
  | [] => g
  | t :: ts =>
      ((fresh visited t).foldl (fun g r => g.addEdge t.entity r.entity) g).lookInto (t.entity :: visited) ts

lemma expand_eq_lookInto (g : ReferenceGraph) (visited : List String) (queue : List FilterTree) :
    g.expand visited queue = g.lookInto visited (firstVisits visited queue) := by
  induction g, visited, queue using expand.induct with
  | case1 g visited => rw [expand, firstVisits, lookInto]
  | case2 g visited t queue hmem ih => rw [expand, firstVisits, if_pos hmem, if_pos hmem, ih]
  | case3 g visited t queue hmem ih => rw [expand, firstVisits, if_neg hmem, if_neg hmem, lookInto, ih]

section Nodes

lemma fresh_eq (visited : List String) (t : FilterTree) :
    (fresh visited t).map entity = t.referenceKeys.filter fun e => e ∉ t.entity :: visited := by
  rw [fresh, referenceKeys, List.filter_map]
  rfl

lemma nodes_addEdges (g : ReferenceGraph) (source : String) (ts : List FilterTree) :
    (ts.foldl (fun g r => g.addEdge source r.entity) g).nodes = (ts.map entity).foldl addNew g.nodes := by
  induction ts generalizing g with
  | nil => rfl
  | cons t ts ih =>
    rw [List.foldl_cons, ih]
    rfl

lemma nodes_expand (g : ReferenceGraph) (visited : List String) (queue : List FilterTree)
    (hvisited : ∀ e ∈ visited, e ∈ g.nodes) (hqueue : ∀ t ∈ queue, t.entity ∈ g.nodes) :
    (g.expand visited queue).nodes =
      ((firstVisits visited queue).flatMap referenceKeys).foldl addNew g.nodes := by
  induction g, visited, queue using expand.induct with
  | case1 g visited => simp [expand, firstVisits]
  | case2 g visited t queue hmem ih =>
    rw [expand, firstVisits, if_pos hmem, if_pos hmem]
    exact ih hvisited (List.forall_mem_cons.mp hqueue).2
  | case3 g visited t queue hmem ih =>
    obtain ⟨ht, hqueue⟩ := List.forall_mem_cons.mp hqueue
    have hseen : ∀ e ∈ t.entity :: visited, e ∈ g.nodes := List.forall_mem_cons.mpr ⟨ht, hvisited⟩
    have hnodes : ((fresh visited t).foldl (fun g r => g.addEdge t.entity r.entity) g).nodes =
        t.referenceKeys.foldl addNew g.nodes := by
      rw [nodes_addEdges, fresh_eq]
      exact foldl_addNew_filter hseen
    rw [expand, firstVisits, if_neg hmem, if_neg hmem, List.flatMap_cons, List.foldl_append, ← hnodes]
    apply ih
    · intro e he
      rw [hnodes]
      exact mem_foldl_addNew.mpr (Or.inl (hseen e he))
    · intro r hr
      rw [hnodes]
      rcases List.mem_append.mp hr with hr | hr
      · exact mem_foldl_addNew.mpr (Or.inl (hqueue r hr))
      · exact mem_foldl_addNew.mpr (Or.inr (List.mem_map_of_mem (mem_fresh.mp hr).1))

lemma map_firstVisits (visited : List String) (queue : List FilterTree) :
    visited.reverse ++ (firstVisits visited queue).map entity =
      (queue.map entity ++ (firstVisits visited queue).flatMap referenceKeys).foldl addNew
        visited.reverse := by
  induction visited, queue using firstVisits.induct with
  | case1 visited => simp [firstVisits]
  | case2 visited t queue hmem ih =>
    rw [firstVisits, if_pos hmem, ih, List.map_cons, List.cons_append, List.foldl_cons, addNew,
      if_pos (List.mem_reverse.mpr hmem)]
  | case3 visited t queue hmem ih =>
    have hseen : ∀ e ∈ t.entity :: visited,
        e ∈ (queue.map entity).foldl addNew (t.entity :: visited).reverse := fun e he =>
      mem_foldl_addNew.mpr (Or.inl (List.mem_reverse.mpr he))
    rw [List.map_append, fresh_eq, List.append_assoc, List.foldl_append, List.foldl_append,
      foldl_addNew_filter hseen, List.reverse_cons, List.append_assoc] at ih
    rw [firstVisits, if_neg hmem, List.map_cons, List.flatMap_cons, List.map_cons, List.cons_append,
      List.foldl_cons, addNew, if_neg (by simpa using hmem), List.foldl_append, List.foldl_append]
    exact ih

end Nodes

section Neighbors

variable {g : ReferenceGraph} {source target e : String}

lemma neighbors_addEdge_self : (g.addEdge source target).neighbors source =
    addNew (g.neighbors source) target := by
  by_cases h : (source, target) ∈ g.edges
  · rw [addNew, if_pos ((mem_neighbors g source target).mpr h), addEdge, neighbors, if_pos h]
    rfl
  · rw [addNew, if_neg (mt (mem_neighbors g source target).mp h), addEdge, neighbors, if_neg h,
      List.filterMap_append]
    simp [neighbors]

lemma neighbors_addEdge_of_ne (h : e ≠ source) : (g.addEdge source target).neighbors e = g.neighbors e := by
  by_cases hmem : (source, target) ∈ g.edges
  · rw [addEdge, neighbors, if_pos hmem]
    rfl
  · rw [addEdge, neighbors, if_neg hmem, List.filterMap_append]
    simp [neighbors, h.symm]

lemma neighbors_addEdges_self (ts : List FilterTree) :
    (ts.foldl (fun g r => g.addEdge source r.entity) g).neighbors source =
      (ts.map entity).foldl addNew (g.neighbors source) := by
  induction ts generalizing g with
  | nil => rfl
  | cons t ts ih => rw [List.foldl_cons, ih, neighbors_addEdge_self, List.map_cons, List.foldl_cons]

lemma neighbors_addEdges_of_ne (h : e ≠ source) (ts : List FilterTree) :
    (ts.foldl (fun g r => g.addEdge source r.entity) g).neighbors e = g.neighbors e := by
  induction ts generalizing g with
  | nil => rfl
  | cons t ts ih => rw [List.foldl_cons, ih, neighbors_addEdge_of_ne h]

lemma neighbors_lookInto_of_notMem {trees : List FilterTree} (h : e ∉ trees.map entity)
    (visited : List String) : (g.lookInto visited trees).neighbors e = g.neighbors e := by
  induction trees generalizing g visited with
  | nil => rfl
  | cons t ts ih =>
    obtain ⟨hne, h⟩ := List.ne_and_not_mem_of_not_mem_cons h
    rw [lookInto, ih h, neighbors_addEdges_of_ne hne]

lemma neighbors_lookInto {trees : List FilterTree} (hnd : (trees.map entity).Nodup) {F : FilterTree}
    (hF : F ∈ trees) (hnone : g.neighbors F.entity = []) (visited : List String) :
    ∃ p : String → Bool, (g.lookInto visited trees).neighbors F.entity =
      (F.referenceKeys.foldl addNew []).filter p := by
  induction trees generalizing g visited with
  | nil => cases hF
  | cons t ts ih =>
    obtain ⟨ht, hnd⟩ := List.nodup_cons.mp hnd
    rcases List.mem_cons.mp hF with rfl | hF
    · refine ⟨fun e => e ∉ F.entity :: visited, ?_⟩
      rw [lookInto, neighbors_lookInto_of_notMem ht, neighbors_addEdges_self, hnone, fresh_eq,
        filter_foldl_addNew]
      rfl
    · have hne : F.entity ≠ t.entity := fun he => ht (he ▸ List.mem_map_of_mem hF)
      exact ih hnd hF (by rw [neighbors_addEdges_of_ne hne, hnone]) _

end Neighbors

lemma find?_of_firstVisits {visited : List String} {queue pre post : List FilterTree} {u : FilterTree}
    (h : firstVisits visited queue = pre ++ u :: post) :
    (queue ++ pre.flatMap references).find? (·.entity == u.entity) = some u := by
  induction visited, queue using firstVisits.induct generalizing pre with
  | case1 visited => simp [firstVisits] at h
  | case2 visited t queue hmem ih =>
    have hu : u ∈ firstVisits visited (t :: queue) := by simp [h]
    have hne : t.entity ≠ u.entity := fun he => (nodup_firstVisits _ _).2 u hu (he ▸ hmem)
    rw [firstVisits, if_pos hmem] at h
    rw [List.cons_append, List.find?_cons_of_neg (by simpa using hne)]
    exact ih h
  | case3 visited t queue hmem ih =>
    rw [firstVisits, if_neg hmem] at h
    cases pre with
    | nil =>
      obtain ⟨rfl, -⟩ := List.cons.inj h
      simp
    | cons a pre =>
      obtain ⟨rfl, htail⟩ := List.cons.inj h
      have hu : u ∈ firstVisits (t.entity :: visited) (queue ++ fresh visited t) := by simp [htail]
      obtain ⟨hne, hnew⟩ := List.ne_and_not_mem_of_not_mem_cons ((nodup_firstVisits _ _).2 u hu)
      have hfresh : (fresh visited t).find? (·.entity == u.entity) =
          t.references.find? (·.entity == u.entity) := by
        rw [fresh, List.find?_filter]
        congr 1
        funext r
        by_cases he : r.entity = u.entity <;> simp [he, hne, hnew]
      rw [List.cons_append, List.find?_cons_of_neg (by simpa using hne.symm),
        List.flatMap_cons, ← ih htail]
      simp only [List.find?_append, hfresh, Option.or_assoc]

/-- The first of the trees to refer to `e` is the one at `i`, and its tree for `e` is `u`. -/
def MetIn (trees : List FilterTree) (e : String) (i : Nat) (u : FilterTree) : Prop :=
  (∃ F, trees[i]? = some F ∧ F.reference? e = some u) ∧
    ∀ k < i, ∀ F, trees[k]? = some F → e ∉ F.referenceKeys

/-- The trees list the entities of a filter breadth first, each with the tree by which it is met first, and the
graph is the one of the references that lead onward in this list. -/
structure BreadthFirst (t : FilterTree) (g : ReferenceGraph) (trees : List FilterTree) : Prop where
  distinct : (trees.map entity).Nodup
  root : trees[0]? = some t
  closed : ∀ F ∈ trees, ∀ e ∈ F.referenceKeys, ∃ G ∈ trees, G.entity = e
  met : ∀ j u, 0 < j → trees[j]? = some u → ∃ i < j, MetIn trees u.entity i u
  ordered : ∀ j j' u u' i i', 0 < j → j < j' → trees[j]? = some u → trees[j']? = some u' →
    MetIn trees u.entity i u → MetIn trees u'.entity i' u' →
    i < i' ∨ i = i' ∧ ∃ F, trees[i]? = some F ∧
      F.referenceKeys.idxOf u.entity < F.referenceKeys.idxOf u'.entity
  nodes : g.nodes = trees.map entity
  nodup_edges : g.edges.Nodup
  mem_edges_iff : ∀ a b, (a, b) ∈ g.edges ↔ ∃ i j : Nat, ∃ F G : FilterTree, i < j ∧
    trees[i]? = some F ∧ trees[j]? = some G ∧ F.entity = a ∧ G.entity = b ∧ b ∈ F.referenceKeys
  mem_neighbors_iff : ∀ a b, b ∈ g.neighbors a ↔ (a, b) ∈ g.edges
  neighbors_ordered : ∀ F ∈ trees, (g.neighbors F.entity).Pairwise fun a b =>
    F.referenceKeys.idxOf a < F.referenceKeys.idxOf b

lemma getElem?_eq_some_iff_split {α : Type} {xs : List α} {i : Nat} {x : α} :
    xs[i]? = some x ↔ ∃ pre post, xs = pre ++ x :: post ∧ pre.length = i := by
  constructor
  · intro h
    obtain ⟨hi, rfl⟩ := List.getElem?_eq_some_iff.mp h
    exact ⟨xs.take i, xs.drop (i + 1), by simp, by simp [Nat.le_of_lt hi]⟩
  · rintro ⟨pre, post, rfl, rfl⟩
    simp

section Order

variable {t u : FilterTree}

lemma firstVisits_root (t : FilterTree) :
    firstVisits [] [t] = t :: firstVisits [t.entity] ([] ++ fresh [] t) := by
  rw [firstVisits, if_neg List.not_mem_nil]

lemma isSome_reference?_iff {e : String} : (t.reference? e).isSome ↔ e ∈ t.referenceKeys := by
  simp [reference?, referenceKeys]

lemma entity_ne_root {j : Nat} (hj : 0 < j) (h : (firstVisits [] [t])[j]? = some u) :
    u.entity ≠ t.entity := by
  have hnd := (nodup_firstVisits [] [t]).1
  rw [firstVisits_root, List.map_cons, List.nodup_cons] at hnd
  obtain ⟨k, rfl⟩ := Nat.exists_eq_add_of_lt hj
  rw [firstVisits_root, Nat.zero_add, List.getElem?_cons_succ] at h
  exact fun he => hnd.1 (List.mem_map.mpr ⟨u, List.mem_of_getElem? h, he⟩)

lemma metIn_of_firstVisits {j : Nat} (hj : 0 < j) (h : (firstVisits [] [t])[j]? = some u) :
    ∃ i < j, MetIn (firstVisits [] [t]) u.entity i u := by
  obtain ⟨pre, post, hsplit, rfl⟩ := getElem?_eq_some_iff_split.mp h
  have hfind := find?_of_firstVisits hsplit
  rw [List.singleton_append, List.find?_cons_of_neg (by simpa using (entity_ne_root hj h).symm),
    List.find?_flatMap] at hfind
  obtain ⟨before, F, after, rfl, hF, hnone⟩ := List.findSome?_eq_some_iff.mp hfind
  refine ⟨before.length, by simp, ⟨F, by simp [hsplit], hF⟩, fun k hk G hG => ?_⟩
  have hbefore : G ∈ before := by
    rw [hsplit, List.append_assoc, List.getElem?_append_left hk] at hG
    exact List.mem_of_getElem? hG
  rw [← isSome_reference?_iff, reference?, hnone G hbefore]
  simp

lemma idxOf_flatMap_of_metIn {trees : List FilterTree} {e : String} {i : Nat} (h : MetIn trees e i u) :
    ∃ F, trees[i]? = some F ∧ e ∈ F.referenceKeys ∧ (trees.flatMap referenceKeys).idxOf e =
      ((trees.take i).flatMap referenceKeys).length + F.referenceKeys.idxOf e := by
  obtain ⟨⟨F, hF, hu⟩, hfirst⟩ := h
  have hkey : e ∈ F.referenceKeys := isSome_reference?_iff.mp (by simp [hu])
  obtain ⟨pre, post, rfl, rfl⟩ := getElem?_eq_some_iff_split.mp hF
  have hpre : e ∉ pre.flatMap referenceKeys := by
    intro he
    obtain ⟨G, hG, he⟩ := List.mem_flatMap.mp he
    obtain ⟨k, hk, rfl⟩ := List.getElem_of_mem hG
    exact hfirst k hk pre[k] (by rw [List.getElem?_append_left hk, List.getElem?_eq_getElem hk]) he
  refine ⟨F, hF, hkey, ?_⟩
  rw [List.take_left, List.flatMap_append, List.flatMap_cons, List.idxOf_append_of_notMem hpre,
    List.idxOf_append_of_mem hkey]

lemma idxOf_lt_of_firstVisits {j j' : Nat} {u u' : FilterTree} (hj : 0 < j) (hlt : j < j')
    (hu : (firstVisits [] [t])[j]? = some u) (hu' : (firstVisits [] [t])[j']? = some u') :
    ((firstVisits [] [t]).flatMap referenceKeys).idxOf u.entity <
      ((firstVisits [] [t]).flatMap referenceKeys).idxOf u'.entity := by
  have hnames := map_firstVisits [] [t]
  rw [List.reverse_nil, List.nil_append, List.map_singleton, List.singleton_append] at hnames
  have hpair := pairwise_idxOf_foldl_addNew (t.entity :: (firstVisits [] [t]).flatMap referenceKeys)
  rw [← hnames] at hpair
  obtain ⟨hj', rfl⟩ := List.getElem?_eq_some_iff.mp hu'
  obtain ⟨hj₀, rfl⟩ := List.getElem?_eq_some_iff.mp hu
  have hidx := List.pairwise_iff_getElem.mp hpair j j' (by simpa using hj₀) (by simpa using hj') hlt
  rw [List.getElem_map, List.getElem_map, List.idxOf_cons_ne _ (entity_ne_root hj hu).symm,
    List.idxOf_cons_ne _ (entity_ne_root (hj.trans hlt) hu').symm] at hidx
  omega

end Order

lemma ordered_of_metIn {trees : List FilterTree} {e e' : String} {i i' : Nat} {u u' : FilterTree}
    (h : MetIn trees e i u) (h' : MetIn trees e' i' u')
    (hlt : (trees.flatMap referenceKeys).idxOf e < (trees.flatMap referenceKeys).idxOf e') :
    i < i' ∨ i = i' ∧ ∃ F, trees[i]? = some F ∧ F.referenceKeys.idxOf e < F.referenceKeys.idxOf e' := by
  obtain ⟨F, hF, hkey, hidx⟩ := idxOf_flatMap_of_metIn h
  obtain ⟨F', hF', hkey', hidx'⟩ := idxOf_flatMap_of_metIn h'
  rcases Nat.lt_trichotomy i i' with hi | rfl | hi
  · exact Or.inl hi
  · obtain rfl : F = F' := Option.some.inj (hF.symm.trans hF')
    exact Or.inr ⟨rfl, F, hF, by omega⟩
  · -- the keys of a tree further on come behind all those of the trees before it
    obtain ⟨pre, post, rfl, rfl⟩ := getElem?_eq_some_iff_split.mp hF'
    obtain ⟨d, rfl⟩ := Nat.exists_eq_add_of_lt hi
    have hlen := List.idxOf_lt_length_iff.mpr hkey'
    simp only [Nat.add_assoc, List.take_length_add_append, List.take_succ_cons, List.take_left,
      List.flatMap_append, List.flatMap_cons, List.length_append] at hidx hidx' hlt
    omega

section OfTree

variable (t : FilterTree)

lemma map_firstVisits_root : (firstVisits [] [t]).map entity =
    ((firstVisits [] [t]).flatMap referenceKeys).foldl addNew [t.entity] := by
  simpa [addNew] using map_firstVisits [] [t]

lemma nodes_ofTree : (ofTree t).nodes = (firstVisits [] [t]).map entity := by
  rw [ofTree, nodes_expand _ _ _ (by simp) (by simp [start]), map_firstVisits_root]
  rfl

lemma mem_edges_ofTree_iff (source target : String) : (source, target) ∈ (ofTree t).edges ↔
    ∃ i j : Nat, ∃ F G : FilterTree, i < j ∧ (firstVisits [] [t])[i]? = some F ∧
      (firstVisits [] [t])[j]? = some G ∧ F.entity = source ∧ G.entity = target ∧
      target ∈ F.referenceKeys := by
  rw [mem_edges_ofTree]
  have hnd := (nodup_firstVisits [] [t]).1
  constructor
  · rintro ⟨pre, F, post, horder, rfl, ⟨r, hr, rfl⟩, -, hpre, hne⟩
    have hF : F ∈ firstVisits [] [t] := by simp [horder]
    have hlisted := ((mem_firstVisits [] [t]).2 F hF r hr).resolve_left List.not_mem_nil
    have hpost : r.entity ∈ post.map entity := by
      rw [horder, List.map_append, List.map_cons, List.mem_append, List.mem_cons] at hlisted
      exact (hlisted.resolve_left hpre).resolve_left hne
    obtain ⟨G, hG, he⟩ := List.mem_map.mp hpost
    obtain ⟨mid, rest, rfl⟩ := List.append_of_mem hG
    refine ⟨pre.length, (pre ++ F :: mid).length, F, G, by simp, by simp [horder], ?_, rfl, he,
      List.mem_map_of_mem hr⟩
    rw [horder, ← List.cons_append, ← List.append_assoc, List.getElem?_append_right (Nat.le_refl _)]
    simp
  · rintro ⟨i, j, F, G, hij, hF, hG, rfl, rfl, hkey⟩
    obtain ⟨pre, post, horder, rfl⟩ := getElem?_eq_some_iff_split.mp hF
    obtain ⟨r, hr, hre⟩ := List.mem_map.mp hkey
    obtain ⟨d, rfl⟩ := Nat.exists_eq_add_of_lt hij
    rw [horder, Nat.add_assoc, List.getElem?_append_right (Nat.le_add_right _ _), Nat.add_sub_cancel_left,
      List.getElem?_cons_succ] at hG
    have hpost : G.entity ∈ post.map entity := List.mem_map_of_mem (List.mem_of_getElem? hG)
    rw [horder, List.map_append, List.map_cons, List.nodup_append, List.nodup_cons] at hnd
    refine ⟨pre, F, post, horder, rfl, ⟨r, hr, hre⟩, List.not_mem_nil, fun hpre => ?_, fun he => ?_⟩
    · exact hnd.2.2 _ hpre _ (List.mem_cons_of_mem _ hpost) rfl
    · exact hnd.2.1.1 (he ▸ hpost)

lemma reflTransGen_of_firstVisits {j : Nat} {u : FilterTree} (h : (firstVisits [] [t])[j]? = some u) :
    Relation.ReflTransGen (fun a b => (a, b) ∈ (ofTree t).edges) t.entity u.entity := by
  induction j using Nat.strong_induction_on generalizing u with
  | _ j ih =>
    rcases Nat.eq_zero_or_pos j with rfl | hj
    · rw [firstVisits_root, List.getElem?_cons_zero] at h
      rw [Option.some.inj h]
    · -- the tree that `u` was met in comes before it
      obtain ⟨i, hi, ⟨F, hF, hu⟩, -⟩ := metIn_of_firstVisits hj h
      apply (ih i hi hF).tail
      apply (mem_edges_ofTree_iff t _ _).mpr
      exact ⟨i, j, F, u, hi, hF, h, rfl, rfl, isSome_reference?_iff.mp (by simp [hu])⟩

end OfTree

lemma breadthFirst_firstVisits (t : FilterTree) : BreadthFirst t (ofTree t) (firstVisits [] [t]) where
  distinct := (nodup_firstVisits [] [t]).1
  root := by rw [firstVisits_root, List.getElem?_cons_zero]
  closed F hF e he := by
    obtain ⟨r, hr, rfl⟩ := List.mem_map.mp he
    exact List.mem_map.mp (((mem_firstVisits [] [t]).2 F hF r hr).resolve_left List.not_mem_nil)
  met _ _ := metIn_of_firstVisits
  ordered _ _ _ _ _ _ hj hlt hu hu' h h' := ordered_of_metIn h h' (idxOf_lt_of_firstVisits hj hlt hu hu')
  nodes := nodes_ofTree t
  nodup_edges := nodup_edges_ofTree t
  mem_edges_iff := mem_edges_ofTree_iff t
  mem_neighbors_iff := mem_neighbors _
  neighbors_ordered F hF := by
    obtain ⟨p, hp⟩ := neighbors_lookInto (g := start t.entity) (nodup_firstVisits [] [t]).1 hF rfl []
    rw [ofTree, expand_eq_lookInto, hp]
    exact (pairwise_idxOf_foldl_addNew F.referenceKeys).filter p

/-- The reference graph of a filter is that of the references that lead onward, when the entities are taken
breadth first and each with the tree by which it is met first. Each of these trees is looked into once and no
other is, and all of the graph is reached from the root. -/
theorem ofTree_breadthFirst (t : FilterTree) : ∃ trees, BreadthFirst t (ofTree t) trees ∧
    ofTree t = (start t.entity).lookInto [] trees ∧
    ∀ v ∈ (ofTree t).nodes, Relation.ReflTransGen (fun a b => (a, b) ∈ (ofTree t).edges) t.entity v := by
  refine ⟨firstVisits [] [t], breadthFirst_firstVisits t, expand_eq_lookInto _ _ _, fun v hv => ?_⟩
  rw [nodes_ofTree] at hv
  obtain ⟨u, hu, rfl⟩ := List.mem_map.mp hv
  obtain ⟨j, hj, rfl⟩ := List.getElem_of_mem hu
  exact reflTransGen_of_firstVisits t (List.getElem?_eq_getElem hj)

def twoAddresses : FilterTree :=
  .node "application" [.reference (.node "user" [.reference (.node "address" [.reference (.empty "city")])]),
    .reference (.node "job" [.reference (.empty "address"), .reference (.empty "application")])]

theorem twoAddresses_breadthFirst : ∃ trees, BreadthFirst twoAddresses (ofTree twoAddresses) trees ∧
    trees.map entity = ["application", "user", "job", "address", "city"] ∧
    (ofTree twoAddresses).edges = [("application", "user"), ("application", "job"), ("user", "address"),
      ("job", "address"), ("address", "city")] ∧
    (∃ G ∈ trees, G.entity = "address" ∧ "city" ∈ G.referenceKeys) ∧
    Relation.ReflTransGen (fun a b => (a, b) ∈ (ofTree twoAddresses).edges) "application" "city" := by
  have hnodes : (ofTree twoAddresses).nodes = ["application", "user", "job", "address", "city"] := by
    decide +kernel
  have hedges : (ofTree twoAddresses).edges = [("application", "user"), ("application", "job"),
      ("user", "address"), ("job", "address"), ("address", "city")] := by
    decide +kernel
  obtain ⟨trees, hlists, -, hreached⟩ := ofTree_breadthFirst twoAddresses
  refine ⟨trees, hlists, by rw [← hlists.nodes, hnodes], hedges, ?_, hreached "city" (by simp [hnodes])⟩
  -- the edge to the city says which of the two addresses is listed
  obtain ⟨i, j, F, G, -, hF, -, haddress, -, hcity⟩ :=
    (hlists.mem_edges_iff "address" "city").mp (by simp [hedges])
  exact ⟨F, List.mem_of_getElem? hF, haddress, hcity⟩

end ReferenceGraph

end EntityQuery
