import EntityQuery.Reach.Digraph
import Mathlib.Data.List.Chain
import Mathlib.Data.List.Nodup
import Mathlib.Data.Set.Card
import Mathlib.Logic.Relation
import Mathlib.Tactic.Common

/-! The walk lists the simple paths that cannot go on, each once. In a graph without cycles these are all
paths to the nodes without neighbours, and those that begin with a given path are as many as go on from
its last node. -/

namespace EntityQuery.Digraph

variable {α : Type}

def Edge (g : Digraph α) (v n : α) : Prop :=
  n ∈ g.next v

inductive PathToSink (g : Digraph α) : α → List α → Prop
  | sink {v : α} (h : g.next v = []) : PathToSink g v [v]
  | step {v n : α} {p : List α} (hn : n ∈ g.next v) (hp : PathToSink g n p) : PathToSink g v (v :: p)

/-- Paths from a node that avoid `seen` and their own nodes and end where every neighbour is one of these. -/
inductive SimplePath (g : Digraph α) : List α → α → List α → Prop
  | stop {seen : List α} {v : α} (h : ∀ n ∈ g.next v, n ∈ v :: seen) : SimplePath g seen v [v]
  | go {seen : List α} {v n : α} {p : List α} (hn : n ∈ g.next v) (hs : n ∉ v :: seen)
      (hp : SimplePath g (v :: seen) n p) : SimplePath g seen v (v :: p)

def Closed (g : Digraph α) : Prop :=
  ∀ v ∈ g.nodes, ∀ n ∈ g.next v, n ∈ g.nodes

def Acyclic (g : Digraph α) : Prop :=
  ∀ v, ¬ Relation.TransGen g.Edge v v

def RankedBy (g : Digraph α) (rank : α → Nat) : Prop :=
  ∀ v, ∀ n ∈ g.next v, rank v < rank n

variable {g : Digraph α} {rank : α → Nat} {seen p : List α} {v n root : α}

lemma PathToSink.head (h : g.PathToSink v p) : p.head? = some v := by
  cases h <;> rfl

lemma PathToSink.two_le_length_iff (h : g.PathToSink v p) : 2 ≤ p.length ↔ g.next v ≠ [] := by
  cases h with
  | sink hv => simp [hv]
  | @step v n p hn hp =>
    obtain ⟨tail, rfl⟩ := List.head?_eq_some_iff.mp hp.head
    simp [List.ne_nil_of_mem hn]

lemma pathToSink_cons_iff :
    g.PathToSink v (v :: p) ↔ (p = [] ∧ g.next v = []) ∨ ∃ n ∈ g.next v, g.PathToSink n p := by
  constructor
  · rintro (h | ⟨hn, hp⟩)
    · exact Or.inl ⟨rfl, h⟩
    · exact Or.inr ⟨_, hn, hp⟩
  · rintro (⟨rfl, h⟩ | ⟨n, hn, hp⟩)
    · exact .sink h
    · exact .step hn hp

lemma PathToSink.isChain (h : g.PathToSink v p) : p.IsChain g.Edge := by
  induction h with
  | sink => exact .singleton _
  | @step v n p hn hp ih =>
    apply ih.cons
    intro y hy
    rw [hp.head, Option.mem_some_iff] at hy
    exact hy ▸ hn

lemma PathToSink.forall_mem {P : α → Prop} (h : g.PathToSink v p) (hv : P v)
    (hedge : ∀ a b, g.Edge a b → P b) : ∀ x ∈ p, P x := by
  induction h with
  | sink => simpa using hv
  | step hn _ ih => exact List.forall_mem_cons.mpr ⟨hv, ih (hedge _ _ hn)⟩

lemma RankedBy.lt_of_transGen (hg : g.RankedBy rank) (h : Relation.TransGen g.Edge v n) :
    rank v < rank n := by
  induction h with
  | single hn => exact hg _ _ hn
  | tail _ hn ih => exact ih.trans (hg _ _ hn)

lemma RankedBy.acyclic (hg : g.RankedBy rank) : g.Acyclic :=
  fun _ h => lt_irrefl _ (hg.lt_of_transGen h)

lemma Acyclic.nodup (hg : g.Acyclic) (hp : p.IsChain g.Edge) : p.Nodup := by
  have hreach : p.IsChain (Relation.TransGen g.Edge) := hp.imp fun _ _ => .single
  apply hreach.pairwise.imp
  rintro a b hab rfl
  exact hg a hab

lemma isChain_concat (hp : (p ++ [v]).IsChain g.Edge) (hn : n ∈ g.next v) :
    (p ++ [v] ++ [n]).IsChain g.Edge := by
  refine List.isChain_append.mpr ⟨hp, .singleton n, ?_⟩
  simpa [Edge] using hn

lemma exists_pathToSink (hg : g.RankedBy rank) {bound : Nat}
    (hb : ∀ v, ∀ n ∈ g.next v, rank n < bound) (v : α) : ∃ p, g.PathToSink v p := by
  induction hn : bound - rank v using Nat.strong_induction_on generalizing v with
  | _ k ih =>
    subst hn
    cases hnext : g.next v with
    | nil => exact ⟨[v], .sink hnext⟩
    | cons n ns =>
      have hn : n ∈ g.next v := by simp [hnext]
      have hlt := hg v n hn
      have hlt' := hb v n hn
      obtain ⟨p, hp⟩ := ih (bound - rank n) (by omega) n rfl
      exact ⟨v :: p, .step hn hp⟩

lemma RankedBy.lt_of_mem_path (hg : g.RankedBy rank)
    (hs : ∀ x ∈ seen, rank x < rank v) (hn : n ∈ g.next v) :
    ∀ x ∈ v :: seen, rank x < rank n :=
  List.forall_mem_cons.mpr ⟨hg v n hn, fun x hx => (hs x hx).trans (hg v n hn)⟩

lemma RankedBy.notMem_path (hg : g.RankedBy rank)
    (hs : ∀ x ∈ seen, rank x < rank v) (hn : n ∈ g.next v) : n ∉ v :: seen :=
  fun hmem => lt_irrefl _ (hg.lt_of_mem_path hs hn n hmem)

lemma simplePath_iff_pathToSink (hg : g.RankedBy rank) (hs : ∀ x ∈ seen, rank x < rank v) :
    g.SimplePath seen v p ↔ g.PathToSink v p := by
  constructor
  · intro h
    induction h with
    | @stop seen v h =>
      exact .sink (List.eq_nil_iff_forall_not_mem.mpr fun n hn => hg.notMem_path hs hn (h n hn))
    | go hn _ _ ih => exact .step hn (ih (hg.lt_of_mem_path hs hn))
  · intro h
    induction h generalizing seen with
    | sink h => exact .stop (by simp [h])
    | step hn _ ih => exact .go hn (hg.notMem_path hs hn) (ih (hg.lt_of_mem_path hs hn))

lemma pathToSink_append_iff {init q : List α}
    (hc : (init ++ [v]).IsChain g.Edge) (hroot : (init ++ [v]).head? = some root)
    (hq : q.head? = some v) : g.PathToSink root (init ++ q) ↔ g.PathToSink v q := by
  induction init generalizing root with
  | nil =>
    obtain rfl : v = root := by simpa using hroot
    rfl
  | cons a init ih =>
    obtain rfl : a = root := by simpa using hroot
    obtain ⟨n, hn⟩ : ∃ n, (init ++ [v]).head? = some n := by cases init <;> simp
    have hhead : (init ++ q).head? = some n := by
      rw [List.head?_append, hq]
      rwa [List.head?_append] at hn
    rw [List.cons_append, List.isChain_cons] at hc
    have hih := ih hc.2 hn
    rw [List.cons_append, pathToSink_cons_iff]
    constructor
    · rintro (⟨hnil, -⟩ | ⟨m, -, hp⟩)
      · simp [hnil] at hhead
      · obtain rfl := Option.some.inj (hp.head.symm.trans hhead)
        exact hih.mp hp
    · exact fun h => Or.inr ⟨n, hc.1 n hn, hih.mpr h⟩

lemma encard_pathToSink_extending
    (hc : p.IsChain g.Edge) (hroot : p.head? = some root) (hv : p.getLast? = some v) :
    {c | g.PathToSink root c ∧ p <+: c}.encard = {q | g.PathToSink v q}.encard := by
  obtain ⟨init, rfl⟩ := List.getLast?_eq_some_iff.mp hv
  have himage : {c | g.PathToSink root c ∧ init ++ [v] <+: c} = (init ++ ·) '' {q | g.PathToSink v q} := by
    ext c
    constructor
    · rintro ⟨hp, tail, rfl⟩
      rw [List.append_assoc] at hp ⊢
      exact ⟨[v] ++ tail, (pathToSink_append_iff hc hroot rfl).mp hp, rfl⟩
    · rintro ⟨q, hq, rfl⟩
      refine ⟨(pathToSink_append_iff hc hroot hq.head).mpr hq, ?_⟩
      obtain ⟨tail, rfl⟩ := List.head?_eq_some_iff.mp hq.head
      exact ⟨tail, by simp⟩
  rw [himage, (List.append_right_injective init).encard_image]

section Walk

variable [DecidableEq α]

def onward (g : Digraph α) (seen : List α) (v : α) : List α :=
  (g.next v).filter fun n => n ∉ v :: seen

lemma Acyclic.filter_next (hg : g.Acyclic) (hp : (p ++ [v]).IsChain g.Edge) :
    (g.next v).filter (fun n => n ∉ p ++ [v]) = g.next v := by
  apply List.filter_eq_self.mpr
  intro n hn
  rw [decide_eq_true_eq]
  intro hmem
  have hnodup := hg.nodup (isChain_concat hp hn)
  exact (List.nodup_append.mp hnodup).2.2 n hmem n (List.mem_singleton_self n) rfl

lemma mem_onward : n ∈ g.onward seen v ↔ n ∈ g.next v ∧ n ∉ v :: seen := by
  simp [onward]

def endings (g : Digraph α) : Nat → List α → α → List (List α)
  | 0, _, _ => []
  | fuel + 1, seen, v =>
      if (g.onward seen v).isEmpty then [[v]]
      else ((g.onward seen v).flatMap (g.endings fuel (v :: seen))).map (v :: ·)

def found (w : Walk α) (paths : List (List α)) : Walk α :=
  { w with found := w.found ++ paths.map (w.path ++ ·) }

lemma foldl_walk {fuel : Nat}
    (h : ∀ n (w : Walk α), w.onPath = seen → g.walk fuel n w = found w (g.endings fuel seen n))
    (ns : List α) (w : Walk α) (hw : w.onPath = seen) :
    ns.foldl (fun w n => g.walk fuel n w) w = found w (ns.flatMap (g.endings fuel seen)) := by
  induction ns generalizing w with
  | nil => simp [found]
  | cons n ns ih =>
    rw [List.foldl_cons, h n w hw, ih (found w (g.endings fuel seen n)) hw]
    simp only [found, List.flatMap_cons, List.map_append, List.append_assoc]

lemma walk_eq (g : Digraph α) (fuel : Nat) (v : α) (w : Walk α) :
    g.walk fuel v w = found w (g.endings fuel w.onPath v) := by
  induction fuel generalizing v w with
  | zero => simp [walk, endings, found]
  | succ fuel ih =>
    have hfold := foldl_walk (fun n w' (hw' : w'.onPath = v :: w.onPath) => by rw [ih n w', hw'])
      (g.onward w.onPath v) (w.enter v) rfl
    change Walk.leave (if (g.onward w.onPath v).isEmpty then (w.enter v).record
      else (g.onward w.onPath v).foldl (fun w n => g.walk fuel n w) (w.enter v)) v = _
    rw [hfold, endings]
    split <;> simp [found, Walk.enter, Walk.record, Walk.leave, Function.comp_def]

lemma chains_eq (g : Digraph α) (root : α) :
    g.chains root = if (g.next root).isEmpty then [] else g.endings g.nodes.length [] root := by
  simp [chains, walk_eq, found]

def roam (g : Digraph α) : Nat → α → Walk α → Walk α
  | 0, _, w => w
  | fuel + 1, node, w =>
      let entered := w.enter node
      let roamed :=
        if (g.next node).isEmpty then entered.record
        else (g.next node).foldl (fun w n => g.roam fuel n w) entered
      roamed.leave node

lemma foldl_walk_eq_roam {fuel : Nat} {ns path : List α}
    (h : ∀ n ∈ ns, ∀ w : Walk α, w.path = path → w.onPath = seen → g.walk fuel n w = g.roam fuel n w)
    (w : Walk α) (hpath : w.path = path) (hseen : w.onPath = seen) :
    ns.foldl (fun w n => g.walk fuel n w) w = ns.foldl (fun w n => g.roam fuel n w) w := by
  induction ns generalizing w with
  | nil => rfl
  | cons n ns ih =>
    obtain ⟨hn, hns⟩ := List.forall_mem_cons.mp h
    rw [List.foldl_cons, List.foldl_cons, ← hn w hpath hseen, walk_eq]
    exact ih hns (found w _) hpath hseen

lemma Acyclic.walk_eq_roam (hg : g.Acyclic) (fuel : Nat) (v : α) (w : Walk α)
    (hw : (w.path ++ [v]).IsChain g.Edge) (hs : w.onPath = w.path.reverse) :
    g.walk fuel v w = g.roam fuel v w := by
  induction fuel generalizing v w with
  | zero => rfl
  | succ fuel ih =>
    have hguard : (g.next v).filter (fun n => n ∉ (w.enter v).onPath) = g.next v := by
      simpa [Walk.enter, hs, and_comm] using hg.filter_next hw
    have hnext : ∀ n ∈ g.next v, ∀ w' : Walk α, w'.path = (w.enter v).path →
        w'.onPath = (w.enter v).onPath → g.walk fuel n w' = g.roam fuel n w' := by
      intro n hn w' hpath hseen
      apply ih n w'
      · rw [hpath]
        exact isChain_concat hw hn
      · rw [hpath, hseen]
        simp [Walk.enter, hs]
    rw [walk, roam, hguard, foldl_walk_eq_roam hnext (w.enter v) rfl rfl]

lemma Acyclic.chains_eq_roam (hg : g.Acyclic) (root : α) :
    g.chains root = if (g.next root).isEmpty then [] else (g.roam g.nodes.length root {}).found := by
  rw [chains, hg.walk_eq_roam g.nodes.length root {} (.singleton root) rfl]

lemma simplePath_iff_of_isEmpty (h : (g.onward seen v).isEmpty) : g.SimplePath seen v p ↔ p = [v] := by
  have hstop : ∀ n ∈ g.next v, n ∈ v :: seen := by
    intro n hn
    by_contra hs
    have hmem := mem_onward.mpr ⟨hn, hs⟩
    simp [List.isEmpty_iff.mp h] at hmem
  constructor
  · rintro (_ | ⟨hn, hs, -⟩)
    · rfl
    · exact absurd (hstop _ hn) hs
  · rintro rfl
    exact .stop hstop

lemma simplePath_iff_of_onward (h : ¬ (g.onward seen v).isEmpty) :
    g.SimplePath seen v p ↔ ∃ n ∈ g.onward seen v, ∃ q, g.SimplePath (v :: seen) n q ∧ v :: q = p := by
  constructor
  · rintro (hstop | ⟨hn, hs, hp⟩)
    · apply absurd _ h
      apply List.isEmpty_iff.mpr
      apply List.eq_nil_iff_forall_not_mem.mpr
      intro n hn
      obtain ⟨hn, hs⟩ := mem_onward.mp hn
      exact hs (hstop n hn)
    · exact ⟨_, mem_onward.mpr ⟨hn, hs⟩, _, hp, rfl⟩
  · rintro ⟨n, hn, q, hq, rfl⟩
    obtain ⟨hn, hs⟩ := mem_onward.mp hn
    exact .go hn hs hq

lemma mem_endings (hg : g.Closed) {fuel : Nat} (hfuel : g.nodes.length ≤ fuel + seen.length)
    (hv : v ∈ g.nodes) (hs : ∀ x ∈ seen, x ∈ g.nodes) (hnd : (v :: seen).Nodup) :
    p ∈ g.endings fuel seen v ↔ g.SimplePath seen v p := by
  induction fuel generalizing seen v p with
  | zero =>
    -- the path has no node twice, so it is no longer than the list of all nodes
    have hlen := (List.subperm_of_subset hnd (List.cons_subset.mpr ⟨hv, hs⟩)).length_le
    simp only [List.length_cons] at hlen
    omega
  | succ fuel ih =>
    have hnext : ∀ n ∈ g.onward seen v, ∀ q,
        q ∈ g.endings fuel (v :: seen) n ↔ g.SimplePath (v :: seen) n q := by
      intro n hn q
      obtain ⟨hn, hns⟩ := mem_onward.mp hn
      have hfuel' : g.nodes.length ≤ fuel + (v :: seen).length := by
        simp only [List.length_cons]
        omega
      exact ih hfuel' (hg v hv n hn) (List.forall_mem_cons.mpr ⟨hv, hs⟩) (List.nodup_cons.mpr ⟨hns, hnd⟩)
    rw [endings]
    split
    · next hempty => rw [List.mem_singleton, simplePath_iff_of_isEmpty hempty]
    · next hne =>
      rw [simplePath_iff_of_onward hne, List.mem_map]
      constructor
      · rintro ⟨q, hq, rfl⟩
        obtain ⟨n, hn, hq⟩ := List.mem_flatMap.mp hq
        exact ⟨n, hn, q, (hnext n hn q).mp hq, rfl⟩
      · rintro ⟨n, hn, q, hq, rfl⟩
        exact ⟨q, List.mem_flatMap.mpr ⟨n, hn, (hnext n hn q).mpr hq⟩, rfl⟩

lemma head_of_mem_endings {fuel : Nat} (h : p ∈ g.endings fuel seen v) : p.head? = some v := by
  cases fuel with
  | zero => cases h
  | succ fuel =>
    rw [endings] at h
    split at h
    · obtain rfl := List.mem_singleton.mp h
      rfl
    · obtain ⟨q, -, rfl⟩ := List.mem_map.mp h
      rfl

/-- Paths that part at a node and go on by an earlier and by a later one of its neighbours. -/
inductive Earlier (g : Digraph α) : List α → List α → Prop
  | part {v m n : α} {p q : List α} (h : (g.next v).idxOf m < (g.next v).idxOf n) :
      Earlier g (v :: m :: p) (v :: n :: q)
  | along {v : α} {p q : List α} (h : Earlier g p q) : Earlier g (v :: p) (v :: q)

lemma Earlier.ne {q : List α} (h : g.Earlier p q) : p ≠ q := by
  induction h with
  | part h =>
    intro he
    obtain ⟨rfl, -⟩ := List.cons.inj (List.cons.inj he).2
    exact lt_irrefl _ h
  | along _ ih => exact fun he => ih (List.cons.inj he).2

lemma pairwise_idxOf {ns : List α} (h : ns.Nodup) : ns.Pairwise fun m n => ns.idxOf m < ns.idxOf n := by
  apply List.pairwise_iff_getElem.mpr
  intro i j hi hj hij
  rwa [h.idxOf_getElem i hi, h.idxOf_getElem j hj]

lemma pairwise_earlier_endings {P : α → Prop} (hP : ∀ v, P v → ∀ n ∈ g.next v, P n)
    (hg : ∀ v, P v → (g.next v).Nodup) (fuel : Nat) (seen : List α) (hv : P v) :
    (g.endings fuel seen v).Pairwise g.Earlier := by
  induction fuel generalizing seen v with
  | zero => exact List.Pairwise.nil
  | succ fuel ih =>
    rw [endings]
    split
    · exact List.pairwise_singleton _ _
    · rw [List.pairwise_map, List.pairwise_flatMap]
      -- the paths behind one neighbour part further on, those behind different ones at `v`
      constructor
      · intro n hn
        exact (ih _ (hP v hv n (mem_onward.mp hn).1)).imp .along
      · apply ((pairwise_idxOf (hg v hv)).filter _).imp
        intro m n hmn p hp q hq
        obtain ⟨p, rfl⟩ := List.head?_eq_some_iff.mp (head_of_mem_endings hp)
        obtain ⟨q, rfl⟩ := List.head?_eq_some_iff.mp (head_of_mem_endings hq)
        exact .part hmn

lemma mem_chains_iff_simplePath (hg : g.Closed) (hroot : root ∈ g.nodes) :
    p ∈ g.chains root ↔ g.next root ≠ [] ∧ g.SimplePath [] root p := by
  rw [chains_eq]
  split
  · next h => simp [List.isEmpty_iff.mp h]
  · next h =>
    rw [mem_endings hg (by simp) hroot (by simp) (by simp)]
    simp [List.isEmpty_iff.not.mp h]

lemma mem_chains (hg : g.Closed) (hr : g.RankedBy rank) (hroot : root ∈ g.nodes) :
    p ∈ g.chains root ↔ g.next root ≠ [] ∧ g.PathToSink root p := by
  rw [mem_chains_iff_simplePath hg hroot, simplePath_iff_pathToSink hr (by simp)]

lemma pairwise_earlier_chains_of {P : α → Prop} (hP : ∀ v, P v → ∀ n ∈ g.next v, P n)
    (hg : ∀ v, P v → (g.next v).Nodup) (hroot : P root) : (g.chains root).Pairwise g.Earlier := by
  rw [chains_eq]
  split
  · exact List.Pairwise.nil
  · exact pairwise_earlier_endings hP hg _ _ hroot

lemma pairwise_earlier_chains (hg : ∀ v, (g.next v).Nodup) (root : α) :
    (g.chains root).Pairwise g.Earlier :=
  pairwise_earlier_chains_of (P := fun _ => True) (fun _ _ _ _ => trivial) (fun v _ => hg v) trivial

lemma nodup_chains (hg : ∀ v, (g.next v).Nodup) (root : α) : (g.chains root).Nodup :=
  (pairwise_earlier_chains hg root).imp Earlier.ne

lemma countP_prefix_chains (hg : g.Closed) (hnd : ∀ v, (g.next v).Nodup)
    (hr : g.RankedBy rank) (hnode : root ∈ g.nodes)
    (hroot : p.head? = some root) (hv : p.getLast? = some v) (hp : 2 ≤ p.length)
    (hc : p.IsChain g.Edge) :
    ((g.chains root).countP (p <+: ·) : ℕ∞) = {q | g.PathToSink v q}.encard := by
  have hset : {c | g.PathToSink root c ∧ p <+: c} =
      (((g.chains root).filter fun c => p <+: c).toFinset : Set (List α)) := by
    ext c
    simp only [Set.mem_ofPred_eq, List.coe_toFinset, List.mem_filter, mem_chains hg hr hnode,
      decide_eq_true_eq, and_assoc]
    constructor
    · rintro ⟨hpath, hpre⟩
      -- a root without neighbours has no chain, but then no path of two nodes begins a way
      exact ⟨hpath.two_le_length_iff.mp (hp.trans hpre.length_le), hpath, hpre⟩
    · rintro ⟨-, h⟩
      exact h
  rw [← encard_pathToSink_extending hc hroot hv, hset, Set.encard_coe_eq_coe_finsetCard,
    List.toFinset_card_of_nodup ((nodup_chains hnd root).filter _), List.countP_eq_length_filter]

lemma countP_prefix_chains_eq_zero (hg : g.Closed) (hr : g.RankedBy rank) (hnode : root ∈ g.nodes)
    (hc : ¬ p.IsChain g.Edge) : (g.chains root).countP (p <+: ·) = 0 := by
  rw [List.countP_eq_zero]
  intro c hmem hpre
  obtain ⟨-, hpath⟩ := (mem_chains hg hr hnode).mp hmem
  have hchain := List.IsChain.prefix hpath.isChain (by simpa using hpre)
  exact hc hchain

end Walk

end EntityQuery.Digraph
