import EntityQuery.Proofs.Reach.Walk

/-! The walk on any finite graph, with cycles or without: it comes to an end, gives back the path that it was
given, and lists the simple paths that cannot go on, in the order of the neighbours. -/

namespace EntityQuery.Digraph

variable {α : Type}

structure MaximalPath (g : Digraph α) (root : α) (p : List α) : Prop where
  head : p.head? = some root
  edges : p.IsChain g.Edge
  nodup : p.Nodup
  ends : ∀ v ∈ p.getLast?, ∀ n ∈ g.next v, n ∈ p

variable {g : Digraph α} {seen p ns ms : List α} {v n root : α} {w w₁ w₂ : Walk α}

lemma SimplePath.exists_cons (h : g.SimplePath seen v p) : ∃ tail, p = v :: tail := by
  cases h <;> exact ⟨_, rfl⟩

lemma SimplePath.off (h : g.SimplePath seen v p) (hv : v ∉ seen) : ∀ x ∈ p, x ∉ seen := by
  induction h with
  | stop => simpa using hv
  | go _ hs _ ih =>
    rw [List.forall_mem_cons]
    exact ⟨hv, fun x hx hmem => ih hs x hx (List.mem_cons_of_mem _ hmem)⟩

lemma SimplePath.maximal (h : g.SimplePath seen v p) : p.IsChain g.Edge ∧ p.Nodup ∧
    ∀ u ∈ p.getLast?, ∀ n ∈ g.next u, n ∈ p ∨ n ∈ seen := by
  induction h with
  | stop h =>
    refine ⟨.singleton _, List.nodup_singleton _, ?_⟩
    simpa using h
  | @go seen v n p hn hs hp ih =>
    obtain ⟨hedges, hnodup, hends⟩ := ih
    have hoff := hp.off hs
    obtain ⟨tail, rfl⟩ := hp.exists_cons
    refine ⟨.cons_cons hn hedges, List.nodup_cons.mpr ⟨fun hv => hoff v hv List.mem_cons_self, hnodup⟩, ?_⟩
    intro u hu m hm
    rw [List.getLast?_cons_cons] at hu
    -- what the rest of the path was told to avoid is `v` and what the whole path avoids
    rcases hends u hu m hm with hmem | hmem
    · exact Or.inl (List.mem_cons_of_mem _ hmem)
    · rcases List.mem_cons.mp hmem with rfl | hmem
      · exact Or.inl List.mem_cons_self
      · exact Or.inr hmem

lemma SimplePath.of_maximal (hedges : (v :: p).IsChain g.Edge) (hnodup : (v :: p).Nodup)
    (hoff : ∀ x ∈ v :: p, x ∉ seen)
    (hends : ∀ u ∈ (v :: p).getLast?, ∀ n ∈ g.next u, n ∈ v :: p ∨ n ∈ seen) :
    g.SimplePath seen v (v :: p) := by
  induction p generalizing v seen with
  | nil =>
    apply SimplePath.stop
    intro n hn
    simpa using hends v rfl n hn
  | cons n p ih =>
    rw [List.isChain_cons_cons] at hedges
    obtain ⟨hv, hnodup⟩ := List.nodup_cons.mp hnodup
    have hoff' : ∀ x ∈ n :: p, x ∉ v :: seen := by
      intro x hx hmem
      rcases List.mem_cons.mp hmem with rfl | hmem
      · exact hv hx
      · exact hoff x (List.mem_cons_of_mem _ hx) hmem
    apply SimplePath.go hedges.1 (hoff' n List.mem_cons_self)
    apply ih hedges.2 hnodup hoff'
    intro u hu m hm
    rw [← List.getLast?_cons_cons (a := v)] at hu
    simpa [or_assoc, or_left_comm] using hends u hu m hm

lemma simplePath_iff_maximalPath : g.SimplePath [] v p ↔ g.MaximalPath v p := by
  constructor
  · intro h
    obtain ⟨hedges, hnodup, hends⟩ := h.maximal
    obtain ⟨tail, rfl⟩ := h.exists_cons
    refine ⟨rfl, hedges, hnodup, fun u hu n hn => ?_⟩
    exact (hends u hu n hn).resolve_right List.not_mem_nil
  · rintro ⟨hhead, hedges, hnodup, hends⟩
    obtain ⟨tail, rfl⟩ := List.head?_eq_some_iff.mp hhead
    apply SimplePath.of_maximal hedges hnodup
    · exact fun _ _ => List.not_mem_nil
    · exact fun u hu n hn => Or.inl (hends u hu n hn)

structure Ready (g : Digraph α) (v : α) (w : Walk α) : Prop where
  node : v ∈ g.nodes
  within : ∀ x ∈ w.path, x ∈ g.nodes
  nodup : (w.path ++ [v]).Nodup
  onPath : w.onPath = w.path.reverse

namespace Ready

lemma start (hroot : root ∈ g.nodes) : g.Ready root {} :=
  ⟨hroot, fun _ hx => absurd hx List.not_mem_nil, List.nodup_singleton _, rfl⟩

lemma subset_nodes (h : g.Ready v w) : w.path ++ [v] ⊆ g.nodes := by
  intro x hx
  rcases List.mem_append.mp hx with hx | hx
  · exact h.within x hx
  · rw [List.mem_singleton.mp hx]
    exact h.node

lemma length_lt (h : g.Ready v w) : w.path.length < g.nodes.length := by
  simpa using (List.subperm_of_subset h.nodup h.subset_nodes).length_le

end Ready

variable [DecidableEq α]

/-- Calls of the walk at nodes in a row, from the state before the first one to the state behind the last one. Here
nothing bounds the calls within the calls, so that a run is one that comes to an end by itself. -/
inductive Visits (g : Digraph α) : List α → Walk α → Walk α → Prop
  | done (w : Walk α) : Visits g [] w w
  | ending {v : α} {ns : List α} {w w' : Walk α} (h : g.onward w.onPath v = [])
      (hrest : Visits g ns ((w.enter v).record.leave v) w') : Visits g (v :: ns) w w'
  | going {v : α} {ns : List α} {w inner w' : Walk α} (h : g.onward w.onPath v ≠ [])
      (hinner : Visits g (g.onward w.onPath v) (w.enter v) inner) (hrest : Visits g ns (inner.leave v) w') :
      Visits g (v :: ns) w w'

inductive Calls (g : Digraph α) (root : α) : α → Walk α → Prop
  | first : Calls g root root {}
  | onward {v n : α} {w w' : Walk α} {pre post : List α} (hcall : Calls g root v w)
      (h : g.onward w.onPath v = pre ++ n :: post) (hpre : Visits g pre (w.enter v) w') : Calls g root n w'

lemma Visits.append (h₁ : g.Visits ns w w₁) (h₂ : g.Visits ms w₁ w₂) : g.Visits (ns ++ ms) w w₂ := by
  induction h₁ with
  | done => exact h₂
  | ending h _ ih => exact .ending h (ih h₂)
  | going h hinner _ _ ih => exact .going h hinner (ih h₂)

lemma Visits.unique (h₁ : g.Visits ns w w₁) (h₂ : g.Visits ns w w₂) : w₁ = w₂ := by
  induction h₁ generalizing w₂ with
  | done =>
    cases h₂
    rfl
  | ending h _ ih =>
    cases h₂ with
    | ending _ hrest => exact ih hrest
    | going hne => exact absurd h hne
  | going h _ _ ihInner ih =>
    cases h₂ with
    | ending hnil => exact absurd hnil h
    | going _ hinner hrest =>
      obtain rfl := ihInner hinner
      exact ih hrest

lemma leave_of_entered (w w' : Walk α) (v : α) (hpath : w'.path = w.path ++ [v])
    (hseen : w'.onPath = v :: w.onPath) : (w'.leave v).path = w.path ∧ (w'.leave v).onPath = w.onPath := by
  simp [Walk.leave, hpath, hseen]

lemma Visits.restores (h : g.Visits ns w w₁) : w₁.path = w.path ∧ w₁.onPath = w.onPath := by
  induction h with
  | done => exact ⟨rfl, rfl⟩
  | @ending v ns w w' _ _ ih =>
    -- recording the path does not change it
    obtain ⟨hpath, hseen⟩ := leave_of_entered w (w.enter v).record v rfl rfl
    exact ⟨ih.1.trans hpath, ih.2.trans hseen⟩
  | @going v ns w inner w' _ _ _ ihInner ih =>
    obtain ⟨hpath, hseen⟩ := leave_of_entered w inner v ihInner.1 ihInner.2
    exact ⟨ih.1.trans hpath, ih.2.trans hseen⟩

lemma Ready.onward (h : g.Ready v w) (hg : g.Closed) (hn : n ∈ g.onward w.onPath v)
    (hpath : w₁.path = w.path ++ [v]) (hseen : w₁.onPath = v :: w.onPath) : g.Ready n w₁ := by
  obtain ⟨hn, hs⟩ := mem_onward.mp hn
  have hoff : n ∉ w.path ++ [v] := by simpa [h.onPath, and_comm] using hs
  refine ⟨hg v h.node n hn, ?_, ?_, ?_⟩
  · rw [hpath]
    exact h.subset_nodes
  · rw [hpath]
    apply List.nodup_append'.mpr
    exact ⟨h.nodup, List.nodup_singleton n, by simpa using hoff⟩
  · rw [hpath, hseen, h.onPath]
    simp

lemma visits_foldl {fuel : Nat} {path : List α}
    (h : ∀ n ∈ ns, ∀ w : Walk α, w.path = path → w.onPath = seen → g.Visits [n] w (g.walk fuel n w))
    (w : Walk α) (hpath : w.path = path) (hseen : w.onPath = seen) :
    g.Visits ns w (ns.foldl (fun w n => g.walk fuel n w) w) := by
  induction ns generalizing w with
  | nil => exact .done w
  | cons n ns ih =>
    obtain ⟨hn, hns⟩ := List.forall_mem_cons.mp h
    have hvisit := hn w hpath hseen
    obtain ⟨hpath', hseen'⟩ := hvisit.restores
    exact hvisit.append (ih hns _ (hpath'.trans hpath) (hseen'.trans hseen))

lemma visits_walk (hg : g.Closed) {fuel : Nat} (hfuel : g.nodes.length ≤ fuel + w.path.length)
    (h : g.Ready v w) : g.Visits [v] w (g.walk fuel v w) := by
  induction fuel generalizing v w with
  | zero =>
    have := h.length_lt
    omega
  | succ fuel ih =>
    -- `walk` filters the neighbours by the path that `v` is already on, as `onward` does
    change g.Visits [v] w (Walk.leave (if (g.onward w.onPath v).isEmpty then (w.enter v).record
      else (g.onward w.onPath v).foldl (fun w n => g.walk fuel n w) (w.enter v)) v)
    split
    · next hempty => exact .ending (List.isEmpty_iff.mp hempty) (.done _)
    · next hne =>
      apply Visits.going (List.isEmpty_iff.not.mp hne) _ (.done _)
      apply visits_foldl _ _ rfl rfl
      intro n hn w' hpath hseen
      have hlen : w'.path.length = w.path.length + 1 := by simp [hpath, Walk.enter]
      exact ih (by omega) (h.onward hg hn hpath hseen)

lemma existsUnique_visits (hg : g.Closed) (h : g.Ready v w) : ∃! w', g.Visits [v] w w' :=
  have hvisit := visits_walk hg (Nat.le_add_right _ _) h
  ⟨_, hvisit, fun _ h' => h'.unique hvisit⟩

lemma Calls.ready (hg : g.Closed) (hroot : root ∈ g.nodes) (h : g.Calls root v w) : g.Ready v w := by
  induction h with
  | first => exact .start hroot
  | onward _ hsplit hpre ih =>
    obtain ⟨hpath, hseen⟩ := hpre.restores
    exact ih.onward hg (by simp [hsplit]) hpath hseen

/-- On any finite graph the walk from a root with a neighbour comes to an end, and so does every call on the way,
each of them made off the path and giving it back as it was. The walk lists the paths from the root without a
repeated node that cannot go on, each once and in the order of the neighbours where they part. -/
theorem walk_lists_maximalPaths (hg : g.Closed) (hnext : ∀ v ∈ g.nodes, (g.next v).Nodup) (hroot : root ∈ g.nodes)
    (hne : g.next root ≠ []) :
    (∃ w, g.Visits [root] {} w ∧ w.found = g.chains root) ∧
    (∀ v w, g.Calls root v w → (w.path ++ [v]).Nodup ∧ w.onPath = w.path.reverse ∧ (∃! w', g.Visits [v] w w') ∧
      ∀ w', g.Visits [v] w w' → w'.path = w.path ∧ w'.onPath = w.onPath) ∧
    (∀ p, p ∈ g.chains root ↔ g.MaximalPath root p) ∧
    (g.chains root).Nodup ∧
    (g.chains root).Pairwise g.Earlier := by
  have hearlier := pairwise_earlier_chains_of hg hnext hroot
  refine ⟨⟨_, visits_walk hg le_rfl (.start hroot), ?_⟩, fun v w hcall => ?_, fun p => ?_,
    hearlier.imp Earlier.ne, hearlier⟩
  · rw [chains, if_neg (List.isEmpty_iff.not.mpr hne)]
  · have hready := hcall.ready hg hroot
    exact ⟨hready.nodup, hready.onPath, existsUnique_visits hg hready, fun w' => Visits.restores⟩
  · rw [mem_chains_iff_simplePath hg hroot, simplePath_iff_maximalPath]
    exact and_iff_right hne

def loops : Digraph Nat :=
  ⟨[1, 2, 3], fun | 1 => [3, 2] | 2 => [2, 1, 3] | 3 => [1] | _ => []⟩

theorem loops_cut : loops.Closed ∧ (∀ v ∈ loops.nodes, (loops.next v).Nodup) ∧ 1 ∈ loops.nodes ∧ loops.next 1 ≠ [] ∧
    (∃ w, loops.Visits [1] {} w ∧ w.found = [[1, 3], [1, 2, 3]]) ∧
    (∃ w, loops.Calls 1 2 w ∧ w.found = [[1, 3]] ∧ ∃! w', loops.Visits [2] w w') ∧
    loops.MaximalPath 1 [1, 2, 3] ∧ ¬ loops.MaximalPath 1 [1, 2] := by
  have hclosed : loops.Closed := by
    unfold Closed
    decide
  have hnext : ∀ v ∈ loops.nodes, (loops.next v).Nodup := by decide
  have hroot : 1 ∈ loops.nodes := by decide
  have hne : loops.next 1 ≠ [] := by decide
  have hchains : loops.chains 1 = [[1, 3], [1, 2, 3]] := by decide
  have hcall : loops.Calls 1 2 ⟨[1], [1], [[1, 3]]⟩ := by
    have hsplit : loops.onward [] 1 = [3] ++ 2 :: [] := rfl
    exact .onward .first hsplit (.ending rfl (.done _))
  obtain ⟨hrun, hcalls, hmem, -, -⟩ := walk_lists_maximalPaths hclosed hnext hroot hne
  rw [hchains] at hrun
  obtain ⟨-, -, hunique, -⟩ := hcalls _ _ hcall
  refine ⟨hclosed, hnext, hroot, hne, hrun, ⟨_, hcall, rfl, hunique⟩, ?_, ?_⟩
  · exact (hmem _).mp (by simp [hchains])
  · rw [← hmem, hchains]
    decide

end EntityQuery.Digraph
