import EntityQuery.Filter.Lowering
import EntityQuery.Proofs.Outcome
import EntityQuery.Proofs.Tree.Position

/-! Both ways of lowering a filter gather the conditions of a list of its trees. Off the stack these are all
trees in the order of `positions`, along the chains they are those of `visits`. -/

namespace EntityQuery

def FilterTree.visits (t : FilterTree) : List (List String × FilterTree) :=
  (ReferenceGraph.ofTree t).chains.flatMap fun chain => t.along (chain.drop 1)

def FilterTree.lowered (t : FilterTree) : Strategy → List FilterTree
  | .graph => t :: t.visits.map Prod.snd
  | .stack => t.positions.map Prod.snd

namespace Schema

def gather (s : Schema) : List FilterTree → Except FilterError (List Condition)
  | [] => .ok []
  | t :: rest => do
      let here ← s.fieldConditions t
      let onward ← s.gather rest
      .ok (here ++ onward)

def ownConditions (s : Schema) (t : FilterTree) : List Condition :=
  match s.entity t.entity with
  | .ok e => t.fields.flatMap (FieldTests.conditions e.table)
  | .error _ => []

variable (s : Schema)

lemma eq_ownConditions {t : FilterTree} {conditions : List Condition}
    (h : s.fieldConditions t = .ok conditions) : conditions = s.ownConditions t := by
  obtain ⟨e, he, h⟩ := Outcome.bind_eq_ok_iff.mp h
  obtain ⟨⟨⟩, -, h⟩ := Outcome.bind_eq_ok_iff.mp h
  rw [ownConditions, he]
  exact (Except.ok.inj h).symm

lemma gather_append (ts us : List FilterTree) :
    s.gather (ts ++ us) =
      (do let first ← s.gather ts
          let others ← s.gather us
          .ok (first ++ others)) := by
  induction ts with
  | nil => cases h : s.gather us <;> simp [gather, h] <;> rfl
  | cons t ts ih =>
    rw [List.cons_append, gather, ih, gather]
    cases s.fieldConditions t with
    | error e => rfl
    | ok here =>
      cases s.gather ts with
      | error e => rfl
      | ok first =>
        cases s.gather us with
        | error e => rfl
        | ok others => exact congrArg Except.ok (List.append_assoc _ _ _).symm

lemma gather_eq_ok_iff {ts : List FilterTree} {conditions : List Condition} :
    s.gather ts = .ok conditions ↔
      (∀ t ∈ ts, s.fieldConditions t = .ok (s.ownConditions t)) ∧ conditions = ts.flatMap s.ownConditions := by
  induction ts generalizing conditions with
  | nil => simp [gather, eq_comm]
  | cons t ts ih =>
    rw [gather, Outcome.bind_eq_ok_iff, List.forall_mem_cons, List.flatMap_cons]
    constructor
    · rintro ⟨here, hhere, h⟩
      obtain ⟨onward, honward, h⟩ := Outcome.bind_eq_ok_iff.mp h
      obtain ⟨hall, rfl⟩ := ih.mp honward
      obtain rfl := s.eq_ownConditions hhere
      exact ⟨⟨hhere, hall⟩, (Except.ok.inj h).symm⟩
    · rintro ⟨⟨hhere, hall⟩, rfl⟩
      exact ⟨_, hhere, Outcome.bind_eq_ok_iff.mpr ⟨_, ih.mpr ⟨hall, rfl⟩, rfl⟩⟩

lemma validate_of_fieldConditions {t : FilterTree} {conditions : List Condition}
    (h : s.fieldConditions t = .ok conditions) : ∀ c ∈ conditions, c.validate = .ok () := by
  obtain ⟨e, -, h⟩ := Outcome.bind_eq_ok_iff.mp h
  obtain ⟨⟨⟩, hvalid, h⟩ := Outcome.bind_eq_ok_iff.mp h
  obtain rfl := Except.ok.inj h
  exact Outcome.forM_eq_ok_iff.mp hvalid

lemma validate_of_gather {ts : List FilterTree} {conditions : List Condition}
    (h : s.gather ts = .ok conditions) : ∀ c ∈ conditions, c.validate = .ok () := by
  obtain ⟨hall, rfl⟩ := s.gather_eq_ok_iff.mp h
  intro c hc
  obtain ⟨t, ht, hc⟩ := List.mem_flatMap.mp hc
  exact s.validate_of_fieldConditions (hall t ht) c hc

lemma stackConditions_eq (stack : List FilterTree) :
    s.stackConditions stack = s.gather (stack.flatMap fun t => t.positions.map Prod.snd) := by
  induction stack using stackConditions.induct with
  | case1 => simp [stackConditions, gather]
  | case2 t stack ih =>
    rw [stackConditions, ih, List.flatMap_cons, FilterTree.positions_eq, List.map_cons, List.cons_append,
      gather]
    simp [List.map_map, Function.comp_def, List.map_flatMap, List.flatMap_append]

lemma lowerByStack_eq (t : FilterTree) :
    s.lowerByStack t = s.gather (t.positions.map Prod.snd) := by
  rw [lowerByStack, stackConditions_eq, FilterTree.positions_eq, List.map_cons, gather]
  simp [List.map_map, Function.comp_def, List.map_flatMap]

lemma chainConditions_eq (t : FilterTree) (names : List String) :
    s.chainConditions t names = s.gather ((t.along names).map Prod.snd) := by
  induction names generalizing t with
  | nil => rfl
  | cons e rest ih =>
    rw [chainConditions, FilterTree.along]
    cases t.reference? e with
    | none => rfl
    | some r =>
      rw [List.map_cons, gather, List.map_map]
      simp only [ih]
      rfl

lemma chainsConditions_eq (t : FilterTree) (chains : List (List String)) :
    s.chainsConditions t chains =
      s.gather ((chains.flatMap fun chain => t.along (chain.drop 1)).map Prod.snd) := by
  induction chains with
  | nil => rfl
  | cons chain rest ih =>
    rw [chainsConditions, chainConditions_eq, ih, List.flatMap_cons, List.map_append, gather_append]

lemma lowerByChains_eq (t : FilterTree) :
    s.lowerByChains t = s.gather (t :: t.visits.map Prod.snd) := by
  rw [lowerByChains, chainsConditions_eq, gather]
  rfl

lemma lower_eq (strategy : Strategy) (t : FilterTree) : s.lower strategy t = s.gather (t.lowered strategy) := by
  cases strategy with
  | graph => exact s.lowerByChains_eq t
  | stack => exact s.lowerByStack_eq t

lemma validate_of_lower {strategy : Strategy} {t : FilterTree} {conditions : List Condition}
    (h : s.lower strategy t = .ok conditions) : ∀ c ∈ conditions, c.validate = .ok () := by
  rw [lower_eq] at h
  exact s.validate_of_gather h

end Schema

end EntityQuery
