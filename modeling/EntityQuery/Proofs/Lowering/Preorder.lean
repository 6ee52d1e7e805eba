import EntityQuery.Proofs.Lowering.EmptyLists

/-! The order in which the stack takes the trees of a filter: a tree before its references, the last of these
first. A round of the loop takes one tree off what is left of this walk, so that the loop is over after as
many rounds as there are nested trees. -/

namespace EntityQuery

open Outcome (valueUnless)

lemma findSome?_flatMap {α β γ : Type} (xs : List α) (g : α → List β) (f : β → Option γ) :
    (xs.flatMap g).findSome? f = xs.findSome? fun x => (g x).findSome? f := by
  induction xs with
  | nil => rfl
  | cons x xs ih =>
    rw [List.flatMap_cons, List.findSome?_append, List.findSome?_cons, ih]
    cases (g x).findSome? f <;> rfl

structure StackState where
  pending : List FilterTree
  gathered : List Condition

namespace FilterTree

def walk (stack : List FilterTree) : List FilterTree :=
  stack.flatMap fun t => t.positions.map Prod.snd

def walkedTests (t : FilterTree) : List Test :=
  t.positions.flatMap fun v => v.2.fields.flatMap FieldTests.tests

lemma walk_cons (t : FilterTree) (stack : List FilterTree) :
    walk (t :: stack) = t :: walk (t.references.reverse ++ stack) := by
  rw [walk, List.flatMap_cons, positions_eq, List.map_cons, List.map_map, List.cons_append, walk,
    List.flatMap_append, List.map_flatMap]
  rfl

lemma eq_nil_of_walk_eq_nil {stack : List FilterTree} (h : walk stack = []) : stack = [] := by
  cases stack with
  | nil => rfl
  | cons t stack =>
    rw [walk_cons] at h
    cases h

lemma walk_singleton (t : FilterTree) : walk [t] = t.positions.map Prod.snd := by
  rw [walk, List.flatMap_singleton]

lemma length_walk_references (t : FilterTree) : (walk t.references.reverse).length + 1 = t.positions.length := by
  have hwalk := walk_cons t []
  rw [walk_singleton, List.append_nil] at hwalk
  rw [← List.length_cons, ← hwalk, List.length_map]

lemma findSome?_fault?_positions (t : FilterTree) :
    (t.lowered .stack).findSome? fault? = t.walkedTests.findSome? Test.fault? := by
  rw [lowered, walkedTests, findSome?_flatMap, List.findSome?_map]
  congr 1
  funext v
  rw [findSome?_flatMap]
  rfl

end FilterTree

namespace Schema

open FilterTree

variable (s : Schema)

def round : StackState → Except FilterError StackState
  | ⟨[], gathered⟩ => .ok ⟨[], gathered⟩
  | ⟨t :: stack, gathered⟩ => do
      let here ← s.fieldConditions t
      .ok ⟨t.references.reverse ++ stack, gathered ++ here⟩

def rounds : Nat → StackState → Except FilterError StackState
  | 0, state => .ok state
  | n + 1, state => do
      let next ← s.round state
      rounds n next

def loopStart (t : FilterTree) : Except FilterError StackState := do
  let own ← s.fieldConditions t
  .ok ⟨t.references.reverse, own⟩

/-- After some rounds as many trees of the walk are done, and the walk of what is on the stack is the rest. -/
lemma rounds_eq (n : Nat) (stack : List FilterTree) (gathered : List Condition) :
    ∃ rest, walk rest = (walk stack).drop n ∧ s.rounds n ⟨stack, gathered⟩ =
      (s.gather ((walk stack).take n)).map fun found => ⟨rest, gathered ++ found⟩ := by
  induction n generalizing stack gathered with
  | zero => exact ⟨stack, rfl, by simp [rounds, gather, Except.map]⟩
  | succ n ih =>
    cases stack with
    | nil =>
      obtain ⟨rest, hrest, hrounds⟩ := ih [] gathered
      refine ⟨rest, by simpa [walk] using hrest, ?_⟩
      have hgather : (walk []).take (n + 1) = (walk []).take n := by simp [walk]
      rw [hgather, ← hrounds]
      rfl
    | cons t stack =>
      rw [rounds, round, walk_cons, List.drop_succ_cons, List.take_succ_cons, gather]
      cases s.fieldConditions t with
      | error err =>
        obtain ⟨rest, hrest, -⟩ := ih (t.references.reverse ++ stack) gathered
        exact ⟨rest, hrest, rfl⟩
      | ok here =>
        obtain ⟨rest, hrest, hrounds⟩ := ih (t.references.reverse ++ stack) (gathered ++ here)
        refine ⟨rest, hrest, hrounds.trans ?_⟩
        cases s.gather ((walk (t.references.reverse ++ stack)).take n) with
        | error err => rfl
        | ok onward =>
          change Except.ok (StackState.mk rest (gathered ++ here ++ onward)) = _
          rw [List.append_assoc]
          rfl

lemma rounds_of_length_le {n : Nat} {stack : List FilterTree} (h : (walk stack).length ≤ n)
    (gathered : List Condition) : s.rounds n ⟨stack, gathered⟩ =
      (s.gather (walk stack)).map fun found => ⟨[], gathered ++ found⟩ := by
  obtain ⟨rest, hrest, hrounds⟩ := s.rounds_eq n stack gathered
  rw [List.drop_of_length_le h] at hrest
  obtain rfl := eq_nil_of_walk_eq_nil hrest
  rw [hrounds, List.take_of_length_le h]

lemma loop_eq_lower {n : Nat} {t : FilterTree} (h : t.positions.length ≤ n + 1) :
    (s.loopStart t >>= s.rounds n) = (s.lower .stack t).map (StackState.mk []) := by
  have hlength := length_walk_references t
  rw [lower_eq, lowered, ← walk_singleton, walk_cons, List.append_nil, gather, loopStart]
  cases s.fieldConditions t with
  | error err => rfl
  | ok own =>
    refine (s.rounds_of_length_le (by omega) own).trans ?_
    cases s.gather (walk t.references.reverse) <;> rfl

section Read

variable {s} {defs : List (String × EntityDef)} {entity : String} {raw : Json} {t : FilterTree}

lemma findSome?_fault?_eq_none_iff :
    (t.lowered .stack).findSome? FilterTree.fault? = none ↔ ∀ p u, At t p u → ¬ u.HasEmptyList := by
  rw [List.findSome?_eq_none_iff]
  constructor
  · intro h p u hu hlist
    obtain ⟨err, herr⟩ := exists_fault?_iff.mpr hlist
    cases (h u (mem_lowered_stack.mpr ⟨p, hu⟩)).symm.trans herr
  · intro h u hu
    obtain ⟨p, hu⟩ := mem_lowered_stack.mp hu
    by_contra hfault
    exact h p u hu (exists_fault?_iff.mp (Option.ne_none_iff_exists'.mp hfault))

lemma lower_stack_eq_valueUnless (hbuild : build defs = .ok s) (ht : s.readFilter entity raw = .ok t) :
    s.lower .stack t = valueUnless (t.walkedTests.findSome? Test.fault?)
      (t.positions.flatMap fun v => s.ownConditions v.2) := by
  have hlower : s.lower .stack t = _ := lower_eq_valueUnless hbuild ht
  have hown : (t.positions.flatMap fun v => s.ownConditions v.2) =
      (t.lowered .stack).flatMap s.ownConditions := by
    rw [lowered, List.flatMap_map]
  rw [hlower, hown, findSome?_fault?_positions]

/-- The stack takes every nested tree once, and is empty after as many rounds. What comes out is the conditions of
all trees in the order of the walk, or the fault of the first test of the walk whose list is empty. -/
theorem compile_stack_walk (hbuild : build defs = .ok s) (hraw : raw.DistinctKeys)
    (ht : s.readFilter entity raw = .ok t) :
    (t.positions.map Prod.fst).Nodup ∧ (∀ p u, (p, u) ∈ t.positions ↔ At t p u) ∧
    (∀ n, t.positions.length ≤ n + 1 →
      (s.loopStart t >>= s.rounds n) = (s.compile .stack entity raw).map (StackState.mk [])) ∧
    (∀ conditions, s.compile .stack entity raw = .ok conditions ↔
      (∀ p u, At t p u → ¬ u.HasEmptyList) ∧ conditions = t.positions.flatMap fun v => s.ownConditions v.2) ∧
    ∀ err, s.compile .stack entity raw = .error err ↔
      ∃ before test after, t.walkedTests = before ++ test :: after ∧ (∀ x ∈ before, x.operand ≠ .list []) ∧
        test.operand = .list [] ∧ err = .missingValue test.operator.comparison := by
  have hlower := lower_stack_eq_valueUnless hbuild ht
  rw [s.compile_eq_lower ht]
  refine ⟨(distinct_of_readFilter ht hraw).nodup_positions, fun p u => mem_positions,
    fun n hn => s.loop_eq_lower hn, fun conditions => ?_, fun err => ?_⟩
  · rw [hlower, Outcome.valueUnless_eq_ok_iff, ← findSome?_fault?_positions, findSome?_fault?_eq_none_iff,
      eq_comm (a := conditions)]
  · rw [hlower, Outcome.valueUnless_eq_error_iff, List.findSome?_eq_some_iff]
    have hnone : ∀ x : Test, x.fault? = none ↔ x.operand ≠ .list [] := by
      intro x
      rw [Test.fault?]
      split <;> simp_all
    simp only [Test.fault?_eq_some_iff, hnone]
    constructor
    · rintro ⟨before, test, after, hwalk, ⟨hlist, herr⟩, hbefore⟩
      exact ⟨before, test, after, hwalk, hbefore, hlist, herr⟩
    · rintro ⟨before, test, after, hwalk, hbefore, hlist, herr⟩
      exact ⟨before, test, after, hwalk, ⟨hlist, herr⟩, hbefore⟩

end Read

def statusesAndEmails (statuses emails : List Json) : Json :=
  .object [("job", .object [("application", .object [("status", .object [("in", .array statuses)])])]),
    ("user", .object [("email", .object [("notIn", .array emails)])])]

def statusesAndEmailsTree (statuses emails : List Datum) : FilterTree :=
  .node "application" [
    .reference (.node "job" [.reference (.node "application"
      [.field ⟨"status", "status", .string, [⟨.isIn, .list statuses⟩]⟩])]),
    .reference (.node "user" [.field ⟨"email", "email", .string, [⟨.notIn, .list emails⟩]⟩])]

theorem last_reference_decides :
    hiring.compile .stack "application" (statusesAndEmails [] []) = .error (.missingValue .notIn) ∧
    hiring.compile .stack "application" (statusesAndEmails [.string "open"] [.string "a@b.c"]) = .ok
      [⟨"users", "email", .notIn, some (.list [.text "a@b.c"])⟩,
        ⟨"application", "status", .isIn, some (.list [.text "open"])⟩] ∧
    (hiring.loopStart (statusesAndEmailsTree [] []) >>= hiring.rounds 3) = .error (.missingValue .notIn) := by
  have hdistinct : ∀ statuses emails : List Json, (∀ v ∈ statuses ++ emails, v.DistinctKeys) →
      (statusesAndEmails statuses emails).DistinctKeys := by
    intro statuses emails h
    obtain ⟨hstatuses, hemails⟩ := List.forall_mem_append.mp h
    simp [statusesAndEmails, Json.distinctKeys_object_iff, Json.DistinctKeys.array hstatuses,
      Json.DistinctKeys.array hemails]
  have hempty : hiring.readFilter "application" (statusesAndEmails [] []) =
      .ok (statusesAndEmailsTree [] []) := rfl
  have hfull : hiring.readFilter "application" (statusesAndEmails [.string "open"] [.string "a@b.c"]) =
      .ok (statusesAndEmailsTree [.text "open"] [.text "a@b.c"]) := rfl
  obtain ⟨-, -, hloop, -, herror⟩ := compile_stack_walk build_hiring (hdistinct [] [] (by simp)) hempty
  obtain ⟨-, -, -, hok, -⟩ := compile_stack_walk build_hiring
    (hdistinct [.string "open"] [.string "a@b.c"] (by simp [Json.DistinctKeys.string])) hfull
  have hmissing := (herror (.missingValue .notIn)).mpr
    ⟨[], ⟨.notIn, .list []⟩, [⟨.isIn, .list []⟩], rfl, by simp, rfl, rfl⟩
  refine ⟨hmissing, (hok _).mpr ⟨findSome?_fault?_eq_none_iff.mp rfl, rfl⟩, ?_⟩
  rw [hloop 3 (by decide), hmissing]
  rfl

end Schema

end EntityQuery
