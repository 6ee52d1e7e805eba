import EntityQuery.Proofs.Lowering.Failure

/-! Empty lists in a raw filter. Off the stack every one of them is met, so that compiling fails. Along the chains
it fails exactly if one is in a filter whose references, from the root down, are all edges of the
reference graph: what the graph leaves out is not compiled and its lists are not looked at. -/

namespace EntityQuery

inductive Json.EmptyListAt : List String → Json → Prop
  | here {members operators : List (String × Json)} {key name : String}
      (hkey : (key, .object operators) ∈ members) (hname : (name, .array []) ∈ operators)
      (hop : name = "in" ∨ name = "notIn") : EmptyListAt [] (.object members)
  | nested {members : List (String × Json)} {key : String} {raw : Json} {path : List String}
      (hkey : (key, raw) ∈ members) (h : EmptyListAt path raw) : EmptyListAt (key :: path) (.object members)

section Fields

variable {kind : FieldKind} {op : FilterOperator} {o : TestOperand} {raw : Json}

lemma FieldKind.not_holds_object {members : List (String × Json)} : ¬ kind.Holds op (.object members) o := by
  rintro (_ | _ | ⟨-, -, ⟨⟩⟩)

lemma FieldKind.Holds.eq_nil_iff (h : kind.Holds op raw o) : o = .list [] ↔ raw = .array [] := by
  cases h with
  | flag => simp
  | list hop hds => cases hds <;> simp
  | value hnull hlist hd =>
    constructor
    · rintro ⟨⟩
    · rintro rfl
      cases hd

lemma FieldKind.Holds.name_of_nil (h : kind.Holds op raw (.list [])) : op.name = "in" ∨ op.name = "notIn" := by
  cases h with
  | list hop _ =>
    rcases FilterOperator.eq_of_takesList hop with rfl | rfl
    · exact Or.inl rfl
    · exact Or.inr rfl

lemma FieldTests.Mirrors.not_emptyListAt {e : Entity} {key : String} {f : FieldTests} (h : f.Mirrors e key raw)
    (path : List String) : ¬ raw.EmptyListAt path := by
  obtain ⟨operators, rfl, -, htests⟩ := h.tests
  have hobject : ∀ name members, (name, Json.object members) ∉ operators := by
    intro name members hm
    obtain ⟨test, -, htest⟩ := exists_right_of_forall₂ htests hm
    exact FieldKind.not_holds_object htest.operand
  rintro (⟨hkey, -, -⟩ | ⟨hkey, ⟨⟩⟩)
  · exact hobject _ _ hkey
  · exact hobject _ _ hkey
  · exact hobject _ _ hkey

end Fields

namespace FilterTree

open ReferenceGraph

variable {s : Schema} {t u : FilterTree} {raw : Json} {p path : List String}

lemma Mirrors.exists_entry {members : List (String × Json)} {m : String × Json}
    (h : t.Mirrors s (.object members)) (hm : m ∈ members) : ∃ e, ∃ entry ∈ t.entries, entry.Mirrors s e m := by
  cases h with
  | @object entity e _ entries he hlen h =>
    have hall := List.forall₂_iff_zip.mpr ⟨hlen, fun hm => h _ _ hm⟩
    obtain ⟨entry, hentry, hmirrors⟩ := exists_right_of_forall₂ hall hm
    exact ⟨e, entry, hentry, hmirrors⟩

lemma exists_at_of_emptyListAt (h : raw.EmptyListAt path) (ht : t.Mirrors s raw) :
    ∃ u, At t (t.entity :: path) u ∧ u.HasEmptyList := by
  induction h generalizing t with
  | here hkey hname _ =>
    obtain ⟨e, entry, hentry, hm⟩ := ht.exists_entry hkey
    cases hm with
    | reference _ _ hr =>
      -- in a nested filter no key stands before an array
      obtain ⟨e, entry, -, hm⟩ := hr.exists_entry hname
      cases hm with
      | reference _ _ hr => cases hr
      | field hf =>
        obtain ⟨_, harray, -⟩ := hf.tests
        cases harray
    | field hf =>
      obtain ⟨_, hobject, -, htests⟩ := hf.tests
      obtain rfl := Json.object.inj hobject
      obtain ⟨test, htest, hm⟩ := exists_right_of_forall₂ htests hname
      exact ⟨t, .root t, _, mem_fields.mpr hentry, test, htest, hm.operand.eq_nil_iff.mpr rfl⟩
  | nested hkey h ih =>
    obtain ⟨e, entry, hentry, hm⟩ := ht.exists_entry hkey
    cases hm with
    | reference _ hname hr =>
      obtain ⟨u, hu, hlist⟩ := ih hr
      exact ⟨u, .nested (mem_references.mpr hentry) (hname ▸ hu), hlist⟩
    | field hf => exact absurd h (hf.not_emptyListAt _)

lemma emptyListAt_of_at (hu : At t p u) (ht : t.Mirrors s raw) (h : u.HasEmptyList) : raw.EmptyListAt p.tail := by
  induction hu generalizing raw with
  | root t =>
    obtain ⟨f, hf, test, htest, hlist⟩ := h
    obtain ⟨e, members, m, -, rfl, hm, hentry⟩ := ht.exists_member (mem_fields.mp hf)
    cases hentry with
    | field hf =>
      obtain ⟨operators, rfl, -, htests⟩ := hf.tests
      obtain ⟨⟨name, elements⟩, hname, hmirrors⟩ := exists_left_of_forall₂ htests htest
      obtain ⟨rfl, -, hoperand⟩ := hmirrors
      obtain rfl := hoperand.eq_nil_iff.mp hlist
      exact .here hm hname (hlist ▸ hoperand).name_of_nil
  | @nested t r u p hr hu ih =>
    obtain ⟨e, members, m, -, rfl, hm, hentry⟩ := ht.exists_member (mem_references.mp hr)
    obtain ⟨path, rfl⟩ := List.head?_eq_some_iff.mp hu.head
    cases hentry with
    | reference _ hname hraw =>
      obtain rfl := hname
      exact .nested hm (ih hraw h)

lemma emptyListAt_iff (ht : t.Mirrors s raw) :
    raw.EmptyListAt path ↔ ∃ u, At t (t.entity :: path) u ∧ u.HasEmptyList :=
  ⟨fun h => exists_at_of_emptyListAt h ht, fun ⟨_, hu, hlist⟩ => emptyListAt_of_at hu ht hlist⟩

lemma mem_lowered_stack : u ∈ t.lowered .stack ↔ ∃ p, At t p u := by
  refine ⟨at_of_mem_lowered, fun ⟨p, hu⟩ => ?_⟩
  exact List.mem_map.mpr ⟨(p, u), mem_positions.mpr hu, rfl⟩

lemma mem_lowered_graph (h : t.Distinct) : u ∈ t.lowered .graph ↔ ∃ p, At t p u ∧ (ofTree t).IsPath p := by
  constructor
  · intro hu
    rcases List.mem_cons.mp hu with rfl | hu
    · exact ⟨_, .root _, List.isChain_singleton _⟩
    · obtain ⟨⟨p, u⟩, hv, rfl⟩ := List.mem_map.mp hu
      obtain ⟨hat, -, hpath⟩ := (mem_visits_iff h).mp hv
      exact ⟨p, hat, hpath⟩
  · rintro ⟨p, hu, hpath⟩
    by_cases hp : 2 ≤ p.length
    · have hv := (mem_visits_iff h).mpr ⟨hu, hp, hpath⟩
      exact List.mem_cons_of_mem _ (List.mem_map.mpr ⟨_, hv, rfl⟩)
    · obtain rfl := hu.eq_root (by omega)
      exact List.mem_cons_self

end FilterTree

namespace Schema

open FilterTree ReferenceGraph

variable {s : Schema} {defs : List (String × EntityDef)} {entity : String} {raw : Json} {t : FilterTree}

lemma exists_compile_eq_missing_iff (hbuild : build defs = .ok s) (ht : s.readFilter entity raw = .ok t)
    (strategy : Strategy) : (∃ c, s.compile strategy entity raw = .error (.missingValue c)) ↔
      ∃ u ∈ t.lowered strategy, u.HasEmptyList := by
  rw [s.compile_eq_lower ht]
  constructor
  · rintro ⟨c, hc⟩
    rw [lower_eq_valueUnless hbuild ht, Outcome.valueUnless_eq_error_iff] at hc
    obtain ⟨u, hu, hfault⟩ := List.exists_of_findSome?_eq_some hc
    exact ⟨u, hu, exists_fault?_iff.mp ⟨_, hfault⟩⟩
  · rintro ⟨u, hu, hlist⟩
    obtain ⟨err, herr⟩ := exists_fault?_iff.mpr hlist
    have hsome : ((t.lowered strategy).findSome? FilterTree.fault?).isSome :=
      List.findSome?_isSome_iff.mpr ⟨u, hu, by rw [herr]; rfl⟩
    obtain ⟨err, herr⟩ := Option.isSome_iff_exists.mp hsome
    have hlower : s.lower strategy t = .error err := by
      rw [lower_eq_valueUnless hbuild ht, Outcome.valueUnless_eq_error_iff, herr]
    rcases lower_failsWith hbuild ht err hlower with rfl | rfl
    · exact ⟨_, hlower⟩
    · exact ⟨_, hlower⟩

/-- Off the stack a filter with an empty list is never compiled. Along the chains it is not compiled either, if one
of its empty lists stands at the end of a path of the reference graph. -/
theorem compile_missing_iff_emptyListAt (hbuild : build defs = .ok s) (hraw : raw.DistinctKeys)
    (ht : s.readFilter entity raw = .ok t) :
    ((∃ c, s.compile .stack entity raw = .error (.missingValue c)) ↔ ∃ path, raw.EmptyListAt path) ∧
    ((∃ c, s.compile .graph entity raw = .error (.missingValue c)) ↔
      ∃ path, raw.EmptyListAt path ∧ (ofTree t).IsPath (entity :: path)) := by
  have hmirrors := mirrors_of_readFilter ht
  have hentity : t.entity = entity := by
    obtain ⟨e, members, entries, -, -, -, rfl⟩ := readFilter_eq_ok_iff.mp ht
    rfl
  have hroot : ∀ {p u}, At t p u → p = entity :: p.tail := by
    intro p u hu
    obtain ⟨path, rfl⟩ := List.head?_eq_some_iff.mp hu.head
    rw [hentity, List.tail_cons]
  simp only [exists_compile_eq_missing_iff hbuild ht, emptyListAt_iff hmirrors, hentity, mem_lowered_stack,
    mem_lowered_graph (distinct_of_readFilter ht hraw)]
  constructor
  · constructor
    · rintro ⟨u, ⟨p, hu⟩, hlist⟩
      exact ⟨p.tail, u, hroot hu ▸ hu, hlist⟩
    · rintro ⟨path, u, hu, hlist⟩
      exact ⟨u, ⟨_, hu⟩, hlist⟩
  · constructor
    · rintro ⟨u, ⟨p, hu, hpath⟩, hlist⟩
      exact ⟨p.tail, ⟨u, hroot hu ▸ hu, hlist⟩, hroot hu ▸ hpath⟩
    · rintro ⟨path, ⟨u, hu, hlist⟩, hpath⟩
      exact ⟨u, ⟨_, hu, hpath⟩, hlist⟩

theorem conversation_missing_statuses :
    (∃ c, hiring.compile .graph "conversation" (withStatuses []) = .error (.missingValue c)) ∧
    ∃ c, hiring.compile .stack "conversation" (withStatuses []) = .error (.missingValue c) := by
  have hraw : (withStatuses []).DistinctKeys := by
    simp [withStatuses, Json.distinctKeys_object_iff, Json.DistinctKeys.array]
  have ht : hiring.readFilter "conversation" (withStatuses []) = .ok (.node "conversation"
      [.reference (.node "application" [.field ⟨"status", "status", .string, [⟨.notIn, .list []⟩]⟩])]) := rfl
  have hempty : (withStatuses []).EmptyListAt ["application"] :=
    .nested List.mem_cons_self (.here List.mem_cons_self List.mem_cons_self (Or.inr rfl))
  obtain ⟨hstack, hgraph⟩ := compile_missing_iff_emptyListAt build_hiring hraw ht
  exact ⟨hgraph.mpr ⟨_, hempty, by decide +kernel⟩, hstack.mpr ⟨_, hempty⟩⟩

def statusesOffChains : Json :=
  .object [("job", .object [("application", .object [("status", .object [("in", .array [])])])])]

/-- The reference back to the application is no edge, and its empty list is passed over. -/
theorem empty_list_off_chains : build hiringDefs = .ok hiring ∧
    (∃ t, hiring.readFilter "application" statusesOffChains = .ok t) ∧
    statusesOffChains.EmptyListAt ["job", "application"] ∧
    hiring.compile .graph "application" statusesOffChains = .ok [] ∧
    hiring.compile .stack "application" statusesOffChains = .error (.missingValue .isIn) :=
  ⟨build_hiring, ⟨_, rfl⟩,
    .nested List.mem_cons_self (.nested List.mem_cons_self
      (.here List.mem_cons_self List.mem_cons_self (Or.inl rfl))),
    by decide +kernel, by decide +kernel⟩

end Schema

end EntityQuery
