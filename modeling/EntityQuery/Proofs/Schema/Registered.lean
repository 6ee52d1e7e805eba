import EntityQuery.Proofs.Outcome
import EntityQuery.Schema.Build
import Mathlib.Data.List.Forall2

/-! Schemas that were built. Each entity comes from a definition that passed the checks, so what it refers
to is an entity too. -/

namespace EntityQuery.Schema

lemma checkReferences_eq_ok_iff {entity : String} {names keys refs : List String} :
    checkReferences entity names keys refs = .ok () ↔
      ∀ r ∈ refs, r ≠ entity ∧ r ∈ names ∧ r ∉ keys := by
  induction refs with
  | nil => simp [checkReferences]
  | cons r rest ih =>
    rw [checkReferences, List.forall_mem_cons]
    by_cases hself : r = entity
    · simp [hself]
    · by_cases hname : r ∈ names
      · by_cases hkey : r ∈ keys
        · simp [hself, hname, hkey]
        · simp [hself, hname, hkey, ih]
      · simp [hself, hname]

lemma resolveEntity_eq_ok_iff {names : List String} {name : String} {d : EntityDef} {e : Entity} :
    resolveEntity names name d = .ok e ↔ checkFields name [] d.fields = .ok () ∧
      checkReferences name names (d.fields.map Prod.fst) d.references = .ok () ∧
      e = ⟨name, d.table, sortFields (d.fields.map fun f => (f.1, f.2.resolve f.1)), d.references⟩ := by
  rw [resolveEntity, Outcome.bind_eq_ok_iff]
  constructor
  · rintro ⟨⟨⟩, hfields, h⟩
    obtain ⟨⟨⟩, hrefs, h⟩ := Outcome.bind_eq_ok_iff.mp h
    exact ⟨hfields, hrefs, (Except.ok.inj h).symm⟩
  · rintro ⟨hfields, hrefs, rfl⟩
    exact ⟨(), hfields, Outcome.bind_eq_ok_iff.mpr ⟨(), hrefs, rfl⟩⟩

lemma forall₂_of_resolveEntities {names seen : List String} {defs : List (String × EntityDef)}
    {es : List Entity} (h : resolveEntities names seen defs = .ok es) :
    List.Forall₂ (fun d e => resolveEntity names d.1 d.2 = .ok e) defs es := by
  induction defs generalizing seen es with
  | nil =>
    cases h
    exact .nil
  | cons d rest ih =>
    rw [resolveEntities] at h
    by_cases hseen : d.1 ∈ seen
    · rw [if_pos hseen] at h
      cases h
    · rw [if_neg hseen] at h
      obtain ⟨first, hfirst, h⟩ := Outcome.bind_eq_ok_iff.mp h
      obtain ⟨others, hothers, h⟩ := Outcome.bind_eq_ok_iff.mp h
      obtain rfl := Except.ok.inj h
      exact .cons hfirst (ih hothers)

section

variable {defs : List (String × EntityDef)} {s : Schema}

lemma entities_of_build (h : build defs = .ok s) :
    ∃ es, List.Forall₂ (fun d e => resolveEntity (defs.map Prod.fst) d.1 d.2 = .ok e) defs es ∧
      s.entities.Perm es := by
  obtain ⟨es, hes, h⟩ := Outcome.bind_eq_ok_iff.mp h
  obtain rfl := Except.ok.inj h
  exact ⟨es, forall₂_of_resolveEntities hes, List.mergeSort_perm es _⟩

lemma exists_def_of_mem_entities (h : build defs = .ok s) {e : Entity} (he : e ∈ s.entities) :
    ∃ d ∈ defs, resolveEntity (defs.map Prod.fst) d.1 d.2 = .ok e := by
  obtain ⟨es, hes, hperm⟩ := entities_of_build h
  obtain ⟨i, hi, rfl⟩ := List.getElem_of_mem (hperm.mem_iff.mp he)
  have hlen := hes.length_eq
  exact ⟨defs[i], List.getElem_mem _, (List.forall₂_iff_get.mp hes).2 i (by omega) hi⟩

lemma exists_mem_entities_of_def (h : build defs = .ok s) {d : String × EntityDef} (hd : d ∈ defs) :
    ∃ e ∈ s.entities, resolveEntity (defs.map Prod.fst) d.1 d.2 = .ok e := by
  obtain ⟨es, hes, hperm⟩ := entities_of_build h
  obtain ⟨i, hi, rfl⟩ := List.getElem_of_mem hd
  have hlen := hes.length_eq
  exact ⟨es[i], hperm.mem_iff.mpr (List.getElem_mem _), (List.forall₂_iff_get.mp hes).2 i hi (by omega)⟩

lemma exists_entity_iff {name : String} :
    (∃ e, s.entity name = .ok e) ↔ ∃ e ∈ s.entities, e.name = name := by
  rw [entity, entity?]
  cases hfind : s.entities.find? (·.name == name) with
  | none => simpa using hfind
  | some e =>
    have hname : e.name = name := by simpa using List.find?_some hfind
    simp only [Except.ok.injEq, exists_eq', true_iff]
    exact ⟨e, List.mem_of_find?_eq_some hfind, hname⟩

lemma mem_entities_of_entity {name : String} {e : Entity} (h : s.entity name = .ok e) :
    e ∈ s.entities := by
  rw [entity, entity?] at h
  split at h
  · rename_i e' hfind
    obtain rfl := Except.ok.inj h
    exact List.mem_of_find?_eq_some hfind
  · cases h

lemma name_of_entity {name : String} {e : Entity} (h : s.entity name = .ok e) : e.name = name := by
  rw [entity, entity?] at h
  split at h
  · next hfind =>
    obtain rfl := Except.ok.inj h
    simpa using List.find?_some hfind
  · cases h

lemma field?_eq_none_of_notMem {e : Entity} {key : String} (h : key ∉ e.fields.map Prod.fst) :
    e.field? key = none := by
  rw [Entity.field?, List.lookup_eq_none_iff]
  intro f hf
  have hne : key ≠ f.1 := fun he => h (he ▸ List.mem_map_of_mem hf)
  simpa using hne

lemma checked_of_refersTo (h : build defs = .ok s) {name key : String} {e : Entity}
    (he : s.entity name = .ok e) (href : e.refersTo key = true) :
    key ≠ name ∧ key ∈ defs.map Prod.fst ∧ e.field? key = none := by
  obtain ⟨d, -, hd⟩ := exists_def_of_mem_entities h (mem_entities_of_entity he)
  have hname := name_of_entity he
  obtain ⟨-, hrefs, rfl⟩ := resolveEntity_eq_ok_iff.mp hd
  have hmem : key ∈ d.2.references := by simpa [Entity.refersTo] using href
  obtain ⟨hne, hkey, hfield⟩ := checkReferences_eq_ok_iff.mp hrefs key hmem
  refine ⟨hname ▸ hne, hkey, field?_eq_none_of_notMem ?_⟩
  have hkeys := ((List.mergeSort_perm (d.2.fields.map fun f => (f.1, f.2.resolve f.1))
    fun a b => a.1 ≤ b.1).map Prod.fst).mem_iff (a := key)
  rw [sortFields, hkeys, List.map_map]
  exact hfield

lemma exists_entity_of_refersTo (h : build defs = .ok s) {name key : String} {e : Entity}
    (he : s.entity name = .ok e) (href : e.refersTo key = true) : ∃ nested, s.entity key = .ok nested := by
  obtain ⟨d, hd, hkey⟩ := List.mem_map.mp (checked_of_refersTo h he href).2.1
  obtain ⟨e', he', hresolve⟩ := exists_mem_entities_of_def h hd
  obtain ⟨-, -, rfl⟩ := resolveEntity_eq_ok_iff.mp hresolve
  exact exists_entity_iff.mpr ⟨_, he', hkey⟩

end

lemma sortEntities_of_pairwise {es : List Entity} (h : es.Pairwise fun a b => a.name ≤ b.name) :
    sortEntities es = es :=
  List.mergeSort_of_pairwise (by simpa using h)

def hiringDefs : List (String × EntityDef) := [
  ("address", { table := "address", fields := [("city", .kind .string)] }),
  ("application",
    { table := "application", fields := [("status", .kind .string)], references := ["user", "job"] }),
  ("conversation",
    { table := "conversation", fields := [("isActive", .kind .boolean)], references := ["application"] }),
  ("job",
    { table := "job", fields := [("pay", .kind .number)], references := ["address", "application"] }),
  ("user", { table := "users", fields := [("email", .kind .string)], references := ["address"] })]

def hiring : Schema := ⟨[
  ⟨"address", "address", [("city", ⟨.string, some "city"⟩)], []⟩,
  ⟨"application", "application", [("status", ⟨.string, some "status"⟩)], ["user", "job"]⟩,
  ⟨"conversation", "conversation", [("isActive", ⟨.boolean, some "is_active"⟩)], ["application"]⟩,
  ⟨"job", "job", [("pay", ⟨.number, some "pay"⟩)], ["address", "application"]⟩,
  ⟨"user", "users", [("email", ⟨.string, some "email"⟩)], ["address"]⟩]⟩

lemma build_hiring : build hiringDefs = .ok hiring := by
  have hentities : resolveEntities (hiringDefs.map Prod.fst) [] hiringDefs = .ok hiring.entities := by
    simp only [hiringDefs, resolveEntities, resolveEntity, sortFields, List.map_cons, List.map_nil,
      List.mergeSort_singleton]
    rfl
  rw [build, hentities]
  exact congrArg (fun es => Except.ok (Schema.mk es)) (sortEntities_of_pairwise (by decide))

end EntityQuery.Schema
