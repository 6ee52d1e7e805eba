import EntityQuery.Proofs.Pairing
import EntityQuery.Proofs.Schema.Registered
import Mathlib.Data.List.Nodup

/-! Which definitions make a schema. Building succeeds exactly if every name is defined once and every definition
is sound by itself, given the names; it stores each definition once, sorted. Otherwise it reports what is
wrong first, in the order in which the definitions are written. -/

namespace EntityQuery.Schema

structure SoundReference (names : List String) (d : String × EntityDef) (r : String) : Prop where
  ne : r ≠ d.1
  defined : r ∈ names
  notField : r ∉ d.2.fields.map Prod.fst

structure SoundDef (names : List String) (d : String × EntityDef) : Prop where
  fields : (d.2.fields.map Prod.fst).Nodup
  references : ∀ r ∈ d.2.references, SoundReference names d r

structure WellFormed (defs : List (String × EntityDef)) : Prop where
  names : (defs.map Prod.fst).Nodup
  sound : ∀ d ∈ defs, SoundDef (defs.map Prod.fst) d

inductive ReferenceFault (names : List String) (d : String × EntityDef) : String → SchemaError → Prop
  | itself : ReferenceFault names d d.1 (.selfReference d.1)
  | unknown {r : String} (hself : r ≠ d.1) (h : r ∉ names) : ReferenceFault names d r (.unknownReference d.1 r)
  | ambiguous {r : String} (hself : r ≠ d.1) (hname : r ∈ names) (h : r ∈ d.2.fields.map Prod.fst) :
      ReferenceFault names d r (.ambiguousKey d.1 r)

inductive DefFault (names before : List String) (d : String × EntityDef) : SchemaError → Prop
  | name (h : d.1 ∈ before) : DefFault names before d (.duplicateEntity d.1)
  | field {pre post : List (String × FieldDef)} {key : String} {f : FieldDef} (hname : d.1 ∉ before)
      (hfields : d.2.fields = pre ++ (key, f) :: post) (hpre : (pre.map Prod.fst).Nodup)
      (h : key ∈ pre.map Prod.fst) : DefFault names before d (.duplicateField d.1 key)
  | reference {pre post : List String} {r : String} {err : SchemaError} (hname : d.1 ∉ before)
      (hfields : (d.2.fields.map Prod.fst).Nodup) (hrefs : d.2.references = pre ++ r :: post)
      (hpre : ∀ x ∈ pre, SoundReference names d x) (h : ReferenceFault names d r err) :
      DefFault names before d err

structure Stores (d : String × EntityDef) (e : Entity) : Prop where
  name : e.name = d.1
  table : e.table = d.2.table
  fields : e.fields.Perm (d.2.fields.map fun f => (f.1, f.2.resolve f.1))
  ordered : e.fields.Pairwise fun f g => f.1 < g.1
  references : e.references = d.2.references

section Sorted

variable {α : Type} {key : α → String} {xs : List α}

lemma pairwise_le_mergeSort (key : α → String) (xs : List α) :
    (xs.mergeSort fun a b => key a ≤ key b).Pairwise fun a b => key a ≤ key b := by
  have hle := @List.pairwise_mergeSort α (fun a b => key a ≤ key b)
    (fun a b c hab hbc => by simpa using String.le_trans (by simpa using hab) (by simpa using hbc))
    (fun a b => by simpa using String.le_total (key a) (key b)) xs
  exact hle.imp fun h => by simpa using h

lemma pairwise_lt_mergeSort (h : (xs.map key).Nodup) :
    (xs.mergeSort fun a b => key a ≤ key b).Pairwise fun a b => key a < key b := by
  have hperm := List.mergeSort_perm xs fun a b => key a ≤ key b
  have hne := List.pairwise_map.mp ((hperm.map key).nodup_iff.mpr h)
  apply ((pairwise_le_mergeSort key xs).and hne).imp
  rintro a b ⟨hle, hne⟩
  by_contra hlt
  exact hne (String.le_antisymm hle (String.not_lt.mp hlt))

end Sorted

section Before

variable {α ε : Type} (key : α → String)

def withBefore : List String → List α → List (List String × α)
  | _, [] => []
  | seen, x :: rest => (seen, x) :: withBefore (key x :: seen) rest

lemma withBefore_append (seen : List String) (xs ys : List α) : withBefore key seen (xs ++ ys) =
    withBefore key seen xs ++ withBefore key ((xs.map key).reverse ++ seen) ys := by
  induction xs generalizing seen with
  | nil => rfl
  | cons x xs ih => simp [withBefore, ih]

lemma forall_mem_withBefore_iff (seen : List String) (xs : List α) (P : α → Prop) :
    (∀ v ∈ withBefore key seen xs, key v.2 ∉ v.1 ∧ P v.2) ↔
      (xs.map key).Nodup ∧ ∀ x ∈ xs, key x ∉ seen ∧ P x := by
  induction xs generalizing seen with
  | nil => simp [withBefore]
  | cons x xs ih =>
    rw [withBefore, List.forall_mem_cons, List.forall_mem_cons, ih, List.map_cons, List.nodup_cons]
    simp only [List.mem_cons, not_or, List.mem_map, not_exists, not_and]
    constructor
    · rintro ⟨hx, hnodup, h⟩
      exact ⟨⟨fun y hy => (h y hy).1.1, hnodup⟩, hx, fun y hy => ⟨(h y hy).1.2, (h y hy).2⟩⟩
    · rintro ⟨⟨hkey, hnodup⟩, hx, h⟩
      exact ⟨hx, hnodup, fun y hy => ⟨⟨hkey y hy, (h y hy).1⟩, (h y hy).2⟩⟩

lemma exists_of_withBefore_eq_append {seen : List String} {xs : List α} {before after : List (List String × α)}
    {v : List String × α} (h : withBefore key seen xs = before ++ v :: after) :
    ∃ pre x post, xs = pre ++ x :: post ∧ before = withBefore key seen pre ∧
      v = ((pre.map key).reverse ++ seen, x) := by
  induction xs generalizing seen before with
  | nil => simp [withBefore] at h
  | cons x xs ih =>
    cases before with
    | nil =>
      obtain ⟨rfl, -⟩ := List.cons.inj h
      exact ⟨[], x, xs, rfl, rfl, rfl⟩
    | cons w before =>
      obtain ⟨rfl, htail⟩ := List.cons.inj h
      obtain ⟨pre, y, post, rfl, rfl, rfl⟩ := ih htail
      exact ⟨x :: pre, y, post, rfl, rfl, by simp⟩

lemma forM_withBefore_eq_error_iff (seen : List String) (xs : List α) (f : List String × α → Except ε Unit)
    {err : ε} : forM (withBefore key seen xs) f = .error err ↔
      ∃ pre x post, xs = pre ++ x :: post ∧ forM (withBefore key seen pre) f = .ok () ∧
        f ((pre.map key).reverse ++ seen, x) = .error err := by
  rw [Outcome.forM_eq_error_iff]
  constructor
  · rintro ⟨before, v, after, hsplit, hbefore, hv⟩
    obtain ⟨pre, x, post, rfl, rfl, rfl⟩ := exists_of_withBefore_eq_append key hsplit
    exact ⟨pre, x, post, rfl, hbefore, hv⟩
  · rintro ⟨pre, x, post, rfl, hpre, hx⟩
    exact ⟨_, _, _, by rw [withBefore_append, withBefore], hpre, hx⟩

end Before

section Checks

open Outcome (verdict)

variable {names seen before : List String} {d : String × EntityDef} {err : SchemaError}

def checkField (entity : String) (v : List String × (String × FieldDef)) : Except SchemaError Unit :=
  if v.2.1 ∈ v.1 then .error (.duplicateField entity v.2.1) else .ok ()

section Field

variable {entity : String} {v : List String × (String × FieldDef)} {fields : List (String × FieldDef)}

lemma checkField_eq_ok_iff : checkField entity v = .ok () ↔ v.2.1 ∉ v.1 := by
  rw [checkField]
  split <;> simp [*]

lemma checkField_eq_error_iff :
    checkField entity v = .error err ↔ v.2.1 ∈ v.1 ∧ err = .duplicateField entity v.2.1 := by
  rw [checkField]
  split <;> simp [*, eq_comm]

lemma checkFields_eq_forM (entity : String) (seen : List String) (fields : List (String × FieldDef)) :
    checkFields entity seen fields = forM (withBefore Prod.fst seen fields) (checkField entity) := by
  induction fields generalizing seen with
  | nil => rfl
  | cons f rest ih =>
    rw [checkFields, withBefore, List.forM_cons, ih, checkField]
    split <;> rfl

lemma checkFields_eq_ok_iff : checkFields entity [] fields = .ok () ↔ (fields.map Prod.fst).Nodup := by
  have hall := forall_mem_withBefore_iff Prod.fst [] fields fun _ => True
  rw [checkFields_eq_forM, ← List.forM_eq_forM, Outcome.forM_eq_ok_iff]
  simpa [checkField_eq_ok_iff] using hall

lemma checkFields_eq_error_iff : checkFields entity [] fields = .error err ↔
    ∃ pre f post, fields = pre ++ f :: post ∧ (pre.map Prod.fst).Nodup ∧ f.1 ∈ pre.map Prod.fst ∧
      err = .duplicateField entity f.1 := by
  rw [checkFields_eq_forM, forM_withBefore_eq_error_iff]
  simp only [checkField_eq_error_iff, ← checkFields_eq_forM, checkFields_eq_ok_iff, List.append_nil,
    List.mem_reverse]

end Field

def checkReference (names : List String) (d : String × EntityDef) (r : String) : Except SchemaError Unit :=
  checkReferences d.1 names (d.2.fields.map Prod.fst) [r]

lemma checkReferences_eq_forM (names : List String) (d : String × EntityDef) (refs : List String) :
    checkReferences d.1 names (d.2.fields.map Prod.fst) refs = forM refs (checkReference names d) := by
  induction refs with
  | nil => rfl
  | cons r rest ih =>
    rw [checkReferences, List.forM_cons, ih, checkReference, checkReferences]
    split
    · rfl
    · split
      · rfl
      · split <;> rfl

lemma checkReference_eq_ok_iff {r : String} : checkReference names d r = .ok () ↔ SoundReference names d r := by
  rw [checkReference, checkReferences_eq_ok_iff, List.forall_mem_singleton]
  exact ⟨fun ⟨hne, hname, hfield⟩ => ⟨hne, hname, hfield⟩, fun ⟨hne, hname, hfield⟩ => ⟨hne, hname, hfield⟩⟩

lemma checkReference_eq_error_iff {r : String} :
    checkReference names d r = .error err ↔ ReferenceFault names d r err := by
  rw [checkReference, checkReferences]
  constructor
  · intro h
    split at h
    · next hself =>
      obtain rfl := hself
      exact Except.error.inj h ▸ .itself
    · next hself =>
      split at h
      · next hname =>
        obtain rfl := Except.error.inj h
        exact .unknown hself hname
      · next hname =>
        split at h
        · next hkey =>
          obtain rfl := Except.error.inj h
          exact .ambiguous hself (not_not.mp hname) hkey
        · cases h
  · intro h
    cases h with
    | itself => rw [if_pos rfl]
    | unknown hself h => rw [if_neg hself, if_pos h]
    | ambiguous hself hname h => rw [if_neg hself, if_neg (not_not.mpr hname), if_pos h]

lemma exists_resolveEntity_iff : (∃ e, resolveEntity names d.1 d.2 = .ok e) ↔ SoundDef names d := by
  have hrefs : checkReferences d.1 names (d.2.fields.map Prod.fst) d.2.references = .ok () ↔
      ∀ r ∈ d.2.references, SoundReference names d r := by
    rw [checkReferences_eq_forM, ← List.forM_eq_forM, Outcome.forM_eq_ok_iff]
    simp only [checkReference_eq_ok_iff]
  simp only [resolveEntity_eq_ok_iff, checkFields_eq_ok_iff, hrefs]
  constructor
  · rintro ⟨e, hfields, hrefs, -⟩
    exact ⟨hfields, hrefs⟩
  · rintro ⟨hfields, hrefs⟩
    exact ⟨_, hfields, hrefs, rfl⟩

lemma resolveEntity_eq_error_iff (hname : d.1 ∉ before) :
    resolveEntity names d.1 d.2 = .error err ↔ DefFault names before d err := by
  rw [resolveEntity, Outcome.bind_eq_error_iff, checkFields_eq_error_iff, checkReferences_eq_forM]
  constructor
  · rintro (⟨pre, f, post, hfields, hpre, hkey, rfl⟩ | ⟨⟨⟩, hfields, h⟩)
    · exact .field hname hfields hpre hkey
    · rcases Outcome.bind_eq_error_iff.mp h with h | ⟨_, -, h⟩
      · obtain ⟨pre, r, post, hrefs, hpre, hr⟩ := Outcome.forM_eq_error_iff.mp h
        rw [← List.forM_eq_forM, Outcome.forM_eq_ok_iff] at hpre
        exact .reference hname (checkFields_eq_ok_iff.mp hfields) hrefs
          (fun x hx => checkReference_eq_ok_iff.mp (hpre x hx)) (checkReference_eq_error_iff.mp hr)
      · cases h
  · intro h
    cases h with
    | name h => exact absurd h hname
    | field _ hfields hpre hkey => exact Or.inl ⟨_, _, _, hfields, hpre, hkey, rfl⟩
    | reference _ hfields hrefs hpre hr =>
      refine Or.inr ⟨(), checkFields_eq_ok_iff.mpr hfields, Outcome.bind_eq_error_iff.mpr (Or.inl ?_)⟩
      refine Outcome.forM_eq_error_iff.mpr ⟨_, _, _, hrefs, ?_, checkReference_eq_error_iff.mpr hr⟩
      rw [← List.forM_eq_forM, Outcome.forM_eq_ok_iff]
      exact fun x hx => checkReference_eq_ok_iff.mpr (hpre x hx)

def checkEntity (names : List String) (v : List String × (String × EntityDef)) : Except SchemaError Unit :=
  if v.2.1 ∈ v.1 then .error (.duplicateEntity v.2.1) else verdict (resolveEntity names v.2.1 v.2.2)

lemma checkEntity_eq_ok_iff {v : List String × (String × EntityDef)} :
    checkEntity names v = .ok () ↔ v.2.1 ∉ v.1 ∧ SoundDef names v.2 := by
  rw [checkEntity, ← exists_resolveEntity_iff, ← Outcome.verdict_eq_ok_iff]
  split <;> simp [*]

lemma checkEntity_eq_error_iff :
    checkEntity names (before.reverse, d) = .error err ↔ DefFault names before d err := by
  simp only [checkEntity, List.mem_reverse]
  split
  · next hname =>
    constructor
    · intro h
      exact Except.error.inj h ▸ .name hname
    · intro h
      cases h with
      | name => rfl
      | field hnew | reference hnew => exact absurd hname hnew
  · next hname => rw [Outcome.verdict_eq_error_iff, resolveEntity_eq_error_iff hname]

lemma verdict_resolveEntities (names seen : List String) (defs : List (String × EntityDef)) :
    verdict (resolveEntities names seen defs) = forM (withBefore Prod.fst seen defs) (checkEntity names) := by
  induction defs generalizing seen with
  | nil => rfl
  | cons d rest ih =>
    rw [resolveEntities, withBefore, List.forM_cons, ← ih, checkEntity]
    split
    · rfl
    · cases resolveEntity names d.1 d.2 with
      | error err => rfl
      | ok first => exact Outcome.verdict_bind_ok _ _

lemma verdict_build (defs : List (String × EntityDef)) :
    verdict (build defs) = forM (withBefore Prod.fst [] defs) (checkEntity (defs.map Prod.fst)) := by
  rw [build, Outcome.verdict_bind_ok, verdict_resolveEntities]

end Checks

section Build

variable {defs : List (String × EntityDef)} {s : Schema} {err : SchemaError}

lemma exists_build_iff : (∃ s, build defs = .ok s) ↔ WellFormed defs := by
  rw [← Outcome.verdict_eq_ok_iff, verdict_build, ← List.forM_eq_forM, Outcome.forM_eq_ok_iff]
  simp only [checkEntity_eq_ok_iff, forall_mem_withBefore_iff Prod.fst [] defs]
  constructor
  · rintro ⟨hnames, h⟩
    exact ⟨hnames, fun d hd => (h d hd).2⟩
  · rintro ⟨hnames, h⟩
    exact ⟨hnames, fun d hd => ⟨List.not_mem_nil, h d hd⟩⟩

lemma build_eq_error_iff : build defs = .error err ↔ ∃ pre d post, defs = pre ++ d :: post ∧
    (pre.map Prod.fst).Nodup ∧ (∀ x ∈ pre, SoundDef (defs.map Prod.fst) x) ∧
      DefFault (defs.map Prod.fst) (pre.map Prod.fst) d err := by
  rw [← Outcome.verdict_eq_error_iff, verdict_build, forM_withBefore_eq_error_iff]
  simp only [checkEntity_eq_error_iff, List.append_nil, ← List.forM_eq_forM, Outcome.forM_eq_ok_iff,
    checkEntity_eq_ok_iff, forall_mem_withBefore_iff Prod.fst, List.not_mem_nil, not_false_eq_true, true_and,
    and_assoc]

lemma stores_of_resolveEntity {names : List String} {d : String × EntityDef} {e : Entity}
    (h : resolveEntity names d.1 d.2 = .ok e) : Stores d e := by
  obtain ⟨hfields, -, rfl⟩ := resolveEntity_eq_ok_iff.mp h
  have hkeys : ((d.2.fields.map fun f => (f.1, f.2.resolve f.1)).map Prod.fst).Nodup := by
    rw [List.map_map]
    exact checkFields_eq_ok_iff.mp hfields
  exact ⟨rfl, rfl, List.mergeSort_perm _ _, pairwise_lt_mergeSort hkeys, rfl⟩

lemma map_name_of_stores {es : List Entity} (h : List.Forall₂ Stores defs es) :
    es.map Entity.name = defs.map Prod.fst :=
  (map_eq_map_of_forall₂ h fun _ _ _ hd => hd.name.symm).symm

lemma exists_stored_of_build (h : build defs = .ok s) : ∃ es, List.Forall₂ Stores defs es ∧ s.entities.Perm es := by
  obtain ⟨es, hes, hperm⟩ := entities_of_build h
  exact ⟨es, hes.imp fun d e => stores_of_resolveEntity, hperm⟩

lemma pairwise_entities_of_build (h : build defs = .ok s) :
    s.entities.Pairwise fun a b => a.name < b.name := by
  obtain ⟨hnames, -⟩ := exists_build_iff.mp ⟨s, h⟩
  obtain ⟨es, hes, h⟩ := Outcome.bind_eq_ok_iff.mp h
  have hstores : List.Forall₂ Stores defs es :=
    (forall₂_of_resolveEntities hes).imp fun d e => stores_of_resolveEntity
  obtain rfl := Except.ok.inj h
  exact pairwise_lt_mergeSort (map_name_of_stores hstores ▸ hnames)

lemma entity_name_of_mem (h : s.entities.Pairwise fun a b => a.name < b.name) {e : Entity}
    (he : e ∈ s.entities) : s.entity e.name = .ok e := by
  obtain ⟨e', he'⟩ := exists_entity_iff.mpr ⟨e, he, rfl⟩
  have hnodup : (s.entities.map Entity.name).Nodup := by
    refine List.pairwise_map.mpr (h.imp fun {a b} hlt heq => ?_)
    exact String.lt_irrefl _ (heq ▸ hlt)
  have hsame := List.inj_on_of_nodup_map hnodup (mem_entities_of_entity he') he (name_of_entity he')
  rw [he', hsame]

def visitDefs (fields : List (String × FieldDef)) : List (String × EntityDef) := [
  ("job", { table := "job", references := ["visit"] }),
  ("visit", { table := "visit", fields, references := ["job", "visit"] })]

end Build

end EntityQuery.Schema
