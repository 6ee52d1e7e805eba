import EntityQuery.Proofs.Schema.WellFormed
import EntityQuery.Schema.File
import Mathlib

/-! The order of the definitions. Neither the order of the entities nor that of the fields of an entity decides
whether a schema is built or which one it is, so what a file writes in any order can be built in any other. -/

namespace EntityQuery

namespace SchemaFile

open Toml (Value Table)

section Members

variable {α : Type} {read : Value → Option α} {missing a : α} {ms : Table} {key : String} {v : Value}
  {items : List (String × α)}

lemma eq_or_exists_of_optional? (h : Table.optional? read missing ms key = some a) :
    a = missing ∨ ∃ v, read v = some a := by
  rw [Table.optional?] at h
  split at h
  · exact Or.inl (Option.some.inj h).symm
  · exact Or.inr ⟨_, h⟩

def readMember (read : Value → Option α) (m : String × Value) : Option (String × α) :=
  (read m.2).map fun a => (m.1, a)

lemma members?_eq_some_iff : members? read (.table ms) = some items ↔
    ∃ unsorted, ms.mapM (readMember read) = some unsorted ∧ unsorted.mergeSort (fun a b => a.1 ≤ b.1) = items :=
  Option.map_eq_some_iff

lemma members?_of_pairwise (hitems : items.Pairwise fun a b => a.1 ≤ b.1)
    (h : ms.mapM (readMember read) = some items) : members? read (.table ms) = some items :=
  members?_eq_some_iff.mpr ⟨items, h, List.mergeSort_of_pairwise (by simpa using hitems)⟩

lemma exists_read_of_mapM (h : ms.mapM (readMember read) = some items) :
    ∀ item ∈ items, ∃ v, read v = some item.2 := by
  induction ms generalizing items with
  | nil =>
    obtain rfl := Option.some.inj h
    simp
  | cons m rest ih =>
    rw [List.mapM_cons, Option.bind_eq_bind, Option.bind_eq_some_iff] at h
    obtain ⟨first, hfirst, h⟩ := h
    obtain ⟨others, hothers, h⟩ := Option.bind_eq_some_iff.mp h
    obtain ⟨a, ha, rfl⟩ := Option.map_eq_some_iff.mp hfirst
    obtain rfl := Option.some.inj h
    exact List.forall_mem_cons.mpr ⟨⟨m.2, ha⟩, ih hothers⟩

lemma pairwise_and_exists_of_members? (h : members? read v = some items) :
    (items.Pairwise fun a b => a.1 ≤ b.1) ∧ ∀ item ∈ items, ∃ v, read v = some item.2 := by
  cases v with
  | table ms =>
    obtain ⟨unsorted, hread, rfl⟩ := members?_eq_some_iff.mp h
    refine ⟨Schema.pairwise_le_mergeSort Prod.fst unsorted, fun item hitem => ?_⟩
    exact exists_read_of_mapM hread item ((List.mergeSort_perm _ _).mem_iff.mp hitem)
  | _ => cases h

end Members

lemma pairwise_fields_of_entity? {v : Value} {d : EntityDef} (h : entity? v = some d) :
    d.fields.Pairwise fun a b => a.1 ≤ b.1 := by
  obtain ⟨ms, -, h⟩ := Option.bind_eq_some_iff.mp h
  split at h
  · obtain ⟨table, -, h⟩ := Option.bind_eq_some_iff.mp h
    obtain ⟨references, -, h⟩ := Option.bind_eq_some_iff.mp h
    obtain ⟨fields, hfields, h⟩ := Option.bind_eq_some_iff.mp h
    obtain rfl := Option.some.inj h
    rcases eq_or_exists_of_optional? hfields with rfl | ⟨v, hv⟩
    · exact .nil
    · exact (pairwise_and_exists_of_members? hv).1
  · cases h

lemma pairwise_of_definitions? {document : Table} {defs : List (String × EntityDef)}
    (h : definitions? document = some defs) :
    (defs.Pairwise fun a b => a.1 ≤ b.1) ∧ ∀ d ∈ defs, d.2.fields.Pairwise fun a b => a.1 ≤ b.1 := by
  rcases eq_or_exists_of_optional? h with rfl | ⟨v, hv⟩
  · simp
  · obtain ⟨hsorted, hread⟩ := pairwise_and_exists_of_members? hv
    refine ⟨hsorted, fun d hd => ?_⟩
    obtain ⟨v, hv⟩ := hread d hd
    exact pairwise_fields_of_entity? hv

end SchemaFile

namespace Schema

structure ReordersFields (d d' : String × EntityDef) : Prop where
  name : d'.1 = d.1
  table : d'.2.table = d.2.table
  fields : d.2.fields.Perm d'.2.fields
  references : d'.2.references = d.2.references

lemma ReordersFields.symm {d d' : String × EntityDef} (h : ReordersFields d d') : ReordersFields d' d :=
  ⟨h.name.symm, h.table.symm, h.fields.symm, h.references.symm⟩

def Rearranged (defs defs' : List (String × EntityDef)) : Prop :=
  ∃ inner, List.Forall₂ ReordersFields defs inner ∧ inner.Perm defs'

section Rearranged

variable {defs defs' : List (String × EntityDef)}

lemma Rearranged.symm (h : Rearranged defs defs') : Rearranged defs' defs := by
  obtain ⟨inner, hfields, hperm⟩ := h
  exact List.perm_comp_forall₂ hperm.symm (hfields.flip.imp fun _ _ => ReordersFields.symm)

lemma Rearranged.names_perm (h : Rearranged defs defs') : (defs.map Prod.fst).Perm (defs'.map Prod.fst) := by
  obtain ⟨inner, hfields, hperm⟩ := h
  rw [map_eq_map_of_forall₂ hfields fun d _ d' hd => hd.name.symm]
  exact hperm.map Prod.fst

lemma Rearranged.exists_of_mem (h : Rearranged defs defs') {d' : String × EntityDef} (hd' : d' ∈ defs') :
    ∃ d ∈ defs, ReordersFields d d' := by
  obtain ⟨inner, hfields, hperm⟩ := h
  exact exists_left_of_forall₂ hfields (hperm.mem_iff.mpr hd')

lemma SoundDef.of_reordersFields {names names' : List String} {d d' : String × EntityDef} (h : SoundDef names d)
    (hd : ReordersFields d d') (hnames : names.Perm names') : SoundDef names' d' := by
  have hkeys := hd.fields.map Prod.fst
  refine ⟨hkeys.nodup_iff.mp h.fields, fun r hr => ?_⟩
  have href := h.references r (hd.references ▸ hr)
  exact ⟨hd.name ▸ href.ne, hnames.mem_iff.mp href.defined, fun hkey => href.notField (hkeys.mem_iff.mpr hkey)⟩

lemma WellFormed.of_rearranged (h : WellFormed defs) (hr : Rearranged defs defs') : WellFormed defs' := by
  refine ⟨hr.names_perm.nodup_iff.mp h.names, fun d' hd' => ?_⟩
  obtain ⟨d, hd, hfields⟩ := hr.exists_of_mem hd'
  exact (h.sound d hd).of_reordersFields hfields hr.names_perm

end Rearranged

section Stored

variable {defs defs' : List (String × EntityDef)} {s : Schema}

def stored (d : String × EntityDef) : Entity where
  name := d.1
  table := d.2.table
  fields := sortFields (d.2.fields.map fun f => (f.1, f.2.resolve f.1))
  references := d.2.references

lemma eq_of_build (h : build defs = .ok s) : s = ⟨sortEntities (defs.map stored)⟩ := by
  obtain ⟨es, hes, h⟩ := Outcome.bind_eq_ok_iff.mp h
  have hmap : defs.map stored = es.map id := map_eq_map_of_forall₂ (forall₂_of_resolveEntities hes)
    fun d _ e he => (resolveEntity_eq_ok_iff.mp he).2.2.symm
  rw [hmap, List.map_id]
  exact (Except.ok.inj h).symm

lemma build_eq_ok_iff : build defs = .ok s ↔ WellFormed defs ∧ s = ⟨sortEntities (defs.map stored)⟩ := by
  constructor
  · intro h
    exact ⟨exists_build_iff.mp ⟨s, h⟩, eq_of_build h⟩
  · rintro ⟨hwell, rfl⟩
    obtain ⟨s, hs⟩ := exists_build_iff.mpr hwell
    rw [hs, eq_of_build hs]

lemma mergeSort_eq_of_perm {α : Type} {key : α → String} {xs ys : List α} (h : xs.Perm ys)
    (hnodup : (xs.map key).Nodup) :
    (xs.mergeSort fun a b => key a ≤ key b) = ys.mergeSort fun a b => key a ≤ key b := by
  have hxs := pairwise_lt_mergeSort hnodup
  have hys := pairwise_lt_mergeSort ((h.map key).nodup_iff.mp hnodup)
  -- keys that are distinct leave only one order to sort them in
  refine List.Perm.eq_of_pairwise (fun a b _ _ hab hba => ?_) hxs hys ?_
  · exact absurd hba (String.lt_asymm hab)
  · exact (List.mergeSort_perm _ _).trans (h.trans (List.mergeSort_perm _ _).symm)

lemma stored_of_reordersFields {d d' : String × EntityDef} (h : ReordersFields d d')
    (hnodup : (d.2.fields.map Prod.fst).Nodup) : stored d = stored d' := by
  have hfields : sortFields (d.2.fields.map fun f => (f.1, f.2.resolve f.1)) =
      sortFields (d'.2.fields.map fun f => (f.1, f.2.resolve f.1)) :=
    mergeSort_eq_of_perm (h.fields.map _) (by rwa [List.map_map])
  rw [stored, stored, h.name, h.table, h.references, hfields]

lemma sortEntities_of_rearranged (h : Rearranged defs defs') (hwell : WellFormed defs) :
    sortEntities (defs.map stored) = sortEntities (defs'.map stored) := by
  obtain ⟨inner, hfields, hperm⟩ := h
  have hstored : defs.map stored = inner.map stored := map_eq_map_of_forall₂ hfields
    fun d hd d' h => stored_of_reordersFields h (hwell.sound d hd).fields
  have hnames : ((defs.map stored).map Entity.name).Nodup := by
    rw [List.map_map]
    exact hwell.names
  rw [hstored] at hnames ⊢
  exact mergeSort_eq_of_perm (hperm.map stored) hnames

lemma build_eq_ok_of_rearranged (h : Rearranged defs defs') (hs : build defs = .ok s) : build defs' = .ok s := by
  obtain ⟨hwell, rfl⟩ := build_eq_ok_iff.mp hs
  exact build_eq_ok_iff.mpr ⟨hwell.of_rearranged h, by rw [sortEntities_of_rearranged h hwell]⟩

lemma build_eq_ok_iff_of_rearranged (h : Rearranged defs defs') :
    build defs = .ok s ↔ build defs' = .ok s :=
  ⟨build_eq_ok_of_rearranged h, build_eq_ok_of_rearranged h.symm⟩

/-- Rearranged definitions make the same schema, or none where the others make none. A file, whose definitions
arrive in the order of their names, makes the schema of the same definitions in any order. -/
theorem build_of_rearranged (h : Rearranged defs defs') :
    (∀ s, build defs = .ok s ↔ build defs' = .ok s) ∧
    ∀ text, (Toml.parse text).bind SchemaFile.definitions? = some defs →
      (defs.Pairwise fun a b => a.1 ≤ b.1) ∧ (∀ d ∈ defs, d.2.fields.Pairwise fun a b => a.1 ≤ b.1) ∧
      ∀ s, ofToml text = .ok s ↔ build defs' = .ok s := by
  refine ⟨fun s => build_eq_ok_iff_of_rearranged h, fun text htext => ?_⟩
  obtain ⟨document, -, hdocument⟩ := Option.bind_eq_some_iff.mp htext
  obtain ⟨hentities, hfields⟩ := SchemaFile.pairwise_of_definitions? hdocument
  refine ⟨hentities, hfields, fun s => ?_⟩
  have hread : ofToml text = build defs := by
    simp only [ofToml, ofTomlBy, Toml.reader, htext]
  rw [hread]
  exact build_eq_ok_iff_of_rearranged h

def memberDef (fields : List (String × FieldDef)) : String × EntityDef :=
  ("member", { table := "members", fields, references := ["team"] })

def teamDef : String × EntityDef :=
  ("team", { table := "teams" })

def members : Schema := ⟨[
  ⟨"member", "members", [("age", ⟨.number, some "age"⟩), ("name", ⟨.string, some "name"⟩)], ["team"]⟩,
  ⟨"team", "teams", [], []⟩]⟩

lemma build_members :
    build [memberDef [("age", .kind .number), ("name", .kind .string)], teamDef] = .ok members := by
  have hfields : sortFields ([("age", .kind .number), ("name", .kind .string)].map fun (f : String × FieldDef) =>
      (f.1, f.2.resolve f.1)) = [("age", ⟨.number, some "age"⟩), ("name", ⟨.string, some "name"⟩)] :=
    List.mergeSort_of_pairwise (by decide)
  have hnil : sortFields ([].map fun (f : String × FieldDef) => (f.1, f.2.resolve f.1)) = [] := List.mergeSort_nil
  refine build_eq_ok_iff.mpr ⟨⟨by decide, List.forall_mem_cons.mpr ⟨⟨by decide, fun r hr => ?_⟩, ?_⟩⟩, ?_⟩
  · obtain rfl := List.mem_singleton.mp hr
    exact ⟨by decide, by decide, by decide⟩
  · rw [List.forall_mem_singleton]
    exact ⟨List.nodup_nil, fun r hr => absurd hr List.not_mem_nil⟩
  · rw [List.map_cons, List.map_cons, List.map_nil, stored, stored, memberDef, teamDef, hfields, hnil,
      sortEntities_of_pairwise (by decide)]
    rfl

def membersText : String :=
  "[entities.member]\ntable = \"members\"\nreferences = [\"team\"]\n" ++
  "fields = \x7b age = \"number\", name = \"string\" \x7d\n[entities.team]\ntable = \"teams\"\n"

def memberTable : Toml.Value :=
  .table [("table", .string "members"), ("references", .array [.string "team"]),
    ("fields", .table [("age", .string "number"), ("name", .string "string")])]

set_option maxRecDepth 20000 in
lemma parse_membersText : Toml.parse membersText = some [("entities",
    .table [("member", memberTable), ("team", .table [("table", .string "teams")])])] := by
  cbv

lemma entity?_memberTable : SchemaFile.entity? memberTable =
    some (memberDef [("age", .kind .number), ("name", .kind .string)]).2 := by
  have hfields : SchemaFile.members? SchemaFile.field?
      (.table [("age", .string "number"), ("name", .string "string")]) =
        some [("age", .kind .number), ("name", .kind .string)] :=
    SchemaFile.members?_of_pairwise (by decide) rfl
  simp only [SchemaFile.entity?, Option.bind_eq_bind, Option.bind_eq_some_iff]
  refine ⟨_, rfl, ?_⟩
  rw [if_pos (by decide), Option.bind_eq_some_iff]
  exact ⟨"members", rfl, Option.bind_eq_some_iff.mpr ⟨["team"], rfl, Option.bind_eq_some_iff.mpr ⟨_, hfields, rfl⟩⟩⟩

theorem members_in_any_order :
    (Toml.parse membersText).bind SchemaFile.definitions? =
      some [memberDef [("age", .kind .number), ("name", .kind .string)], teamDef] ∧
    ofToml membersText = .ok members ∧
    build [teamDef, memberDef [("name", .kind .string), ("age", .kind .number)]] = .ok members := by
  have htext : (Toml.parse membersText).bind SchemaFile.definitions? =
      some [memberDef [("age", .kind .number), ("name", .kind .string)], teamDef] := by
    have hentities : SchemaFile.members? SchemaFile.entity?
        (.table [("member", memberTable), ("team", .table [("table", .string "teams")])]) =
          some [memberDef [("age", .kind .number), ("name", .kind .string)], teamDef] := by
      apply SchemaFile.members?_of_pairwise (by decide)
      rw [List.mapM_cons, SchemaFile.readMember, entity?_memberTable]
      rfl
    rw [parse_membersText]
    exact hentities
  have h : Rearranged [memberDef [("age", .kind .number), ("name", .kind .string)], teamDef]
      [teamDef, memberDef [("name", .kind .string), ("age", .kind .number)]] :=
    ⟨[memberDef [("name", .kind .string), ("age", .kind .number)], teamDef],
      .cons ⟨rfl, rfl, .swap _ _ _, rfl⟩ (.cons ⟨rfl, rfl, .refl _, rfl⟩ .nil), .swap _ _ _⟩
  obtain ⟨hbuild, hfile⟩ := build_of_rearranged h
  have hany := (hbuild members).mp build_members
  exact ⟨htext, ((hfile _ htext).2.2 members).mpr hany, hany⟩

end Stored

end Schema

end EntityQuery
