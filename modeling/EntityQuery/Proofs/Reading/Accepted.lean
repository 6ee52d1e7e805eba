import EntityQuery.Filter.Reading
import EntityQuery.Proofs.Json.DistinctKeys
import EntityQuery.Proofs.Outcome
import EntityQuery.Proofs.Tree.Position

/-! Which filters reading accepts, as a relation between the members of an object and the entries of the
tree, and that distinct keys give a tree whose references are distinct. -/

namespace EntityQuery

namespace Schema

inductive Reads (s : Schema) : Entity → List (String × Json) → List FilterEntry → Prop
  | nil (e : Entity) : Reads s e [] []
  | null {e : Entity} {key : String} {rest : List (String × Json)} {entries : List FilterEntry}
      (href : e.refersTo key = true) (hrest : Reads s e rest entries) :
      Reads s e ((key, .null) :: rest) (.reference (.empty key) :: entries)
  | reference {e nested : Entity} {key : String} {members rest : List (String × Json)}
      {inner entries : List FilterEntry} (href : e.refersTo key = true)
      (hnested : s.entity key = .ok nested) (hinner : Reads s nested members inner)
      (hrest : Reads s e rest entries) :
      Reads s e ((key, .object members) :: rest) (.reference (.node key inner) :: entries)
  | field {e : Entity} {key : String} {raw : Json} {f : FieldTests} {rest : List (String × Json)}
      {entries : List FilterEntry} (href : e.refersTo key = false) (hfield : e.readField key raw = .ok f)
      (hrest : Reads s e rest entries) : Reads s e ((key, raw) :: rest) (.field f :: entries)

lemma readEntries_cons_eq_ok_iff {s : Schema} {e : Entity} {key : String} {raw : Json}
    {rest : List (String × Json)} {entries : List FilterEntry} :
    s.readEntries e ((key, raw) :: rest) = .ok entries ↔
      ∃ first others, s.readEntry e key raw = .ok first ∧ s.readEntries e rest = .ok others ∧
        entries = first :: others := by
  rw [readEntries]
  cases s.readEntry e key raw with
  | error err => simp
  | ok first =>
    rw [Outcome.map_eq_ok_iff]
    constructor
    · rintro ⟨others, hothers, rfl⟩
      exact ⟨first, others, rfl, hothers, rfl⟩
    · rintro ⟨first', others, hfirst, hothers, rfl⟩
      exact ⟨others, hothers, by rw [Except.ok.inj hfirst]⟩

section Reads

variable {s : Schema}

lemma Reads.of_readEntries {e : Entity} {ms : List (String × Json)} {entries : List FilterEntry}
    (h : s.readEntries e ms = .ok entries) : Reads s e ms entries := by
  induction e, ms using readEntries.induct s (motive_2 := fun e key raw => ∀ first,
      s.readEntry e key raw = .ok first → ∀ rest entries, Reads s e rest entries →
        Reads s e ((key, raw) :: rest) (first :: entries)) generalizing entries with
  | case1 e key href first h rest entries hrest =>
    simp only [readEntry, href, if_true, Except.ok.injEq] at h
    exact h ▸ .null href hrest
  | case2 e key href members err herr first h =>
    simp [readEntry, href, herr] at h
  | case3 e key href members nested hnested ih first h rest entries hrest =>
    rw [readEntry, if_pos href, hnested] at h
    dsimp only at h
    obtain ⟨inner, hinner, rfl⟩ := Outcome.map_eq_ok_iff.mp h
    exact .reference href hnested (ih hinner) hrest
  | case4 raw e key href hnull hobj first h =>
    rw [readEntry.eq_def, if_pos href] at h
    split at h
    · exact absurd rfl hnull
    · exact absurd rfl (hobj _)
    · cases h
  | case5 raw e key href first h rest entries hrest =>
    rw [readEntry.eq_def, if_neg href] at h
    obtain ⟨f, hf, rfl⟩ := Outcome.map_eq_ok_iff.mp h
    exact .field (by simpa using href) hf hrest
  | case6 e =>
    cases h
    exact .nil e
  | case7 e key raw rest err herr ih =>
    obtain ⟨first, others, hfirst, -, -⟩ := readEntries_cons_eq_ok_iff.mp h
    cases herr.symm.trans hfirst
  | case8 e key raw rest first hfirst ih ihrest =>
    obtain ⟨first', others, hfirst', hothers, rfl⟩ := readEntries_cons_eq_ok_iff.mp h
    exact ih first' hfirst' rest others (ihrest hothers)

lemma Reads.readEntries {e : Entity} {ms : List (String × Json)} {entries : List FilterEntry}
    (h : Reads s e ms entries) : s.readEntries e ms = .ok entries := by
  induction h with
  | nil e => rw [Schema.readEntries]
  | null href _ ih =>
    exact readEntries_cons_eq_ok_iff.mpr ⟨_, _, by rw [readEntry, if_pos href], ih, rfl⟩
  | reference href hnested _ _ ihinner ihrest =>
    refine readEntries_cons_eq_ok_iff.mpr ⟨_, _, ?_, ihrest, rfl⟩
    rw [readEntry, if_pos href, hnested]
    simp only [ihinner, Except.map]
  | field href hfield _ ih =>
    refine readEntries_cons_eq_ok_iff.mpr ⟨_, _, ?_, ih, rfl⟩
    rw [readEntry.eq_def, if_neg (by simp [href]), hfield, Except.map]

lemma readEntries_eq_ok_iff {e : Entity} {ms : List (String × Json)} {entries : List FilterEntry} :
    s.readEntries e ms = .ok entries ↔ Reads s e ms entries :=
  ⟨Reads.of_readEntries, Reads.readEntries⟩

lemma readFilter_eq_ok_iff {entity : String} {raw : Json} {t : FilterTree} :
    s.readFilter entity raw = .ok t ↔ ∃ e members entries, s.entity entity = .ok e ∧
      raw = .object members ∧ Reads s e members entries ∧ t = .node entity entries := by
  rw [readFilter, Outcome.bind_eq_ok_iff]
  apply exists_congr
  intro e
  cases raw with
  | object members =>
    simp only [Outcome.map_eq_ok_iff, readEntries_eq_ok_iff, Json.object.injEq, exists_and_left]
    constructor
    · rintro ⟨he, entries, hreads, rfl⟩
      exact ⟨he, members, rfl, entries, hreads, rfl⟩
    · rintro ⟨he, members', rfl, entries, hreads, rfl⟩
      exact ⟨he, entries, hreads, rfl⟩
  | _ => simp

end Reads

section Distinct

variable {s : Schema} {e : Entity} {ms : List (String × Json)} {entries : List FilterEntry}

lemma Reads.references_sublist (h : Reads s e ms entries) (name : String) :
    ((FilterTree.node name entries).references.map FilterTree.entity).Sublist (ms.map Prod.fst) := by
  induction h with
  | nil => exact .slnil
  | null _ _ ih => exact ih.cons_cons _
  | reference _ _ _ _ _ ih => exact ih.cons_cons _
  | field _ _ _ ih => exact ih.cons _

lemma distinct_empty (name : String) : (FilterTree.empty name).Distinct :=
  FilterTree.distinct_iff.mpr ⟨List.nodup_nil, by simp [FilterTree.empty]⟩

lemma Reads.distinct (h : Reads s e ms entries) (hms : Json.DistinctKeys (.object ms)) (name : String) :
    (FilterTree.node name entries).Distinct := by
  obtain ⟨hkeys, hvalues⟩ := Json.distinctKeys_object_iff.mp hms
  refine FilterTree.distinct_iff.mpr ⟨hkeys.sublist (h.references_sublist name), ?_⟩
  clear hms hkeys
  induction h with
  | nil => simp
  | null _ _ ih =>
    obtain ⟨-, hrest⟩ := List.forall_mem_cons.mp hvalues
    exact List.forall_mem_cons.mpr ⟨distinct_empty _, ih hrest⟩
  | @reference e nested key members rest inner entries href hnested hinner hrest ihinner ihrest =>
    obtain ⟨hobject, hrest⟩ := List.forall_mem_cons.mp hvalues
    obtain ⟨hkeys, hmembers⟩ := Json.distinctKeys_object_iff.mp hobject
    have hin : (FilterTree.node key inner).Distinct := FilterTree.distinct_iff.mpr
      ⟨hkeys.sublist (hinner.references_sublist key), ihinner hmembers⟩
    exact List.forall_mem_cons.mpr ⟨hin, ihrest hrest⟩
  | field _ _ _ ih =>
    obtain ⟨-, hrest⟩ := List.forall_mem_cons.mp hvalues
    exact ih hrest

lemma distinct_of_readFilter {entity : String} {raw : Json} {t : FilterTree}
    (h : s.readFilter entity raw = .ok t) (hraw : raw.DistinctKeys) : t.Distinct := by
  obtain ⟨e, members, entries, -, rfl, hreads, rfl⟩ := readFilter_eq_ok_iff.mp h
  exact hreads.distinct hraw entity

end Distinct

end Schema

end EntityQuery
