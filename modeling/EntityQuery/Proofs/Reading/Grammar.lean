import EntityQuery.Proofs.Pairing
import EntityQuery.Proofs.Reading.Accepted
import EntityQuery.Proofs.Reading.Tests
import EntityQuery.Proofs.Schema.Registered

/-! The grammar of raw filters. Reading accepts the filters of the grammar and no others, and gives a tree that
mirrors the filter: an entry for each key, in the order of the keys, at every level. -/

namespace EntityQuery

namespace FieldKind

def IsScalar : FieldKind → Json → Prop
  | .string, raw => ∃ s, raw = .string s
  | .number, raw => (∃ n, raw = .integer n) ∨ ∃ x, raw = .float x
  | .boolean, raw => ∃ b, raw = .bool b
  | .date, raw => ∃ s t, raw = .string s ∧ Instant.ofText? s = some t

def IsOperand (kind : FieldKind) (op : FilterOperator) (raw : Json) : Prop :=
  match op with
  | .isNull | .isNotNull => ∃ b, raw = .bool b
  | .isIn | .notIn => ∃ elements, raw = .array elements ∧ ∀ v ∈ elements, kind.IsScalar v
  | _ => kind.IsScalar raw

def IsTest (kind : FieldKind) (m : String × Json) : Prop :=
  ∃ op : FilterOperator, m.1 = op.name ∧ kind.allows op = true ∧ kind.IsOperand op m.2

variable {kind : FieldKind}

lemma isScalar_iff {raw : Json} : kind.IsScalar raw ↔ ∃ d, kind.Denotes raw d := by
  constructor
  · intro h
    cases kind with
    | string =>
      obtain ⟨s, rfl⟩ := h
      exact ⟨_, .text s⟩
    | number =>
      rcases h with ⟨n, rfl⟩ | ⟨x, rfl⟩
      · exact ⟨_, .integer n⟩
      · exact ⟨_, .float x⟩
    | boolean =>
      obtain ⟨b, rfl⟩ := h
      exact ⟨_, .boolean b⟩
    | date =>
      obtain ⟨s, t, rfl, hdate⟩ := h
      exact ⟨_, .date hdate⟩
  · rintro ⟨d, h⟩
    cases h with
    | text s => exact ⟨s, rfl⟩
    | integer n => exact Or.inl ⟨n, rfl⟩
    | float x => exact Or.inr ⟨x, rfl⟩
    | boolean b => exact ⟨b, rfl⟩
    | date hdate => exact ⟨_, _, rfl, hdate⟩

lemma isOperand_iff {op : FilterOperator} {raw : Json} : kind.IsOperand op raw ↔ ∃ o, kind.Holds op raw o := by
  constructor
  · intro h
    cases op with
    | isNull | isNotNull =>
      obtain ⟨b, rfl⟩ := h
      exact ⟨_, .flag rfl b⟩
    | isIn | notIn =>
      obtain ⟨elements, rfl, h⟩ := h
      obtain ⟨ds, hds⟩ := exists_forall₂_iff.mpr fun v hv => isScalar_iff.mp (h v hv)
      exact ⟨_, .list rfl hds⟩
    | _ =>
      obtain ⟨d, hd⟩ := isScalar_iff.mp h
      exact ⟨_, .value rfl rfl hd⟩
  · rintro ⟨o, h⟩
    cases h with
    | flag hop b =>
      cases op with
      | isNull | isNotNull => exact ⟨b, rfl⟩
      | _ => cases hop
    | list hop hds =>
      have hall := fun v hv => isScalar_iff.mpr (exists_forall₂_iff.mp ⟨_, hds⟩ v hv)
      cases op with
      | isIn | notIn => exact ⟨_, rfl, hall⟩
      | _ => cases hop
    | value hnull hlist hd =>
      cases op with
      | isNull | isNotNull => cases hnull
      | isIn | notIn => cases hlist
      | _ => exact isScalar_iff.mpr ⟨_, hd⟩

lemma isTest_iff {m : String × Json} : kind.IsTest m ↔ ∃ t, Test.Mirrors kind m t := by
  constructor
  · rintro ⟨op, hname, hallows, hop⟩
    obtain ⟨o, ho⟩ := isOperand_iff.mp hop
    exact ⟨⟨op, o⟩, hname, hallows, ho⟩
  · rintro ⟨t, hname, hallows, ho⟩
    exact ⟨t.operator, hname, hallows, isOperand_iff.mpr ⟨_, ho⟩⟩

end FieldKind

namespace Entity

def IsFieldFilter (e : Entity) (key : String) (raw : Json) : Prop :=
  ∃ f operators, e.field? key = some f ∧ f.isHidden = false ∧ raw = .object operators ∧ operators ≠ [] ∧
    ∀ m ∈ operators, f.kind.IsTest m

lemma isFieldFilter_iff {e : Entity} {key : String} {raw : Json} :
    e.IsFieldFilter key raw ↔ ∃ f : FieldTests, f.Mirrors e key raw := by
  constructor
  · rintro ⟨⟨kind, column⟩, operators, hfield, hcolumn, rfl, hne, htests⟩
    obtain ⟨column, rfl⟩ : ∃ c, column = some c := by simpa [Field.isHidden, Option.isNone_eq_false_iff,
      Option.isSome_iff_exists] using hcolumn
    obtain ⟨tests, htests⟩ := exists_forall₂_iff.mpr fun m hm => FieldKind.isTest_iff.mp (htests m hm)
    exact ⟨⟨key, column, kind, tests⟩, rfl, by rw [hfield]; rfl, by rw [column?, hfield]; rfl, operators, rfl,
      hne, htests⟩
  · rintro ⟨f, rfl, hkind, hcolumn, operators, rfl, hne, htests⟩
    obtain ⟨field, hfield, hkind⟩ := Option.map_eq_some_iff.mp hkind
    rw [column?, hfield] at hcolumn
    have hvisible : field.isHidden = false := by
      rw [Field.isHidden, show field.column = some f.column from hcolumn]
      rfl
    refine ⟨field, operators, hfield, hvisible, rfl, hne, fun m hm => ?_⟩
    rw [hkind]
    exact FieldKind.isTest_iff.mpr (exists_forall₂_iff.mp ⟨_, htests⟩ m hm)

end Entity

mutual

inductive FilterTree.Mirrors (s : Schema) : Json → FilterTree → Prop
  | null (entity : String) : FilterTree.Mirrors s .null (.empty entity)
  | object {entity : String} {e : Entity} {members : List (String × Json)} {entries : List FilterEntry}
      (he : s.entity entity = .ok e) (hlen : members.length = entries.length)
      (h : ∀ m entry, (m, entry) ∈ members.zip entries → FilterEntry.Mirrors s e m entry) :
      FilterTree.Mirrors s (.object members) (.node entity entries)

inductive FilterEntry.Mirrors (s : Schema) : Entity → String × Json → FilterEntry → Prop
  | reference {e : Entity} {key : String} {raw : Json} {t : FilterTree} (href : e.refersTo key = true)
      (hkey : t.entity = key) (h : FilterTree.Mirrors s raw t) :
      FilterEntry.Mirrors s e (key, raw) (.reference t)
  | field {e : Entity} {key : String} {raw : Json} {f : FieldTests} (h : f.Mirrors e key raw) :
      FilterEntry.Mirrors s e (key, raw) (.field f)

end

def Datum.kind : Datum → FieldKind
  | text _ => .string
  | integer _ | float _ => .number
  | boolean _ => .boolean
  | date _ => .date

def TestOperand.Fits (kind : FieldKind) (op : FilterOperator) : TestOperand → Prop
  | flag _ => op.comparison.isNullCheck = true
  | list ds => op.comparison.takesList = true ∧ ∀ d ∈ ds, d.kind = kind
  | value d => op.comparison.isNullCheck = false ∧ op.comparison.takesList = false ∧ d.kind = kind

lemma FieldKind.Denotes.kind_eq {kind : FieldKind} {raw : Json} {d : Datum} (h : kind.Denotes raw d) :
    d.kind = kind := by
  cases h <;> rfl

lemma FieldKind.Holds.fits {kind : FieldKind} {op : FilterOperator} {raw : Json} {o : TestOperand}
    (h : kind.Holds op raw o) : o.Fits kind op := by
  cases h with
  | flag hop b => exact hop
  | list hop hds =>
    refine ⟨hop, fun d hd => ?_⟩
    obtain ⟨raw, -, hraw⟩ := exists_left_of_forall₂ hds hd
    exact hraw.kind_eq
  | value hnull hlist hd => exact ⟨hnull, hlist, hd.kind_eq⟩

namespace FilterTree

def FieldsFit (t : FilterTree) : Prop :=
  ∀ f ∈ t.fields, ∀ test ∈ f.tests, test.operand.Fits f.kind test.operator

def WellTyped (t : FilterTree) : Prop :=
  ∀ p u, At t p u → u.FieldsFit

variable {s : Schema} {t u : FilterTree} {p : List String} {raw : Json}

lemma Mirrors.exists_member {entry : FilterEntry} (h : t.Mirrors s raw) (hentry : entry ∈ t.entries) :
    ∃ e members m, s.entity t.entity = .ok e ∧ raw = .object members ∧ m ∈ members ∧ entry.Mirrors s e m := by
  cases h with
  | null => cases hentry
  | @object entity e members entries he hlen h =>
    have hall := List.forall₂_iff_zip.mpr ⟨hlen, fun hm => h _ _ hm⟩
    obtain ⟨m, hm, hmirrors⟩ := exists_left_of_forall₂ hall hentry
    exact ⟨e, members, m, he, rfl, hm, hmirrors⟩

lemma Mirrors.exists_of_at (h : t.Mirrors s raw) (hu : At t p u) : ∃ raw', u.Mirrors s raw' := by
  induction hu generalizing raw with
  | root => exact ⟨raw, h⟩
  | nested hr _ ih =>
    obtain ⟨e, members, m, -, -, -, hm⟩ := h.exists_member (mem_references.mp hr)
    cases hm with
    | reference _ _ hr => exact ih hr

lemma Mirrors.wellTyped (h : t.Mirrors s raw) : t.WellTyped := by
  intro p u hu f hf test htest
  obtain ⟨raw', hraw'⟩ := h.exists_of_at hu
  obtain ⟨e, members, m, -, -, -, hm⟩ := hraw'.exists_member (mem_fields.mp hf)
  cases hm with
  | field hm =>
    obtain ⟨operators, -, -, htests⟩ := hm.tests
    obtain ⟨o, -, ho⟩ := exists_left_of_forall₂ htests htest
    exact ho.operand.fits

end FilterTree

namespace Schema

mutual

inductive IsFilter (s : Schema) : String → Json → Prop
  | object {entity : String} {e : Entity} {members : List (String × Json)} (he : s.entity entity = .ok e)
      (h : ∀ m ∈ members, IsMember s e m.1 m.2) : IsFilter s entity (.object members)

inductive IsMember (s : Schema) : Entity → String → Json → Prop
  | null {e : Entity} {key : String} (href : e.refersTo key = true) : IsMember s e key .null
  | reference {e : Entity} {key : String} {raw : Json} (href : e.refersTo key = true)
      (h : IsFilter s key raw) : IsMember s e key raw
  | field {e : Entity} {key : String} {raw : Json} (h : e.IsFieldFilter key raw) : IsMember s e key raw

end

variable {s : Schema} {e : Entity} {ms : List (String × Json)} {entries : List FilterEntry}

lemma Reads.mirrors (h : Reads s e ms entries) : List.Forall₂ (FilterEntry.Mirrors s e) ms entries := by
  induction h with
  | nil => exact .nil
  | null href _ ih => exact .cons (.reference href rfl (.null _)) ih
  | reference href hnested _ _ ihinner ih =>
    obtain ⟨hlen, hinner⟩ := List.forall₂_iff_zip.mp ihinner
    exact .cons (.reference href rfl (.object hnested hlen fun _ _ hm => hinner hm)) ih
  | field _ hfield _ ih => exact .cons (.field (Entity.readField_eq_ok_iff.mp hfield)) ih

lemma Reads.isMember (h : Reads s e ms entries) : ∀ m ∈ ms, s.IsMember e m.1 m.2 := by
  induction h with
  | nil => simp
  | null href _ ih => exact List.forall_mem_cons.mpr ⟨.null href, ih⟩
  | reference href hnested _ _ ihinner ih =>
    exact List.forall_mem_cons.mpr ⟨.reference href (.object hnested ihinner), ih⟩
  | field _ hfield _ ih =>
    have hfield := Entity.isFieldFilter_iff.mpr ⟨_, Entity.readField_eq_ok_iff.mp hfield⟩
    exact List.forall_mem_cons.mpr ⟨.field hfield, ih⟩

lemma exists_reads_of_forall {e : Entity} {ms : List (String × Json)}
    (h : ∀ m ∈ ms, ∃ entry, ∀ rest entries, Reads s e rest entries → Reads s e (m :: rest) (entry :: entries)) :
    ∃ entries, Reads s e ms entries := by
  induction ms with
  | nil => exact ⟨[], .nil e⟩
  | cons m rest ih =>
    obtain ⟨⟨entry, hentry⟩, hrest⟩ := List.forall_mem_cons.mp h
    obtain ⟨entries, hentries⟩ := ih hrest
    exact ⟨entry :: entries, hentry rest entries hentries⟩

mutual

lemma IsFilter.exists_reads {defs : List (String × EntityDef)} {s : Schema} (hbuild : build defs = .ok s)
    {entity : String} {raw : Json} (h : s.IsFilter entity raw) :
    ∃ e ms entries, s.entity entity = .ok e ∧ raw = .object ms ∧ Reads s e ms entries := by
  match h with
  | .object he h =>
    obtain ⟨entries, hentries⟩ := exists_reads_of_forall fun m hm =>
      IsMember.exists_entry hbuild he (h m hm)
    exact ⟨_, _, entries, he, rfl, hentries⟩

lemma IsMember.exists_entry {defs : List (String × EntityDef)} {s : Schema} (hbuild : build defs = .ok s)
    {name : String} {e : Entity} (he : s.entity name = .ok e) {key : String} {raw : Json}
    (h : s.IsMember e key raw) : ∃ entry, ∀ rest entries, Reads s e rest entries →
      Reads s e ((key, raw) :: rest) (entry :: entries) := by
  match h with
  | .null href => exact ⟨_, fun _ _ hrest => .null href hrest⟩
  | .reference href h =>
    obtain ⟨nested, ms, inner, hnested, rfl, hinner⟩ := IsFilter.exists_reads hbuild h
    exact ⟨_, fun _ _ hrest => .reference href hnested hinner hrest⟩
  | .field h =>
    obtain ⟨f, hf⟩ := Entity.isFieldFilter_iff.mp h
    have hkey : e.refersTo key = false := by
      by_contra href
      obtain ⟨-, -, hnone⟩ := checked_of_refersTo hbuild he (by simpa using href)
      have hkind := hf.kind
      rw [hnone] at hkind
      cases hkind
    exact ⟨_, fun _ _ hrest => .field hkey (Entity.readField_eq_ok_iff.mpr hf) hrest⟩

end

lemma mirrors_of_readFilter {entity : String} {raw : Json} {t : FilterTree} (h : s.readFilter entity raw = .ok t) :
    t.Mirrors s raw := by
  obtain ⟨e, members, entries, he, rfl, hreads, rfl⟩ := readFilter_eq_ok_iff.mp h
  obtain ⟨hlen, h⟩ := List.forall₂_iff_zip.mp hreads.mirrors
  exact .object he hlen fun _ _ hm => h hm

/-- Reading accepts the filters of the grammar and no others. The tree mirrors the filter at every level,
and its operands have the form that their operators take and the kind of their fields. -/
theorem readFilter_accepts_grammar {defs : List (String × EntityDef)} (hbuild : build defs = .ok s)
    (entity : String) (raw : Json) :
    ((∃ t, s.readFilter entity raw = .ok t) ↔ s.IsFilter entity raw) ∧
    ∀ t, s.readFilter entity raw = .ok t → t.entity = entity ∧ t.Mirrors s raw ∧ t.WellTyped := by
  refine ⟨⟨?_, fun h => ?_⟩, fun t ht => ?_⟩
  · rintro ⟨t, ht⟩
    obtain ⟨e, members, entries, he, rfl, hreads, -⟩ := readFilter_eq_ok_iff.mp ht
    exact .object he hreads.isMember
  · obtain ⟨e, members, entries, he, rfl, hreads⟩ := h.exists_reads hbuild
    exact ⟨_, readFilter_eq_ok_iff.mpr ⟨e, members, entries, he, rfl, hreads, rfl⟩⟩
  · have hmirrors := mirrors_of_readFilter ht
    obtain ⟨e, members, entries, -, -, -, rfl⟩ := readFilter_eq_ok_iff.mp ht
    exact ⟨rfl, hmirrors, hmirrors.wellTyped⟩

def applicationsOfJob (tests : List (String × Json)) : Json :=
  .object [("status", .object [("in", .array []), ("isNull", .bool true)]), ("user", .null),
    ("job", .object [("pay", .object tests)])]

theorem pay_below_accepted_like_refused :
    hiring.IsFilter "application" (applicationsOfJob [("lessThan", .integer 9)]) ∧
    ¬ hiring.IsFilter "application" (applicationsOfJob [("like", .string "9")]) ∧
    ∃ t, hiring.readFilter "application" (applicationsOfJob [("lessThan", .integer 9)]) = .ok t ∧
      t.Mirrors hiring (applicationsOfJob [("lessThan", .integer 9)]) ∧ t.WellTyped := by
  have hbelow : hiring.readFilter "application" (applicationsOfJob [("lessThan", .integer 9)]) =
      .ok (.node "application" [
        .field ⟨"status", "status", .string, [⟨.isIn, .list []⟩, ⟨.isNull, .flag true⟩]⟩,
        .reference (.empty "user"),
        .reference (.node "job" [.field ⟨"pay", "pay", .number, [⟨.lessThan, .value (.integer 9)⟩]⟩])]) := rfl
  have hlike : hiring.readFilter "application" (applicationsOfJob [("like", .string "9")]) =
      .error (.invalidShape "job" (some "pay.like") (.operatorNotAllowed .number)) := rfl
  obtain ⟨hiff, htree⟩ := readFilter_accepts_grammar build_hiring "application"
    (applicationsOfJob [("lessThan", .integer 9)])
  refine ⟨hiff.mp ⟨_, hbelow⟩, fun h => ?_, _, hbelow, (htree _ hbelow).2⟩
  obtain ⟨t, ht⟩ := (readFilter_accepts_grammar build_hiring "application"
    (applicationsOfJob [("like", .string "9")])).1.mpr h
  cases hlike.symm.trans ht

end Schema

end EntityQuery
