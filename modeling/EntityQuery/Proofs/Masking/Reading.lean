import EntityQuery.Proofs.Masking.Shape
import EntityQuery.Proofs.Schema.Registered

/-! Filters of one shape read side by side. Where both are accepted their trees agree when blank; filters
that differ in the flags of null checks only are accepted together, or refused for one reason. -/

namespace EntityQuery

namespace Entity

variable {e : Entity} {key : String} {kind : FieldKind}

lemma readTests_blank {ops ops' : List (String × Json)} {tests tests' : List Test}
    (hops : List.Forall₂ (fun o o' => o.1 = o'.1 ∧ Schema.SameLength o.1 o.2 o'.2) ops ops')
    (h : e.readTests key kind ops = .ok tests) (h' : e.readTests key kind ops' = .ok tests') :
    tests.map (Test.mapOperand TestOperand.blank) = tests'.map (Test.mapOperand TestOperand.blank) := by
  induction hops generalizing tests tests' with
  | nil =>
    cases h
    cases h'
    rfl
  | @cons o o' rest rest' ho hrest ih =>
    obtain ⟨name, raw⟩ := o
    obtain ⟨name', raw'⟩ := o'
    obtain ⟨rfl, hlen⟩ := ho
    obtain ⟨first, others, hfirst, hothers, rfl⟩ := readTests_cons_eq_ok_iff.mp h
    obtain ⟨first', others', hfirst', hothers', rfl⟩ := readTests_cons_eq_ok_iff.mp h'
    rw [List.map_cons, List.map_cons, FieldKind.readTest_blank hlen hfirst hfirst', ih hothers hothers']

lemma readField_blank {ops ops' : List (String × Json)} {f f' : FieldTests}
    (hops : List.Forall₂ (fun o o' => o.1 = o'.1 ∧ Schema.SameLength o.1 o.2 o'.2) ops ops')
    (h : e.readField key (.object ops) = .ok f) (h' : e.readField key (.object ops') = .ok f') :
    f.mapOperands TestOperand.blank = f'.mapOperands TestOperand.blank := by
  obtain ⟨kind, column, tests, hfield, -, htests, rfl⟩ := readField_object_eq_ok_iff.mp h
  obtain ⟨kind', column', tests', hfield', -, htests', rfl⟩ := readField_object_eq_ok_iff.mp h'
  obtain ⟨rfl, hcolumn⟩ := Field.mk.inj (Option.some.inj (hfield.symm.trans hfield'))
  obtain rfl := Option.some.inj hcolumn
  simp only [FieldTests.mapOperands, readTests_blank hops htests htests']

lemma readTests_unflagged {ops ops' : List (String × Json)}
    (hops : List.Forall₂ (fun o o' => o.1 = o'.1 ∧ Schema.SameButFlag o.1 o.2 o'.2) ops ops') :
    (e.readTests key kind ops).map (List.map (Test.mapOperand TestOperand.unflagged)) =
      (e.readTests key kind ops').map (List.map (Test.mapOperand TestOperand.unflagged)) := by
  induction hops with
  | nil => rfl
  | @cons o o' rest rest' ho hrest ih =>
    obtain ⟨name, raw⟩ := o
    obtain ⟨name', raw'⟩ := o'
    obtain ⟨rfl, hflag⟩ := ho
    rw [readTests, readTests, Outcome.map_cons, Outcome.map_cons, Outcome.map_mapError,
      FieldKind.readTest_unflagged hflag, ih, Outcome.map_mapError]

lemma readField_unflagged {ops ops' : List (String × Json)}
    (hops : List.Forall₂ (fun o o' => o.1 = o'.1 ∧ Schema.SameButFlag o.1 o.2 o'.2) ops ops') :
    (e.readField key (.object ops)).map (FieldTests.mapOperands TestOperand.unflagged) =
      (e.readField key (.object ops')).map (FieldTests.mapOperands TestOperand.unflagged) := by
  rw [readField, readField]
  rcases e.field? key with _ | ⟨kind, _ | column⟩
  · rfl
  · rfl
  · cases hops with
    | nil => rfl
    | @cons o o' rest rest' ho hrest =>
      have htests := @readTests_unflagged e key kind _ _ (.cons ho hrest)
      have hfield : ∀ x : Except FilterError (List Test),
          (x.map (FieldTests.mk key column kind)).map (FieldTests.mapOperands TestOperand.unflagged) =
            (x.map (List.map (Test.mapOperand TestOperand.unflagged))).map (FieldTests.mk key column kind) :=
        Outcome.map_map_congr fun _ => rfl
      simp only [Outcome.bind_ok_eq_map]
      rw [hfield, htests, hfield]

end Entity

namespace Schema

variable {s : Schema}

lemma ReadsFor.of_reference {entity key : String} {raw : Json} {ms rest : List (String × Json)}
    {entries : List FilterEntry} (href : s.IsReference entity key) (hraw : raw.nestedMembers? = some ms)
    (h : s.ReadsFor entity ((key, raw) :: rest) entries) :
    ∃ inner others, s.ReadsFor key ms inner ∧ s.ReadsFor entity rest others ∧
      entries = .reference (.node key inner) :: others := by
  obtain ⟨e, he, href⟩ := href
  rcases h with ⟨hms, -⟩ | ⟨e', he', h⟩
  · cases hms
  · obtain rfl := Except.ok.inj (he.symm.trans he')
    cases h with
    | null _ hrest =>
      obtain rfl := Option.some.inj hraw
      exact ⟨[], _, Or.inl ⟨rfl, rfl⟩, Or.inr ⟨e, he, hrest⟩, rfl⟩
    | reference _ hnested hinner hrest =>
      obtain rfl := Option.some.inj hraw
      exact ⟨_, _, Or.inr ⟨_, hnested, hinner⟩, Or.inr ⟨e, he, hrest⟩, rfl⟩
    | field hfield => cases href.symm.trans hfield

lemma ReadsFor.of_field {entity key : String} {raw : Json} {rest : List (String × Json)}
    {entries : List FilterEntry} (href : ¬ s.IsReference entity key)
    (h : s.ReadsFor entity ((key, raw) :: rest) entries) :
    ∃ e f others, s.entity entity = .ok e ∧ e.readField key raw = .ok f ∧
      s.ReadsFor entity rest others ∧ entries = .field f :: others := by
  rcases h with ⟨hms, -⟩ | ⟨e, he, h⟩
  · cases hms
  · cases h with
    | null hkey => exact absurd ⟨e, he, hkey⟩ href
    | reference hkey => exact absurd ⟨e, he, hkey⟩ href
    | field _ hfield hrest => exact ⟨e, _, _, he, hfield, Or.inr ⟨e, he, hrest⟩, rfl⟩

lemma Alike.mapEntries_blank {entity : String} {ms ms' : List (String × Json)}
    {entries entries' : List FilterEntry} (h : s.Alike SameLength entity ms ms')
    (hreads : s.ReadsFor entity ms entries) (hreads' : s.ReadsFor entity ms' entries') :
    FilterEntry.mapEntries TestOperand.blank entries = FilterEntry.mapEntries TestOperand.blank entries' := by
  induction h generalizing entries entries' with
  | nil entity =>
    have hnone : ∀ {entries}, s.ReadsFor entity [] entries → entries = [] := by
      rintro entries (⟨-, hentries⟩ | ⟨e, -, h⟩)
      · exact hentries
      · cases h
        rfl
    rw [hnone hreads, hnone hreads']
  | reference href hraw hraw' _ _ ihinner ihrest =>
    obtain ⟨inner, others, hinner, hothers, rfl⟩ := hreads.of_reference href hraw
    obtain ⟨inner', others', hinner', hothers', rfl⟩ := hreads'.of_reference href hraw'
    simp only [FilterEntry.mapEntries, FilterEntry.mapOperands, FilterTree.mapOperands, ihinner hinner hinner',
      ihrest hothers hothers']
  | field href hops _ ih =>
    obtain ⟨e, f, others, he, hf, hothers, rfl⟩ := hreads.of_field href
    obtain ⟨e', f', others', he', hf', hothers', rfl⟩ := hreads'.of_field href
    obtain rfl := Except.ok.inj (he.symm.trans he')
    simp only [FilterEntry.mapEntries, FilterEntry.mapOperands, Entity.readField_blank hops hf hf',
      ih hothers hothers']

lemma SameShape.mapOperands_blank {entity : String} {raw raw' : Json} {t t' : FilterTree}
    (h : s.SameShape entity raw raw') (ht : s.readFilter entity raw = .ok t)
    (ht' : s.readFilter entity raw' = .ok t') :
    t.mapOperands TestOperand.blank = t'.mapOperands TestOperand.blank := by
  obtain ⟨ms, ms', rfl, rfl, h⟩ := h
  obtain ⟨e, _, entries, he, hms, hreads, rfl⟩ := readFilter_eq_ok_iff.mp ht
  obtain ⟨e', _, entries', he', hms', hreads', rfl⟩ := readFilter_eq_ok_iff.mp ht'
  obtain rfl := Json.object.inj hms
  obtain rfl := Json.object.inj hms'
  simp only [FilterTree.mapOperands, h.mapEntries_blank (Or.inr ⟨e, he, hreads⟩) (Or.inr ⟨e', he', hreads'⟩)]

lemma mapEntries_eq_map (f : TestOperand → TestOperand) (entries : List FilterEntry) :
    FilterEntry.mapEntries f entries = entries.map (FilterEntry.mapOperands f) := by
  induction entries with
  | nil => rfl
  | cons entry rest ih => rw [FilterEntry.mapEntries, ih, List.map_cons]

lemma map_readEntries_cons (f : TestOperand → TestOperand) (e : Entity) (key : String) (raw : Json)
    (rest : List (String × Json)) :
    (s.readEntries e ((key, raw) :: rest)).map (List.map (FilterEntry.mapOperands f)) =
      (s.readEntry e key raw).map (FilterEntry.mapOperands f) >>= fun first =>
        (s.readEntries e rest).map (List.map (FilterEntry.mapOperands f)) >>= fun others =>
          .ok (first :: others) := by
  rw [← Outcome.map_cons, readEntries]
  cases s.readEntry e key raw with
  | error err => rfl
  | ok first => cases s.readEntries e rest <;> rfl

lemma readEntry_of_nestedMembers? {e nested : Entity} {key : String} {raw : Json}
    {ms : List (String × Json)} (href : e.refersTo key = true) (hnested : s.entity key = .ok nested)
    (hraw : raw.nestedMembers? = some ms) :
    s.readEntry e key raw = (s.readEntries nested ms).map fun inner => .reference (.node key inner) := by
  cases raw with
  | null =>
    obtain rfl := Option.some.inj hraw
    rw [readEntry, if_pos href, readEntries]
    rfl
  | object members =>
    obtain rfl := Option.some.inj hraw
    rw [readEntry, if_pos href, hnested]
  | _ => cases hraw

lemma Alike.readEntries_unflagged {defs : List (String × EntityDef)} (hbuild : build defs = .ok s)
    {entity : String} {ms ms' : List (String × Json)} (h : s.Alike SameButFlag entity ms ms') {e : Entity}
    (he : s.entity entity = .ok e) :
    (s.readEntries e ms).map (List.map (FilterEntry.mapOperands TestOperand.unflagged)) =
      (s.readEntries e ms').map (List.map (FilterEntry.mapOperands TestOperand.unflagged)) := by
  induction h generalizing e with
  | nil => rfl
  | @reference entity key raw raw' ms ms' rest rest' href hraw hraw' _ _ ihinner ihrest =>
    have href := (isReference_iff he).mp href
    obtain ⟨nested, hnested⟩ := exists_entity_of_refersTo hbuild he href
    have hnode : ∀ x : Except FilterError (List FilterEntry),
        (x.map fun inner => FilterEntry.reference (.node key inner)).map
          (FilterEntry.mapOperands TestOperand.unflagged) =
        (x.map (List.map (FilterEntry.mapOperands TestOperand.unflagged))).map
          fun inner => .reference (.node key inner) :=
      Outcome.map_map_congr fun inner => by
        rw [FilterEntry.mapOperands, FilterTree.mapOperands, mapEntries_eq_map]
    rw [map_readEntries_cons, map_readEntries_cons, ihrest he,
      readEntry_of_nestedMembers? href hnested hraw, readEntry_of_nestedMembers? href hnested hraw', hnode,
      hnode, ihinner hnested]
  | @field entity key ops ops' rest rest' href hops _ ihrest =>
    rw [isReference_iff he] at href
    have hentry : ∀ ops, (s.readEntry e key (.object ops)).map
          (FilterEntry.mapOperands TestOperand.unflagged) =
        ((e.readField key (.object ops)).map (FieldTests.mapOperands TestOperand.unflagged)).map
          FilterEntry.field := by
      intro ops
      rw [readEntry, if_neg href]
      exact Outcome.map_map_congr (fun f => by rw [FilterEntry.mapOperands]) _
    rw [map_readEntries_cons, map_readEntries_cons, ihrest he, hentry, hentry,
      Entity.readField_unflagged hops]

lemma SameButFlags.readFilter_unflagged {defs : List (String × EntityDef)} (hbuild : build defs = .ok s)
    {entity : String} {raw raw' : Json} (h : s.SameButFlags entity raw raw') :
    (s.readFilter entity raw).map (FilterTree.mapOperands TestOperand.unflagged) =
      (s.readFilter entity raw').map (FilterTree.mapOperands TestOperand.unflagged) := by
  obtain ⟨ms, ms', rfl, rfl, h⟩ := h
  rw [readFilter, readFilter]
  cases he : s.entity entity with
  | error err => rfl
  | ok e =>
    have hnode : ∀ x : Except FilterError (List FilterEntry),
        (x.map (FilterTree.node entity)).map (FilterTree.mapOperands TestOperand.unflagged) =
        (x.map (List.map (FilterEntry.mapOperands TestOperand.unflagged))).map (FilterTree.node entity) :=
      Outcome.map_map_congr fun entries => by rw [FilterTree.mapOperands, mapEntries_eq_map]
    exact (hnode _).trans ((congrArg _ (h.readEntries_unflagged hbuild he)).trans (hnode _).symm)

lemma SameButFlags.compile_eq {defs : List (String × EntityDef)} (hbuild : build defs = .ok s)
    {entity : String} {raw raw' : Json} (h : s.SameButFlags entity raw raw') (strategy : Strategy) :
    s.compile strategy entity raw = s.compile strategy entity raw' := by
  -- conditions keep nothing of a flag, so the tree may be stripped of its flags first
  have hcompile : ∀ raw, s.compile strategy entity raw =
      (s.readFilter entity raw).map (FilterTree.mapOperands TestOperand.unflagged) >>= s.lower strategy := by
    intro raw
    rw [compile]
    cases s.readFilter entity raw with
    | error err => rfl
    | ok t =>
      change s.lower strategy t = s.lower strategy (t.mapOperands TestOperand.unflagged)
      rw [lower_mapOperands s masks_unflagged]
      cases s.lower strategy t with
      | error err => rfl
      | ok conditions => exact congrArg Except.ok (List.map_id conditions).symm
  rw [hcompile, hcompile, h.readFilter_unflagged hbuild]

lemma SameShape.map_blank {entity : String} {raw raw' : Json} {strategy : Strategy}
    {conditions conditions' : List Condition} (h : s.SameShape entity raw raw')
    (hc : s.compile strategy entity raw = .ok conditions)
    (hc' : s.compile strategy entity raw' = .ok conditions') :
    conditions.map Condition.blank = conditions'.map Condition.blank := by
  obtain ⟨t, ht, hlower⟩ := s.compile_eq_ok_iff.mp hc
  obtain ⟨t', ht', hlower'⟩ := s.compile_eq_ok_iff.mp hc'
  have hmask := lower_mapOperands s masks_blank strategy t
  have hmask' := lower_mapOperands s masks_blank strategy t'
  rw [hlower] at hmask
  rw [hlower', ← h.mapOperands_blank ht ht', hmask] at hmask'
  exact Except.ok.inj hmask'

end Schema

end EntityQuery
