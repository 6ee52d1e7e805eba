import EntityQuery.Proofs.Reading.FieldReports
import EntityQuery.Proofs.Reading.Refusal

/-! Reading a filter fails with its first offence in the order of the document, under the entity and the key at
which that offence stands, and nothing behind the offence matters. -/

namespace EntityQuery

open Json (SameUpTo SameMember)
open Outcome (verdict)

namespace Schema

variable {s : Schema} {entity key : String} {e : Entity}

lemma readEntries_eq_mapM (ms : List (String × Json)) :
    s.readEntries e ms = ms.mapM fun m => s.readEntry e m.1 m.2 := by
  induction ms with
  | nil => rfl
  | cons m rest ih =>
    rw [readEntries, List.mapM_cons, ih]
    cases s.readEntry e m.1 m.2 with
    | error err => rfl
    | ok first => exact (Outcome.bind_ok_eq_map _ _).symm

lemma readFilter_object (he : s.entity entity = .ok e) (ms : List (String × Json)) :
    s.readFilter entity (.object ms) = (s.readEntries e ms).map (.node entity) := by
  rw [readFilter, he]
  rfl

lemma readFilter_of_not_object (he : s.entity entity = .ok e) {raw : Json} (h : ∀ members, raw ≠ .object members) :
    s.readFilter entity raw = .error (.invalidShape entity none .filterNotObject) := by
  rw [readFilter, he]
  cases raw with
  | object members => exact absurd rfl (h members)
  | _ => rfl

lemma RefusesMember.ofItem {i : Nat} {raw : Json} {p : Place} {err : FilterError}
    (h : s.RefusesMember e i key raw p err) : p.OfItem i := by
  cases h with
  | reference => rfl
  | field _ h => exact h.ofItem

lemma refuses_object_iff (he : s.entity entity = .ok e) {ms : List (String × Json)} {p : Place}
    {err : FilterError} : s.Refuses entity (.object ms) p err ↔
      faultsOfItems (fun i m => s.RefusesMember e i m.1 m.2) ms p err := by
  constructor
  · intro h
    cases h with
    | notObject h => exact absurd rfl (h ms)
    | member he' h =>
      obtain rfl := Except.ok.inj (he.symm.trans he')
      exact ⟨_, _, _, rfl, h⟩
  · rintro ⟨pre, m, post, rfl, h⟩
    exact .member he h

lemma Refuses.exists_entity {ms : List (String × Json)} {p : Place} {err : FilterError}
    (h : s.Refuses entity (.object ms) p err) : ∃ e, s.entity entity = .ok e := by
  cases h with
  | notObject h => exact absurd rfl (h ms)
  | member he => exact ⟨_, he⟩

lemma readEntry_object (href : e.refersTo key = true) (ms : List (String × Json)) :
    s.readEntry e key (.object ms) = (s.readFilter key (.object ms)).map .reference := by
  rw [readEntry, if_pos href]
  cases hnested : s.entity key with
  | error err => simp only [readFilter, hnested]; rfl
  | ok nested =>
    rw [readFilter_object hnested]
    dsimp only
    cases s.readEntries nested ms <;> rfl

lemma readEntry_of_not_object (href : e.refersTo key = true) {raw : Json} (hnull : raw ≠ .null)
    (h : ∀ members, raw ≠ .object members) :
    s.readEntry e key raw = .error (.invalidShape e.name (some key) .referenceNotObject) := by
  rw [readEntry.eq_def, if_pos href]
  cases raw with
  | null => exact absurd rfl hnull
  | object members => exact absurd rfl (h members)
  | _ => rfl

lemma readReference_reportsFirst (href : e.refersTo key = true) {raw : Json}
    (h : ReportsFirst (s.readFilter key) (s.Refuses key) SameUpTo raw) :
    ReportsFirst (s.readEntry e key) (s.RefusesReference e key) SameUpTo raw := by
  have hverdict : ∀ ms, verdict (s.readEntry e key (.object ms)) = verdict (s.readFilter key (.object ms)) := by
    intro ms
    rw [readEntry_object href]
    exact Outcome.verdict_map _ _
  by_cases hobject : ∃ members, raw = .object members
  · obtain ⟨ms, rfl⟩ := hobject
    refine h.transfer id (fun _ _ hpq => hpq) (hverdict ms) (fun p err => ⟨fun hp => ?_, ?_⟩) ?_
    · cases hp with
      | notObject _ h => exact absurd rfl (h ms)
      | nested h => exact ⟨p, rfl, h⟩
    · rintro ⟨q, rfl, hq⟩
      exact .nested hq
    · intro p err raw' _ hsame
      obtain ⟨ms', rfl⟩ := Json.SameUpTo.exists_object hsame
      exact ⟨_, hsame, hverdict ms'⟩
  · rw [not_exists] at hobject
    by_cases hnull : raw = .null
    · subst hnull
      refine .here fun p err => ⟨fun hp => ?_, fun herr => ?_⟩
      · cases hp with
        | notObject hnot => exact absurd rfl hnot
      · rw [readEntry, if_pos href] at herr
        cases herr.2
    · refine .refused _ (readEntry_of_not_object href hnull hobject) (fun p err => ⟨fun hp => ?_, ?_⟩)
      · cases hp with
        | notObject => exact ⟨rfl, rfl⟩
        | nested => exact absurd rfl (hobject _)
      · rintro ⟨rfl, rfl⟩
        exact .notObject hnull hobject

lemma readEntry_reportsFirst (i : Nat) (m : String × Json)
    (h : e.refersTo m.1 = true → ReportsFirst (s.readFilter m.1) (s.Refuses m.1) SameUpTo m.2) :
    ReportsFirst (fun m => s.readEntry e m.1 m.2) (fun m => s.RefusesMember e i m.1 m.2) (SameMember i) m := by
  obtain ⟨key, raw⟩ := m
  cases href : e.refersTo key with
  | true =>
    refine (readReference_reportsFirst href (h href)).within (fun v => rfl) (fun p err => ⟨fun hp => ?_, ?_⟩)
    · cases hp with
      | reference _ h => exact ⟨_, rfl, h⟩
      | field hnot => simp [href] at hnot
    · rintro ⟨q, rfl, hq⟩
      exact .reference href hq
  | false =>
    have hverdict : ∀ v, verdict (s.readEntry e key v) = verdict (e.readField key v) := by
      intro v
      rw [readEntry.eq_def, if_neg (by simp [href])]
      exact Outcome.verdict_map _ _
    refine (e.readField_reportsFirst i (key, raw)).transfer id (fun _ _ hpq => hpq) (hverdict raw)
      (fun p err => ⟨fun hp => ?_, ?_⟩) ?_
    · cases hp with
      | reference hnot => simp [href] at hnot
      | field _ h => exact ⟨p, rfl, h⟩
    · rintro ⟨q, rfl, hq⟩
      exact .field href hq
    · rintro q err ⟨key', v⟩ - ⟨rfl, hv⟩
      exact ⟨(key', v), ⟨rfl, hv⟩, hverdict v⟩

lemma readFilter_reportsFirst {defs : List (String × EntityDef)} (hbuild : build defs = .ok s) (raw : Json)
    (he : s.entity entity = .ok e) : ReportsFirst (s.readFilter entity) (s.Refuses entity) SameUpTo raw := by
  induction raw using Json.members_induction generalizing entity e with
  | h raw ih =>
    by_cases hobject : ∃ members, raw = .object members
    · obtain ⟨ms, rfl⟩ := hobject
      refine ReportsFirst.items (f := fun m => s.readEntry e m.1 m.2) (fun i m p err h => h.ofItem) ?_
        (fun p raw' => SameUpTo.exists_members) ?_ (fun p err => refuses_object_iff he)
      · -- what a reference leads to is registered, so its filter reports too
        intro m hm i
        refine readEntry_reportsFirst i m fun href => ?_
        obtain ⟨nested, hnested⟩ := exists_entity_of_refersTo hbuild he href
        exact ih ms rfl m hm hnested
      · intro ms' _
        rw [readFilter_object he, Outcome.verdict_map, readEntries_eq_mapM]
    · rw [not_exists] at hobject
      refine .refused _ (readFilter_of_not_object he hobject) (fun p err => ⟨fun hp => ?_, ?_⟩)
      · cases hp with
        | notObject => exact ⟨rfl, rfl⟩
        | member => exact absurd rfl (hobject _)
      · rintro ⟨rfl, rfl⟩
        exact .notObject hobject

section Site

variable {pre post : List (String × Json)} {raw : Json} {p : Place} {i : Nat}

lemma site_key : s.site (.key pre.length) entity (.object (pre ++ (key, raw) :: post)) = (entity, some key) := by
  rw [site, Json.memberAt?_append_cons, Option.map_some]

lemma site_within_here :
    s.site (.within pre.length .here) entity (.object (pre ++ (key, raw) :: post)) = (entity, some key) := by
  rw [site, Json.memberAt?_append_cons]
  rfl

lemma site_within_reference (he : s.entity entity = .ok e) (href : e.refersTo key = true) (hp : p.OfItem i) :
    s.site (.within pre.length p) entity (.object (pre ++ (key, raw) :: post)) = s.site p key raw := by
  have hindex : p.index? = some i := hp
  rw [site, Json.memberAt?_append_cons]
  simp [hindex, he, Except.toOption, href]

lemma site_within_field (he : s.entity entity = .ok e) (href : e.refersTo key = false)
    {tests tests' : List (String × Json)} {name : String} (hp : p.OfItem tests.length) :
    s.site (.within pre.length p) entity
      (.object (pre ++ (key, .object (tests ++ (name, raw) :: tests')) :: post)) =
        (entity, some (key ++ "." ++ name)) := by
  have hindex : p.index? = some tests.length := hp
  rw [site, Json.memberAt?_append_cons]
  simp [hindex, he, Except.toOption, href, Json.memberAt?_append_cons]

lemma Refuses.site_eq {err : FilterError} (h : s.Refuses entity raw p err) :
    ∃ fault, err = .invalidShape (s.site p entity raw).1 (s.site p entity raw).2 fault := by
  induction raw using Json.members_induction generalizing entity p err with
  | h raw ih =>
    cases h with
    | notObject => exact ⟨_, rfl⟩
    | @member _ e pre post key v p _ he hm =>
      have hname := name_of_entity he
      cases hm with
      | reference href h =>
        cases h with
        | notObject => exact ⟨.referenceNotObject, by rw [site_within_here, hname]⟩
        | nested h =>
          obtain ⟨nested, hnested⟩ := h.exists_entity
          obtain ⟨_, _, _, -, hmember⟩ := (refuses_object_iff hnested).mp h
          rw [site_within_reference he href hmember.ofItem]
          exact ih _ rfl (key, .object _) (by simp) h
      | field href h =>
        cases h with
        | unknown | hidden => exact ⟨_, by rw [site_key, hname]⟩
        | operators _ _ h =>
          cases h with
          | notObject | empty => exact ⟨_, by rw [site_within_here, hname]⟩
          | test h => exact ⟨_, by rw [site_within_field he href h.ofItem, hname]⟩

end Site

/-- A registered entity's filter is rejected exactly if it has an offence, with the earliest one, which names the
entity and the key of its site. Any filter that is the same up to there is rejected with the same error. -/
theorem readFilter_rejects_earliest {defs : List (String × EntityDef)} (hbuild : build defs = .ok s)
    (hentity : s.isRegistered entity = true) (raw : Json) (err : FilterError) :
    (s.readFilter entity raw = .error err ↔ ∃ p, Earliest (s.Refuses entity raw) p err) ∧
    ∀ p, Earliest (s.Refuses entity raw) p err →
      (∃ fault, err = .invalidShape (s.site p entity raw).1 (s.site p entity raw).2 fault) ∧
      ∀ raw', raw.SameUpTo p raw' → s.readFilter entity raw' = .error err := by
  obtain ⟨e, he⟩ := isRegistered_iff.mp hentity
  have hreports := readFilter_reportsFirst hbuild raw he
  exact ⟨hreports.error_iff, fun p hp => ⟨hp.fault.site_eq, fun raw' => hreports.stable hp⟩⟩

def jobPaidLike : Json :=
  .object [("status", .object [("equals", .string "open")]),
    ("job", .object [("pay", .object [("lessThan", .integer 9), ("like", .string "9")]), ("salary", .null)]),
    ("user", .bool true)]

theorem pay_like_reported : hiring.isRegistered "application" = true ∧
    ∃ p, Earliest (hiring.Refuses "application" jobPaidLike) p
      (.invalidShape "job" (some "pay.like") (.operatorNotAllowed .number)) ∧
    hiring.site p "application" jobPaidLike = ("job", some "pay.like") := by
  have hread : hiring.readFilter "application" jobPaidLike =
      .error (.invalidShape "job" (some "pay.like") (.operatorNotAllowed .number)) := rfl
  have hregistered : hiring.isRegistered "application" = true := rfl
  obtain ⟨hiff, hsite⟩ := readFilter_rejects_earliest build_hiring hregistered jobPaidLike
    (.invalidShape "job" (some "pay.like") (.operatorNotAllowed .number))
  obtain ⟨p, hp⟩ := hiff.mp hread
  obtain ⟨⟨fault, herr⟩, -⟩ := hsite p hp
  injection herr with hentity hkey
  exact ⟨hregistered, p, hp, Prod.ext hentity.symm hkey.symm⟩

end Schema

end EntityQuery
