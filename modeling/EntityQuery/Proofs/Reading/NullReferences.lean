import EntityQuery.Proofs.Masking.Reading
import EntityQuery.Proofs.Reading.FirstOffence
import Mathlib.Logic.Relation

/-! References that are given null. Wherever a null stands in the place of a nested filter, an empty object in its
stead is read to the same tree, or refused with the same error. -/

namespace EntityQuery.Schema

inductive EmptiesNull (s : Schema) : String → Json → Json → Prop
  | here {entity key : String} (href : s.IsReference entity key) (pre post : List (String × Json)) :
      EmptiesNull s entity (.object (pre ++ (key, .null) :: post)) (.object (pre ++ (key, .object []) :: post))
  | nested {entity key : String} {raw raw' : Json} (href : s.IsReference entity key)
      (pre post : List (String × Json)) (h : EmptiesNull s key raw raw') :
      EmptiesNull s entity (.object (pre ++ (key, raw) :: post)) (.object (pre ++ (key, raw') :: post))

def EmptiesNulls (s : Schema) (entity : String) : Json → Json → Prop :=
  Relation.ReflTransGen (s.EmptiesNull entity)

variable {s : Schema} {e : Entity} {entity key : String} {raw raw' : Json} {pre post : List (String × Json)}

lemma EmptiesNulls.nested (href : s.IsReference entity key) (pre post : List (String × Json))
    (h : s.EmptiesNulls key raw raw') :
    s.EmptiesNulls entity (.object (pre ++ (key, raw) :: post)) (.object (pre ++ (key, raw') :: post)) := by
  induction h with
  | refl => exact .refl
  | tail _ hstep ih => exact ih.tail (.nested href pre post hstep)

lemma EmptiesNull.exists_objects (h : s.EmptiesNull entity raw raw') :
    ∃ ms ms', raw = .object ms ∧ raw' = .object ms' := by
  cases h <;> exact ⟨_, _, rfl, rfl⟩

lemma readFilter_of_readEntry_eq (he : s.entity entity = .ok e)
    (h : s.readEntry e key raw = s.readEntry e key raw') :
    s.readFilter entity (.object (pre ++ (key, raw) :: post)) =
      s.readFilter entity (.object (pre ++ (key, raw') :: post)) := by
  rw [readFilter_object he, readFilter_object he, readEntries_eq_mapM, readEntries_eq_mapM, List.mapM_append,
    List.mapM_append, List.mapM_cons, List.mapM_cons, h]

lemma readEntry_null {nested : Entity} (href : e.refersTo key = true) (hnested : s.entity key = .ok nested) :
    s.readEntry e key .null = s.readEntry e key (.object []) := by
  rw [readEntry_of_nestedMembers? href hnested rfl, readEntry_of_nestedMembers? href hnested rfl]

lemma EmptiesNull.readFilter_eq {defs : List (String × EntityDef)} (hbuild : build defs = .ok s)
    (h : s.EmptiesNull entity raw raw') : s.readFilter entity raw = s.readFilter entity raw' := by
  induction h with
  | here href pre post =>
    obtain ⟨e, he, href⟩ := href
    -- the empty object has the referenced entity looked up, which the null does not
    obtain ⟨nested, hnested⟩ := exists_entity_of_refersTo hbuild he href
    exact readFilter_of_readEntry_eq he (readEntry_null href hnested)
  | nested href pre post h ih =>
    obtain ⟨e, he, href⟩ := href
    obtain ⟨ms, ms', rfl, rfl⟩ := h.exists_objects
    refine readFilter_of_readEntry_eq he ?_
    rw [readEntry_object href, readEntry_object href, ih]

lemma EmptiesNulls.readFilter_eq {defs : List (String × EntityDef)} (hbuild : build defs = .ok s)
    (h : s.EmptiesNulls entity raw raw') : s.readFilter entity raw = s.readFilter entity raw' := by
  induction h with
  | refl => rfl
  | tail _ hstep ih => exact ih.trans (hstep.readFilter_eq hbuild)

/-- A filter whose nulls under references become empty objects, any of them and at any depth, is read to the same
tree or refused with the same error, and so has the same graph, the same chains and the same conditions. -/
theorem readFilter_of_emptiesNulls {defs : List (String × EntityDef)} (hbuild : build defs = .ok s)
    (h : s.EmptiesNulls entity raw raw') :
    s.readFilter entity raw' = s.readFilter entity raw ∧
    (s.readFilter entity raw').map ReferenceGraph.ofTree = (s.readFilter entity raw).map ReferenceGraph.ofTree ∧
    s.referenceChains entity raw' = s.referenceChains entity raw ∧
    ∀ strategy, s.compile strategy entity raw' = s.compile strategy entity raw := by
  have hread := h.readFilter_eq hbuild
  refine ⟨hread.symm, by rw [hread], ?_, fun strategy => ?_⟩
  · rw [referenceChains, referenceChains, hread]
  · rw [compile, compile, hread]

def unfiltered (user address status : Json) : Json :=
  .object [("user", user), ("job", .object [("address", address), ("pay", .object [("equals", .integer 3)])]),
    ("status", status)]

lemma emptiesNulls_unfiltered (status : Json) : hiring.EmptiesNulls "application"
    (unfiltered .null .null status) (unfiltered (.object []) (.object []) status) := by
  have huser : hiring.IsReference "application" "user" := ⟨_, rfl, rfl⟩
  have hjob : hiring.IsReference "application" "job" := ⟨_, rfl, rfl⟩
  have haddress : hiring.IsReference "job" "address" := ⟨_, rfl, rfl⟩
  have hnested := EmptiesNulls.nested hjob [("user", .null)] [("status", status)]
    (.single (.here haddress [] [("pay", .object [("equals", .integer 3)])]))
  exact hnested.tail (.here huser [] _)

/-- The null of a field stays refused. -/
theorem users_and_addresses_unfiltered :
    hiring.EmptiesNulls "application" (unfiltered .null .null .null)
      (unfiltered (.object []) (.object []) .null) ∧
    hiring.readFilter "application" (unfiltered (.object []) (.object []) .null) =
      .error (.invalidShape "application" (some "status") .operatorsNotObject) ∧
    hiring.referenceChains "application"
      (unfiltered (.object []) (.object []) (.object [("isNull", .bool true)])) =
        .ok [["application", "user"], ["application", "job", "address"]] := by
  have hrefused : hiring.readFilter "application" (unfiltered .null .null .null) =
      .error (.invalidShape "application" (some "status") .operatorsNotObject) := rfl
  have hchains : hiring.referenceChains "application" (unfiltered .null .null (.object [("isNull", .bool true)])) =
      .ok [["application", "user"], ["application", "job", "address"]] := by decide +kernel
  have hnull := readFilter_of_emptiesNulls build_hiring (emptiesNulls_unfiltered .null)
  have hopen := readFilter_of_emptiesNulls build_hiring (emptiesNulls_unfiltered (.object [("isNull", .bool true)]))
  exact ⟨emptiesNulls_unfiltered .null, hnull.1.trans hrefused, hopen.2.2.1.trans hchains⟩

end EntityQuery.Schema
