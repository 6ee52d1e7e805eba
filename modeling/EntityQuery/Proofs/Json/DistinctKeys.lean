import EntityQuery.Json.Parser
import Mathlib.Data.List.Nodup
import Mathlib.Tactic.Common

/-! Parsed JSON has no object with two members of one key. -/

namespace EntityQuery.Json

inductive DistinctKeys : Json → Prop
  | null : DistinctKeys .null
  | bool (b : Bool) : DistinctKeys (.bool b)
  | integer (n : Int) : DistinctKeys (.integer n)
  | float (x : Binary64) : DistinctKeys (.float x)
  | string (s : String) : DistinctKeys (.string s)
  | array {elements : List Json} (h : ∀ v ∈ elements, DistinctKeys v) : DistinctKeys (.array elements)
  | object {members : List (String × Json)} (hkeys : (members.map Prod.fst).Nodup)
      (h : ∀ m ∈ members, DistinctKeys m.2) : DistinctKeys (.object members)

lemma distinctKeys_object_iff {ms : List (String × Json)} :
    DistinctKeys (.object ms) ↔ (ms.map Prod.fst).Nodup ∧ ∀ m ∈ ms, m.2.DistinctKeys := by
  constructor
  · rintro (_ | _ | _ | _ | _ | _ | ⟨hkeys, h⟩)
    exact ⟨hkeys, h⟩
  · rintro ⟨hkeys, h⟩
    exact .object hkeys h

lemma value_mem_setMember {key : String} {value : Json} {ms : List (String × Json)}
    {m : String × Json} (h : m ∈ setMember key value ms) : m = (key, value) ∨ m ∈ ms := by
  induction ms with
  | nil => exact Or.inl (List.mem_singleton.mp h)
  | cons x rest ih =>
    obtain ⟨k, v⟩ := x
    rw [setMember] at h
    split at h
    · rcases List.mem_cons.mp h with h | h
      · exact Or.inl h
      · exact Or.inr (List.mem_cons_of_mem _ h)
    · rcases List.mem_cons.mp h with rfl | h
      · exact Or.inr List.mem_cons_self
      · exact (ih h).imp_right (List.mem_cons_of_mem _)

lemma distinctKeys_setMember {key : String} {value : Json} {ms : List (String × Json)}
    (hv : value.DistinctKeys) (h : DistinctKeys (.object ms)) :
    DistinctKeys (.object (setMember key value ms)) := by
  obtain ⟨hkeys, hms⟩ := distinctKeys_object_iff.mp h
  refine .object ?_ fun m hm => ?_
  · rw [keys_setMember]
    split
    · exact hkeys
    · next hnew => exact List.concat_eq_append ▸ hkeys.concat hnew
  · rcases value_mem_setMember hm with rfl | hm
    · exact hv
    · exact hms m hm

lemma ofInteger_distinctKeys (negative : Bool) (n : Nat) : (ofInteger negative n).DistinctKeys := by
  unfold ofInteger
  extract_lets
  split
  · exact .float _
  · exact .integer _

lemma number?_distinctKeys {cs rest : List Char} {v : Json} (h : number? cs = some (v, rest)) :
    v.DistinctKeys := by
  unfold number? at h
  split at h
  split at h
  split at h
  · cases h
  · obtain ⟨⟨places, cs'⟩, -, h⟩ := Option.bind_eq_some_iff.mp h
    obtain ⟨⟨e, cs''⟩, -, h⟩ := Option.bind_eq_some_iff.mp h
    dsimp only at h
    split at h
    · cases h
      exact ofInteger_distinctKeys _ _
    · obtain ⟨x, -, h⟩ := Option.map_eq_some_iff.mp h
      cases h
      exact .float _

structure ReadsDistinct (fuel : Nat) : Prop where
  value : ∀ {depth cs v rest}, value? depth fuel cs = some (v, rest) → v.DistinctKeys
  elements : ∀ {depth cs vs rest}, elements? depth fuel cs = some (vs, rest) → ∀ v ∈ vs, v.DistinctKeys
  members : ∀ {depth found cs ms rest}, members? depth found fuel cs = some (ms, rest) →
    DistinctKeys (.object found) → DistinctKeys (.object ms)

section Step

variable {depth fuel : Nat} {cs rest : List Char}

lemma ReadsDistinct.value_succ (ih : ReadsDistinct fuel) {v : Json}
    (h : value? depth (fuel + 1) cs = some (v, rest)) : v.DistinctKeys := by
  rw [value?] at h
  split at h
  · cases h
    exact .null
  · cases h
    exact .bool _
  · cases h
    exact .bool _
  · obtain ⟨⟨body, rest⟩, -, h⟩ := Option.map_eq_some_iff.mp h
    cases h
    exact .string _
  · split at h
    · cases h
    · split at h
      · cases h
        exact .array (by simp)
      · obtain ⟨⟨vs, rest⟩, hvs, h⟩ := Option.map_eq_some_iff.mp h
        cases h
        exact .array (ih.elements hvs)
  · split at h
    · cases h
    · split at h
      · cases h
        exact .object List.nodup_nil (by simp)
      · obtain ⟨⟨ms, rest⟩, hms, h⟩ := Option.map_eq_some_iff.mp h
        cases h
        exact ih.members hms (.object List.nodup_nil (by simp))
  · exact number?_distinctKeys h

lemma ReadsDistinct.elements_succ (ih : ReadsDistinct fuel) {vs : List Json}
    (h : elements? depth (fuel + 1) cs = some (vs, rest)) : ∀ v ∈ vs, v.DistinctKeys := by
  rw [elements?] at h
  obtain ⟨⟨first, rest'⟩, hfirst, h⟩ := Option.bind_eq_some_iff.mp h
  have hfirst := ih.value hfirst
  dsimp only at h
  split at h
  · obtain ⟨⟨others, rest''⟩, hothers, h⟩ := Option.bind_eq_some_iff.mp h
    cases h
    exact List.forall_mem_cons.mpr ⟨hfirst, ih.elements hothers⟩
  · cases h
    exact List.forall_mem_singleton.mpr hfirst
  · cases h

lemma ReadsDistinct.members_succ (ih : ReadsDistinct fuel) {found ms : List (String × Json)}
    (h : members? depth found (fuel + 1) cs = some (ms, rest)) (hfound : DistinctKeys (.object found)) :
    DistinctKeys (.object ms) := by
  rw [members?] at h
  split at h
  · obtain ⟨⟨key, rest'⟩, -, h⟩ := Option.bind_eq_some_iff.mp h
    dsimp only at h
    split at h
    · obtain ⟨⟨v, rest''⟩, hv, h⟩ := Option.bind_eq_some_iff.mp h
      have hset := @distinctKeys_setMember (String.ofList key) _ _ (ih.value hv) hfound
      dsimp only at h
      split at h
      · exact ih.members h hset
      · cases h
        exact hset
      · cases h
    · cases h
  · cases h

end Step

lemma readsDistinct (fuel : Nat) : ReadsDistinct fuel := by
  induction fuel with
  | zero =>
    refine ⟨fun h => ?_, fun h => ?_, fun h => ?_⟩
    · simp [value?] at h
    · simp [elements?] at h
    · simp [members?] at h
  | succ fuel ih => exact ⟨ih.value_succ, ih.elements_succ, ih.members_succ⟩

lemma parse_distinctKeys {text : String} {v : Json} (h : parse text = some v) : v.DistinctKeys := by
  obtain ⟨⟨v', rest⟩, hv, h⟩ := Option.bind_eq_some_iff.mp h
  dsimp only at h
  split at h
  · cases h
    exact (readsDistinct _).value hv
  · cases h

end EntityQuery.Json
