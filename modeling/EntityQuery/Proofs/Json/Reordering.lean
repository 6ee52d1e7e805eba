import EntityQuery.Json.Basic
import Mathlib.Data.List.Forall2
import Mathlib.Data.List.Perm.Basic
import Mathlib.Logic.Relation

/-! JSON values that are the same but for the order of the members of their objects, at any depth. -/

namespace EntityQuery.Json

inductive Reorders : Json → Json → Prop
  | here {ms ms' : List (String × Json)} (h : ms.Perm ms') : Reorders (.object ms) (.object ms')
  | member (pre post : List (String × Json)) (key : String) {v v' : Json} (h : Reorders v v') :
      Reorders (.object (pre ++ (key, v) :: post)) (.object (pre ++ (key, v') :: post))
  | element (pre post : List Json) {v v' : Json} (h : Reorders v v') :
      Reorders (.array (pre ++ v :: post)) (.array (pre ++ v' :: post))

def Reordered : Json → Json → Prop :=
  Relation.ReflTransGen Reorders

variable {v v' : Json} {ms ms' inner : List (String × Json)}

lemma Reorders.symm (h : Reorders v v') : Reorders v' v := by
  induction h with
  | here h => exact .here h.symm
  | member pre post key _ ih => exact .member pre post key ih
  | element pre post _ ih => exact .element pre post ih

lemma Reordered.member (pre post : List (String × Json)) (key : String) (h : v.Reordered v') :
    Reordered (.object (pre ++ (key, v) :: post)) (.object (pre ++ (key, v') :: post)) := by
  induction h with
  | refl => exact .refl
  | tail _ hstep ih => exact ih.tail (.member pre post key hstep)

lemma Reordered.members (pre : List (String × Json))
    (h : List.Forall₂ (fun m m' => m.1 = m'.1 ∧ m.2.Reordered m'.2) ms ms') :
    Reordered (.object (pre ++ ms)) (.object (pre ++ ms')) := by
  induction h generalizing pre with
  | nil => exact .refl
  | @cons m m' rest rest' hm _ ih =>
    obtain ⟨key, v⟩ := m
    obtain ⟨key', v'⟩ := m'
    obtain ⟨rfl, hv⟩ := hm
    have hrest := ih (pre ++ [(key, v')])
    rw [List.append_assoc, List.append_assoc] at hrest
    exact (hv.member pre rest key).trans hrest

lemma Reordered.object (h : List.Forall₂ (fun m m' => m.1 = m'.1 ∧ m.2.Reordered m'.2) ms inner)
    (hperm : inner.Perm ms') : Reordered (.object ms) (.object ms') :=
  (Reordered.members [] h).tail (.here hperm)

end EntityQuery.Json
