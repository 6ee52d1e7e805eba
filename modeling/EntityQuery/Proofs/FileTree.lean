import Mathlib.Tactic.Common
import EntityQuery.FileTree

/-! Two trees that differ at some places only. A path that comes to none of these, be it on its way, leads to the same
entry in both. -/

namespace EntityQuery.FileTree

def way (place : List String) : List String → List (List String)
  | [] => [place]
  | step :: rest => place :: way (move place step) rest

structure SameBeside (places : List (List String)) (t t' : FileTree) : Prop where
  workingDirectory_eq : t.workingDirectory = t'.workingDirectory
  entryAt_eq : ∀ place ∉ places, t.entryAt place = t'.entryAt place

def Affects (places : List (List String)) (t : FileTree) (path : String) : Prop :=
  ∃ place ∈ way (t.start path) (steps path), place ∈ places

instance (places : List (List String)) (t : FileTree) (path : String) : Decidable (Affects places t path) :=
  inferInstanceAs (Decidable (∃ place ∈ way (t.start path) (steps path), place ∈ places))

variable {t t' : FileTree} {places : List (List String)}

lemma follow_congr {place : List String} {steps : List String}
    (h : ∀ p ∈ way place steps, t.entryAt p = t'.entryAt p) : t.follow place steps = t'.follow place steps := by
  induction steps generalizing place with
  | nil => exact h place List.mem_cons_self
  | cons step rest ih =>
    obtain ⟨hplace, hrest⟩ := List.forall_mem_cons.mp h
    rw [follow, follow, hplace]
    cases t'.entryAt place with
    | directory => exact ih hrest
    | missing | blocked | file => rfl

lemma SameBeside.look_eq (h : SameBeside places t t') {path : String} (hpath : ¬ Affects places t path) :
    t.look path = t'.look path := by
  have hstart : t.start path = t'.start path := by
    rw [start, start, h.workingDirectory_eq]
  rw [look, look, ← hstart, follow_congr]
  intro p hp
  exact h.entryAt_eq p fun hplace => hpath ⟨p, hp, hplace⟩

end EntityQuery.FileTree
