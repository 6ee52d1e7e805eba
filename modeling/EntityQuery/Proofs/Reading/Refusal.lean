import EntityQuery.Filter.Reading
import EntityQuery.Proofs.Schema.Registered

/-! What reading a filter can fail with. An entity that is not registered is named before anything is read. Below
a registered one every reference leads to an entity again, so that all that is left is a fault of shape. -/

namespace EntityQuery

open Outcome (FailsWith)

def FilterError.IsShape (err : FilterError) : Prop :=
  ∃ owner key fault, err = .invalidShape owner key fault

lemma FilterError.isShape (owner : String) (key : Option String) (fault : ShapeFault) :
    (FilterError.invalidShape owner key fault).IsShape :=
  ⟨owner, key, fault, rfl⟩

namespace Entity

open FilterError (IsShape isShape)

variable (e : Entity) (key : String)

lemma readTests_failsWith (kind : FieldKind) (ms : List (String × Json)) :
    FailsWith IsShape (e.readTests key kind ms) := by
  induction ms with
  | nil => exact .ok []
  | cons m rest ih =>
    rw [readTests]
    refine FailsWith.bind (.mapError (isShape _ _) _) fun first _ => ?_
    exact ih.bind fun others _ => .ok _

lemma readField_failsWith (raw : Json) : FailsWith IsShape (e.readField key raw) := by
  rw [readField.eq_def]
  split
  · exact .error (isShape _ _ _)
  · exact .error (isShape _ _ _)
  · split
    · exact .error (isShape _ _ _)
    · exact (e.readTests_failsWith key _ _).bind fun tests _ => .ok _
    · exact .error (isShape _ _ _)

end Entity

namespace Schema

open FilterError (IsShape isShape)

variable {s : Schema} {entity : String} {raw : Json}

lemma isRegistered_iff : s.isRegistered entity = true ↔ ∃ e, s.entity entity = .ok e := by
  rw [isRegistered, Schema.entity]
  cases s.entity? entity <;> simp

lemma entity_of_not_isRegistered (h : s.isRegistered entity = false) :
    s.entity entity = .error (.unknownEntity entity) := by
  have hnone : s.entity? entity = none := by simpa [isRegistered] using h
  rw [Schema.entity, hnone]

lemma readFilter_of_not_isRegistered (h : s.isRegistered entity = false) (raw : Json) :
    s.readFilter entity raw = .error (.unknownEntity entity) := by
  rw [readFilter, entity_of_not_isRegistered h]
  rfl

variable {defs : List (String × EntityDef)}

lemma readEntries_failsWith (hbuild : build defs = .ok s) {e : Entity} (he : s.entity entity = .ok e)
    (ms : List (String × Json)) : FailsWith IsShape (s.readEntries e ms) := by
  induction e, ms using readEntries.induct s (motive_2 := fun e key raw => ∀ entity, s.entity entity = .ok e →
      FailsWith IsShape (s.readEntry e key raw)) generalizing entity with
  | case1 e key href =>
    rw [readEntry, if_pos href]
    exact .ok _
  | case2 e key href members err herr entity he =>
    obtain ⟨nested, hnested⟩ := exists_entity_of_refersTo hbuild he href
    cases herr.symm.trans hnested
  | case3 e key href members nested hnested ih =>
    rw [readEntry, if_pos href, hnested]
    exact (ih hnested).map _
  | case4 raw e key href hnull hobj =>
    rw [readEntry.eq_def, if_pos href]
    split
    · exact absurd rfl hnull
    · exact absurd rfl (hobj _)
    · exact .error (isShape _ _ _)
  | case5 raw e key href =>
    rw [readEntry.eq_def, if_neg href]
    exact (e.readField_failsWith key raw).map _
  | case6 e =>
    rw [readEntries]
    exact .ok []
  | case7 e key raw rest err herr ih =>
    rw [readEntries, herr]
    exact .error (ih entity he err herr)
  | case8 e key raw rest first hfirst ih ihrest =>
    rw [readEntries, hfirst]
    exact (ihrest he).map _

lemma readFilter_failsWith (hbuild : build defs = .ok s) (hentity : s.isRegistered entity = true) (raw : Json) :
    FailsWith IsShape (s.readFilter entity raw) := by
  obtain ⟨e, he⟩ := isRegistered_iff.mp hentity
  rw [readFilter, he]
  cases raw with
  | object members => exact (readEntries_failsWith hbuild he members).map _
  | _ => exact .error (isShape _ _ _)

end Schema

end EntityQuery
