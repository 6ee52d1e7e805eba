import EntityQuery.Json.Basic
import EntityQuery.Proofs.Outcome

/-! Places in a JSON value, in the order of the document, and what it is for two values to be the same up to
a place. -/

namespace EntityQuery

inductive Place
  | here
  | key (i : Nat)
  | within (i : Nat) (p : Place)
deriving DecidableEq, Repr

namespace Place

/-- A value begins before what is inside it, and a key before its value. -/
def Before : Place → Place → Prop
  | here, here => False
  | here, key _ => True
  | here, within _ _ => True
  | key _, here => False
  | key i, key j => i < j
  | key i, within j _ => i ≤ j
  | within _ _, here => False
  | within i _, key j => i < j
  | within i p, within j q => i < j ∨ i = j ∧ p.Before q

def index? : Place → Option Nat
  | here => none
  | key i | within i _ => some i

def OfItem (i : Nat) (p : Place) : Prop :=
  p.index? = some i

variable {p q : Place} {i j : Nat}

lemma Before.asymm (h : p.Before q) : ¬ q.Before p := by
  induction p generalizing q with
  | here => cases q <;> simp_all [Before]
  | key i =>
    cases q with
    | here => cases h
    | key j | within j q =>
      simp only [Before] at h ⊢
      omega
  | within i p ih =>
    cases q with
    | here => cases h
    | key j =>
      simp only [Before] at h ⊢
      omega
    | within j q =>
      rintro (hlt | ⟨rfl, hq⟩)
      · rcases h with h | ⟨rfl, -⟩ <;> omega
      · rcases h with h | ⟨-, h⟩
        · omega
        · exact ih h hq

lemma OfItem.ne_here (h : p.OfItem i) : p ≠ here := by
  rintro rfl
  cases h

lemma OfItem.before (hp : p.OfItem i) (hq : q.OfItem j) (h : i < j) : p.Before q := by
  cases p with
  | here => cases hp
  | key =>
    obtain rfl := Option.some.inj hp
    cases q with
    | here => cases hq
    | key => exact Option.some.inj hq ▸ h
    | within => exact Nat.le_of_lt (Option.some.inj hq ▸ h)
  | within =>
    obtain rfl := Option.some.inj hp
    cases q with
    | here => cases hq
    | key => exact Option.some.inj hq ▸ h
    | within => exact Or.inl (Option.some.inj hq ▸ h)

end Place

structure Earliest {ε : Type} (faults : Place → ε → Prop) (p : Place) (err : ε) : Prop where
  fault : faults p err
  first : ∀ q err', faults q err' → (q = p ∧ err' = err) ∨ p.Before q

section Earliest

variable {ε α : Type} {faults : Place → ε → Prop} {p q : Place} {err err' : ε}

lemma Earliest.unique (h : Earliest faults p err) (h' : Earliest faults q err') : q = p ∧ err' = err := by
  rcases h.first q err' h'.fault with heq | hbefore
  · exact heq
  · rcases h'.first p err h.fault with ⟨rfl, rfl⟩ | hbefore'
    · exact ⟨rfl, rfl⟩
    · exact absurd hbefore' hbefore.asymm

def faultsOfItems (item : Nat → α → Place → ε → Prop) (xs : List α) (p : Place) (err : ε) : Prop :=
  ∃ pre x post, xs = pre ++ x :: post ∧ item pre.length x p err

def SameItems (same : Nat → Place → α → α → Prop) (p : Place) (xs xs' : List α) : Prop :=
  ∃ pre x post x' post', xs = pre ++ x :: post ∧ xs' = pre ++ x' :: post' ∧ p.OfItem pre.length ∧
    same pre.length p x x'

lemma Earliest.of_item {item : Nat → α → Place → ε → Prop} {pre post : List α} {x : α}
    (hplace : ∀ i a q err', item i a q err' → q.OfItem i)
    (hpre : ∀ a ∈ pre, ∀ i q err', ¬ item i a q err') (hx : Earliest (item pre.length x) p err) :
    Earliest (faultsOfItems item (pre ++ x :: post)) p err := by
  refine ⟨⟨pre, x, post, rfl, hx.fault⟩, ?_⟩
  rintro q err' ⟨pre', a, post', hsplit, ha⟩
  rcases Nat.lt_trichotomy pre'.length pre.length with hlt | heq | hgt
  · have hget : (pre ++ x :: post)[pre'.length]? = some a := by rw [hsplit]; simp
    rw [List.getElem?_append_left hlt] at hget
    exact absurd ha (hpre a (List.mem_of_getElem? hget) _ _ _)
  · obtain ⟨rfl, hm⟩ := List.append_inj hsplit heq.symm
    obtain ⟨rfl, -⟩ := List.cons.inj hm
    exact hx.first q err' ha
  · exact Or.inr ((hplace _ _ _ _ hx.fault).before (hplace _ _ _ _ ha) hgt)

end Earliest

namespace Json

def memberAt? (raw : Json) (i : Nat) : Option (String × Json) :=
  match raw with
  | object members => members[i]?
  | _ => none

lemma memberAt?_append_cons (pre post : List (String × Json)) (m : String × Json) :
    (object (pre ++ m :: post)).memberAt? pre.length = some m := by
  simp [memberAt?]

/-- The two values agree in all that comes before the place and in what stands there; whatever follows in the
document may differ. -/
inductive SameUpTo : Place → Json → Json → Prop
  | here (raw : Json) : SameUpTo .here raw raw
  | key (pre post post' : List (String × Json)) (key : String) (raw raw' : Json) :
      SameUpTo (.key pre.length) (.object (pre ++ (key, raw) :: post)) (.object (pre ++ (key, raw') :: post'))
  | member {p : Place} {raw raw' : Json} (pre post post' : List (String × Json)) (key : String)
      (h : SameUpTo p raw raw') : SameUpTo (.within pre.length p) (.object (pre ++ (key, raw) :: post))
        (.object (pre ++ (key, raw') :: post'))
  | element {p : Place} {raw raw' : Json} (pre post post' : List Json) (h : SameUpTo p raw raw') :
      SameUpTo (.within pre.length p) (.array (pre ++ raw :: post)) (.array (pre ++ raw' :: post'))

lemma SameUpTo.eq_of_here {raw raw' : Json} (h : SameUpTo .here raw raw') : raw' = raw := by
  cases h
  rfl

def SameMember (i : Nat) (p : Place) (m m' : String × Json) : Prop :=
  m'.1 = m.1 ∧ ∀ q, p = .within i q → SameUpTo q m.2 m'.2

def SameElement (i : Nat) (p : Place) (raw raw' : Json) : Prop :=
  ∀ q, p = .within i q → SameUpTo q raw raw'

lemma SameUpTo.exists_object {p : Place} {ms : List (String × Json)} {raw : Json}
    (h : SameUpTo p (.object ms) raw) : ∃ ms', raw = .object ms' := by
  cases h <;> exact ⟨_, rfl⟩

lemma SameUpTo.exists_members {p : Place} {ms : List (String × Json)} {raw : Json}
    (h : SameUpTo p (.object ms) raw) (hp : p ≠ .here) :
    ∃ ms', raw = .object ms' ∧ SameItems SameMember p ms ms' := by
  cases h with
  | here => exact absurd rfl hp
  | key pre post post' key v v' =>
    exact ⟨_, rfl, pre, (key, v), post, (key, v'), post', rfl, rfl, rfl, rfl, by simp⟩
  | @member q v v' pre post post' key h =>
    refine ⟨_, rfl, pre, (key, v), post, (key, v'), post', rfl, rfl, rfl, rfl, ?_⟩
    exact fun r hr => (Place.within.inj hr).2 ▸ h

lemma SameUpTo.exists_elements {p : Place} {elements : List Json} {raw : Json}
    (h : SameUpTo p (.array elements) raw) (hp : p ≠ .here) :
    ∃ elements', raw = .array elements' ∧ SameItems SameElement p elements elements' := by
  cases h with
  | here => exact absurd rfl hp
  | @element q v v' pre post post' h =>
    refine ⟨_, rfl, pre, v, post, v', post', rfl, rfl, rfl, ?_⟩
    exact fun r hr => (Place.within.inj hr).2 ▸ h

lemma members_induction {P : Json → Prop} (h : ∀ raw, (∀ ms, raw = .object ms → ∀ m ∈ ms, P m.2) → P raw)
    (raw : Json) : P raw := by
  induction hn : sizeOf raw using Nat.strongRecOn generalizing raw with
  | ind n ih =>
    subst hn
    refine h raw ?_
    rintro ms rfl ⟨key, v⟩ hm
    have hlt := List.sizeOf_lt_of_mem hm
    refine ih (sizeOf v) ?_ v rfl
    simp only [Prod.mk.sizeOf_spec, Json.object.sizeOf_spec] at hlt ⊢
    omega

end Json

end EntityQuery
