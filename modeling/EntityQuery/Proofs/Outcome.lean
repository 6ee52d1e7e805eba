import Mathlib.Tactic.Common

/-! Computations that may fail: when a mapped one or two in a row give a value, what mapping
does to them, whether they fail, and with which errors. -/

namespace EntityQuery.Outcome

variable {ε α β : Type}

lemma map_eq_ok_iff {x : Except ε α} {f : α → β} {b : β} :
    x.map f = .ok b ↔ ∃ a, x = .ok a ∧ f a = b := by
  cases x <;> simp [Except.map]

lemma bind_eq_ok_iff {x : Except ε α} {f : α → Except ε β} {b : β} :
    x >>= f = .ok b ↔ ∃ a, x = .ok a ∧ f a = .ok b := by
  cases x <;> simp [bind, Except.bind]

lemma bind_eq_error_iff {x : Except ε α} {f : α → Except ε β} {err : ε} :
    x >>= f = .error err ↔ x = .error err ∨ ∃ a, x = .ok a ∧ f a = .error err := by
  cases x <;> simp [bind, Except.bind]

lemma map_eq_error_iff {x : Except ε α} {f : α → β} {err : ε} : x.map f = .error err ↔ x = .error err := by
  cases x <;> simp [Except.map]

lemma map_map {γ : Type} (x : Except ε α) (f : α → β) (g : β → γ) : (x.map f).map g = x.map fun a => g (f a) := by
  cases x <;> rfl

lemma ok_bind (a : α) (f : α → Except ε β) : (Except.ok a >>= f) = f a :=
  rfl

lemma map_bind {γ : Type} (x : Except ε α) (f : α → Except ε β) (g : β → γ) :
    (x >>= f).map g = x >>= fun a => (f a).map g := by
  cases x <;> rfl

lemma map_map_congr {γ δ : Type} {f : α → β} {g : β → δ} {f' : α → γ} {g' : γ → δ}
    (h : ∀ a, g (f a) = g' (f' a)) (x : Except ε α) : (x.map f).map g = (x.map f').map g' := by
  cases x with
  | error err => rfl
  | ok a => exact congrArg Except.ok (h a)

lemma bind_ok_eq_map (x : Except ε α) (f : α → β) : (x >>= fun a => .ok (f a)) = x.map f := by
  cases x <;> rfl

lemma map_mapError {ε' : Type} (x : Except ε α) (f : α → β) (g : ε → ε') :
    (x.mapError g).map f = (x.map f).mapError g := by
  cases x <;> rfl

lemma mapError_bind {ε' : Type} (x : Except ε α) (f : α → Except ε β) (g : ε → ε') :
    (x >>= f).mapError g = x.mapError g >>= fun a => (f a).mapError g := by
  cases x <;> rfl

lemma mapError_eq_ok_iff {ε' : Type} {x : Except ε α} {g : ε → ε'} {a : α} : x.mapError g = .ok a ↔ x = .ok a := by
  cases x <;> simp [Except.mapError]

lemma mapError_eq_error_iff {ε' : Type} {x : Except ε α} {g : ε → ε'} {err : ε'} :
    x.mapError g = .error err ↔ ∃ e, x = .error e ∧ err = g e := by
  cases x <;> simp [Except.mapError, eq_comm]

lemma mapError_bind_ok_eq_error_iff {ε' : Type} {x : Except ε α} {g : ε → ε'} {f : α → β} {err : ε'} :
    (x.mapError g >>= fun a => .ok (f a)) = .error err ↔ ∃ e, x = .error e ∧ err = g e := by
  rw [← mapError_eq_error_iff]
  cases x <;> simp [bind, Except.bind, Except.mapError]

lemma map_cons (x : Except ε α) (xs : Except ε (List α)) (f : α → β) :
    (x >>= fun a => xs >>= fun as => .ok (a :: as)).map (List.map f) =
      x.map f >>= fun a => xs.map (List.map f) >>= fun as => .ok (a :: as) := by
  cases x <;> cases xs <;> rfl

def verdict (x : Except ε α) : Except ε Unit :=
  x.map fun _ => ()

lemma verdict_mapError {ε' : Type} (x : Except ε α) (g : ε → ε') :
    verdict (x.mapError g) = (verdict x).mapError g :=
  map_mapError x _ g

lemma verdict_eq_ok_iff {x : Except ε α} : verdict x = .ok () ↔ ∃ a, x = .ok a := by
  cases x <;> simp [verdict, Except.map]

lemma verdict_eq_error_iff {x : Except ε α} {err : ε} : verdict x = .error err ↔ x = .error err := by
  cases x <;> simp [verdict, Except.map]

lemma eq_error_iff_of_verdict_eq {x : Except ε α} {y : Except ε β} (h : verdict x = verdict y) {err : ε} :
    x = .error err ↔ y = .error err := by
  rw [← verdict_eq_error_iff, h, verdict_eq_error_iff]

lemma verdict_bind {x : Except ε α} {f : α → Except ε β} {y : Except ε Unit}
    (h : ∀ a, verdict (f a) = y) : verdict (x >>= f) = verdict x >>= fun _ => y := by
  cases x with
  | error err => rfl
  | ok a => exact h a

lemma verdict_bind_ok (x : Except ε α) (f : α → β) : verdict (x >>= fun a => .ok (f a)) = verdict x := by
  cases x <;> rfl

lemma verdict_map (x : Except ε α) (f : α → β) : verdict (x.map f) = verdict x := by
  cases x <;> rfl

lemma forM_eq_ok_iff {xs : List α} {f : α → Except ε Unit} :
    xs.forM f = .ok () ↔ ∀ x ∈ xs, f x = .ok () := by
  induction xs with
  | nil => simp [pure, Except.pure]
  | cons x xs ih =>
    change (f x >>= fun _ => xs.forM f) = .ok () ↔ _
    rw [bind_eq_ok_iff, List.forall_mem_cons, ih]
    exact ⟨fun ⟨_, hx, hxs⟩ => ⟨hx, hxs⟩, fun ⟨hx, hxs⟩ => ⟨(), hx, hxs⟩⟩

lemma exists_of_forM_eq_error {xs : List α} {f : α → Except ε Unit} {err : ε} (h : xs.forM f = .error err) :
    ∃ x ∈ xs, f x = .error err := by
  induction xs with
  | nil => cases h
  | cons x xs ih =>
    change (f x >>= fun _ => xs.forM f) = .error err at h
    cases hx : f x with
    | error e =>
      rw [hx] at h
      obtain rfl := Except.error.inj h
      exact ⟨x, List.mem_cons_self, hx⟩
    | ok u =>
      rw [hx] at h
      obtain ⟨y, hy, hfy⟩ := ih h
      exact ⟨y, List.mem_cons_of_mem _ hy, hfy⟩

lemma forM_eq_error_iff {xs : List α} {f : α → Except ε Unit} {err : ε} : forM xs f = .error err ↔
    ∃ pre x post, xs = pre ++ x :: post ∧ forM pre f = .ok () ∧ f x = .error err := by
  constructor
  · intro h
    induction xs with
    | nil => cases h
    | cons x xs ih =>
      rw [List.forM_cons] at h
      cases hx : f x with
      | error e =>
        rw [hx] at h
        exact ⟨[], x, xs, rfl, rfl, hx.trans h⟩
      | ok u =>
        rw [hx] at h
        obtain ⟨pre, y, post, rfl, hpre, hy⟩ := ih h
        exact ⟨x :: pre, y, post, rfl, by rw [List.forM_cons, hx]; exact hpre, hy⟩
  · rintro ⟨pre, x, post, rfl, hpre, hx⟩
    rw [List.forM_append, hpre, List.forM_cons, hx]
    rfl

section MapM

variable {xs : List α} {f : α → Except ε β} {err : ε}

lemma verdict_mapM (xs : List α) (f : α → Except ε β) :
    verdict (xs.mapM f) = forM xs fun x => verdict (f x) := by
  induction xs with
  | nil => rfl
  | cons x xs ih =>
    rw [List.mapM_cons, List.forM_cons, ← ih]
    cases f x with
    | error e => rfl
    | ok b => exact verdict_bind_ok _ _

lemma exists_of_mapM_eq_ok {ys : List β} (h : xs.mapM f = .ok ys) {x : α} (hx : x ∈ xs) : ∃ y, f x = .ok y := by
  have hall := (verdict_mapM xs f).symm.trans (verdict_eq_ok_iff.mpr ⟨ys, h⟩)
  rw [← List.forM_eq_forM, forM_eq_ok_iff] at hall
  exact verdict_eq_ok_iff.mp (hall x hx)

lemma mapM_eq_error_iff : xs.mapM f = .error err ↔
    ∃ pre x post, xs = pre ++ x :: post ∧ (∀ a ∈ pre, ∃ b, f a = .ok b) ∧ f x = .error err := by
  rw [← verdict_eq_error_iff, verdict_mapM, forM_eq_error_iff]
  simp only [← List.forM_eq_forM, forM_eq_ok_iff, verdict_eq_ok_iff, verdict_eq_error_iff]

end MapM

section Errors

variable {P : ε → Prop} {x : Except ε α}

def FailsWith (P : ε → Prop) (x : Except ε α) : Prop :=
  ∀ err, x = .error err → P err

lemma FailsWith.ok (a : α) : FailsWith P (.ok a : Except ε α) := by
  intro err h
  cases h

lemma FailsWith.error {err : ε} (h : P err) : FailsWith P (.error err : Except ε α) := by
  intro err' he
  exact Except.error.inj he ▸ h

lemma FailsWith.bind (hx : FailsWith P x) {f : α → Except ε β} (hf : ∀ a, x = .ok a → FailsWith P (f a)) :
    FailsWith P (x >>= f) := by
  cases x with
  | error err => exact .error (hx err rfl)
  | ok a => exact hf a rfl

lemma FailsWith.map (hx : FailsWith P x) (f : α → β) : FailsWith P (x.map f) := by
  cases x with
  | error err => exact .error (hx err rfl)
  | ok a => exact .ok (f a)

lemma FailsWith.mapError {ε' : Type} {f : ε' → ε} (h : ∀ err, P (f err)) (x : Except ε' α) :
    FailsWith P (x.mapError f) := by
  cases x with
  | error err => exact .error (h err)
  | ok a => exact .ok a

def valueUnless (fault : Option ε) (a : α) : Except ε α :=
  fault.elim (.ok a) .error

lemma valueUnless_eq_ok_iff {fault : Option ε} {a b : α} :
    valueUnless fault a = .ok b ↔ fault = none ∧ a = b := by
  cases fault <;> simp [valueUnless]

lemma valueUnless_eq_error_iff {fault : Option ε} {a : α} {err : ε} :
    valueUnless fault a = .error err ↔ fault = some err := by
  cases fault <;> simp [valueUnless]

lemma valueUnless_bind {fault fault' : Option ε} {a : α} {f : α → Except ε β} {b : β}
    (h : f a = valueUnless fault' b) : (valueUnless fault a >>= f) = valueUnless (fault.or fault') b := by
  cases fault with
  | none => exact h
  | some err => rfl

lemma forM_eq_valueUnless {xs : List α} {f : α → Except ε Unit} {fault : α → Option ε}
    (h : ∀ x ∈ xs, f x = valueUnless (fault x) ()) : forM xs f = valueUnless (xs.findSome? fault) () := by
  induction xs with
  | nil => rfl
  | cons x xs ih =>
    obtain ⟨hx, hxs⟩ := List.forall_mem_cons.mp h
    have hrest : (valueUnless (fault x) () >>= fun _ => forM xs f) =
        valueUnless ((fault x).or (xs.findSome? fault)) () := valueUnless_bind (ih hxs)
    rw [List.forM_cons, hx, hrest, List.findSome?_cons]
    cases fault x <;> rfl

lemma forM_flatMap (xs : List α) (g : α → List β) (f : β → Except ε Unit) :
    forM (xs.flatMap g) f = forM xs fun x => forM (g x) f := by
  induction xs with
  | nil => rfl
  | cons x xs ih => rw [List.flatMap_cons, List.forM_append, ih, List.forM_cons]

end Errors

end EntityQuery.Outcome
