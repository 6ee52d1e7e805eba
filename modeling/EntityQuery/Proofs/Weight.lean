import EntityQuery.Proofs.Outcome
import Mathlib.Algebra.BigOperators.Group.List.Basic
import Mathlib.Algebra.Order.Group.Multiset
import Mathlib.Algebra.Order.Monoid.Unbundled.WithTop

/-! Computations weighed by what they give. A failure has the weight `⊤`, which absorbs every other, so the weights
of computations in a row add up, and the sum does not tell in which order they were run. -/

namespace EntityQuery.Outcome

variable {ε α β γ M : Type}

def weigh (w : α → M) : Except ε α → WithTop M
  | .ok a => w a
  | .error _ => ⊤

lemma weigh_eq_top_iff {w : α → M} {x : Except ε α} : weigh w x = ⊤ ↔ ¬ ∃ a, x = .ok a := by
  cases x <;> simp [weigh]

lemma weigh_map (w : β → M) (f : α → β) (x : Except ε α) : weigh w (x.map f) = weigh (fun a => w (f a)) x := by
  cases x <;> rfl

section Sum

variable [AddCommMonoid M]

lemma weigh_bind_bind {u : α → M} {v : β → M} {w : γ → M} {f : α → β → γ} (h : ∀ a b, w (f a b) = u a + v b)
    (x : Except ε α) (y : Except ε β) :
    weigh w (x >>= fun a => y >>= fun b => .ok (f a b)) = weigh u x + weigh v y := by
  cases x with
  | error err => exact (WithTop.top_add _).symm
  | ok a =>
    cases y with
    | error err => exact (WithTop.add_top _).symm
    | ok b => exact congrArg WithTop.some (h a b)

lemma weigh_mapM (w : β → M) (f : α → Except ε β) (xs : List α) :
    weigh (fun ys => (ys.map w).sum) (xs.mapM f) = (xs.map fun x => weigh w (f x)).sum := by
  induction xs with
  | nil => rfl
  | cons x xs ih =>
    rw [List.mapM_cons, List.map_cons, List.sum_cons, ← ih]
    exact weigh_bind_bind (fun b bs => by rw [List.map_cons, List.sum_cons]) (f x) (xs.mapM f)

end Sum

section Bag

def bag : Except ε (List α) → WithTop (Multiset α) :=
  weigh fun xs => (xs : Multiset α)

lemma bag_append (x y : Except ε (List α)) :
    bag (x >>= fun xs => y >>= fun ys => .ok (xs ++ ys)) = bag x + bag y :=
  weigh_bind_bind (fun xs ys => (Multiset.coe_add xs ys).symm) x y

lemma bag_forM (f : α → Except ε Unit) (xs : List α) :
    bag (xs.forM f >>= fun _ => .ok xs) = (xs.map fun x => weigh (fun _ => ({x} : Multiset α)) (f x)).sum := by
  induction xs with
  | nil => rfl
  | cons x xs ih =>
    have hsplit : ((x :: xs).forM f >>= fun _ => .ok (x :: xs)) =
        (f x >>= fun _ => (xs.forM f >>= fun _ => .ok xs) >>= fun ys => .ok (x :: ys)) := by
      change (f x >>= fun _ => xs.forM f) >>= _ = _
      cases f x with
      | error err => rfl
      | ok u => cases xs.forM f <;> rfl
    rw [hsplit, List.map_cons, List.sum_cons, ← ih]
    have hcons : ∀ (_ : Unit) (ys : List α), ((x :: ys : List α) : Multiset α) = {x} + (ys : Multiset α) :=
      fun _ ys => (Multiset.singleton_add x ys).symm
    exact weigh_bind_bind hcons (f x) _

lemma bag_eq_bag_iff {x y : Except ε (List α)} : bag x = bag y ↔
    ((∃ err, x = .error err) ∧ ∃ err, y = .error err) ∨ ∃ xs ys, x = .ok xs ∧ y = .ok ys ∧ xs.Perm ys := by
  cases x <;> cases y <;> simp [bag, weigh]

end Bag

end EntityQuery.Outcome
