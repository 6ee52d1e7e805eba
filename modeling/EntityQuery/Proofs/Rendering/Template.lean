import EntityQuery.Binding.Slots
import Mathlib.Algebra.GroupWithZero.Nat
import Mathlib.Data.List.Count
import Mathlib.Tactic.Common

/-! Texts with holes. The holes are numbered from left to right when the text is filled in, and the templates of
a list of items, with any text between them, put the holes of each item behind those of the items before. -/

namespace EntityQuery

inductive Piece
  | fixed (text : String)
  | hole
deriving DecidableEq, Repr

abbrev Template := List Piece

namespace Template

def holes (t : Template) : Nat :=
  t.count .hole

def fill : Template → Nat → String
  | [], _ => ""
  | .fixed s :: rest, n => s ++ fill rest n
  | .hole :: rest, n => placeholder n ++ fill rest (n + 1)

def isBlank (t : Template) : Bool :=
  t.all fun p => p = .fixed ""

def fillAll : List Template → Nat → List String
  | [], _ => []
  | t :: ts, n => t.fill n :: fillAll ts (n + t.holes)

def join (separator : String) (ts : List Template) : Template :=
  [.fixed separator].intercalate (ts.filter fun t : Template => ¬ t.isBlank)

@[simp] lemma holes_nil : holes [] = 0 :=
  rfl

@[simp] lemma holes_fixed (s : String) (t : Template) : holes (.fixed s :: t) = t.holes :=
  List.count_cons_of_ne (by simp)

@[simp] lemma holes_hole (t : Template) : holes (.hole :: t) = t.holes + 1 :=
  List.count_cons_self

@[simp] lemma holes_append (t u : Template) : holes (t ++ u) = t.holes + u.holes :=
  List.count_append

lemma fill_append (t u : Template) (n : Nat) : fill (t ++ u) n = t.fill n ++ u.fill (n + t.holes) := by
  induction t generalizing n with
  | nil => simp [fill]
  | cons p t ih =>
    cases p with
    | fixed s => simp only [List.cons_append, fill, ih, holes_fixed, String.append_assoc]
    | hole => simp only [List.cons_append, fill, ih, holes_hole, String.append_assoc, Nat.add_assoc, Nat.add_comm 1]

lemma fill_eq_empty_iff (t : Template) (n : Nat) : t.fill n = "" ↔ t.isBlank := by
  induction t generalizing n with
  | nil => simp [fill, isBlank]
  | cons p t ih =>
    rw [isBlank] at ih
    cases p with
    | fixed s => simp [fill, isBlank, ih]
    | hole => simp [fill, isBlank, placeholder]

lemma holes_of_isBlank {t : Template} (h : t.isBlank) : t.holes = 0 := by
  apply List.count_eq_zero.mpr
  intro hmem
  have hblank := List.all_eq_true.mp h .hole hmem
  simp at hblank

lemma intercalate_fillAll (separator : String) (ts : List Template) (n : Nat) :
    separator.intercalate (fillAll ts n) = fill ([.fixed separator].intercalate ts) n := by
  induction ts generalizing n with
  | nil => simp [fillAll, fill]
  | cons t ts ih =>
    cases ts with
    | nil => simp [fillAll]
    | cons u us =>
      rw [List.intercalate_cons_cons, fill_append, fill_append, holes_append, ← ih]
      simp [fillAll, fill]

lemma filter_fillAll (ts : List Template) (n : Nat) :
    (fillAll ts n).filter (fun s => s ≠ "") = fillAll (ts.filter fun t : Template => ¬ t.isBlank) n := by
  induction ts generalizing n with
  | nil => rfl
  | cons t ts ih =>
    rw [fillAll, List.filter_cons, List.filter_cons, ih]
    by_cases h : t.isBlank
    · simp [(fill_eq_empty_iff t n).mpr h, h, holes_of_isBlank h]
    · simp [mt (fill_eq_empty_iff t n).mp h, h, fillAll]

lemma isEmpty_filter_fillAll (ts : List Template) (n : Nat) :
    ((fillAll ts n).filter fun s => s ≠ "").isEmpty = ts.all isBlank := by
  induction ts generalizing n with
  | nil => rfl
  | cons t ts ih =>
    rw [fillAll, List.filter_cons, List.all_cons, ← ih (n + t.holes)]
    by_cases h : t.isBlank
    · simp [(fill_eq_empty_iff t n).mpr h, h]
    · simp [mt (fill_eq_empty_iff t n).mp h, h]

lemma intercalate_filter_fillAll (separator : String) (ts : List Template) (n : Nat) :
    separator.intercalate ((fillAll ts n).filter fun s => s ≠ "") = (join separator ts).fill n := by
  rw [filter_fillAll, intercalate_fillAll, join]

/-- `Lists f t xs`: the template consists of the templates of the items in order, with text between. -/
inductive Lists {α : Type} (f : α → Template) : Template → List α → Prop
  | nil : Lists f [] []
  | fixed {t : Template} {xs : List α} (s : String) (h : Lists f t xs) : Lists f (.fixed s :: t) xs
  | item {t : Template} {xs : List α} (x : α) (h : Lists f t xs) : Lists f (f x ++ t) (x :: xs)

section Lists

variable {α : Type} {f : α → Template} {t u : Template} {xs ys : List α}

lemma Lists.of_item (x : α) : Lists f (f x) [x] := by
  simpa using Lists.item x .nil

lemma Lists.append (ht : Lists f t xs) (hu : Lists f u ys) : Lists f (t ++ u) (xs ++ ys) := by
  induction ht with
  | nil => exact hu
  | fixed s _ ih => exact .fixed s ih
  | item x _ ih =>
    rw [List.append_assoc]
    exact .item x ih

lemma Lists.intercalate {β : Type} {g : β → Template} {items : β → List α} (separator : String) (bs : List β)
    (h : ∀ b ∈ bs, Lists f (g b) (items b)) :
    Lists f ([.fixed separator].intercalate (bs.map g)) (bs.flatMap items) := by
  induction bs with
  | nil => exact .nil
  | cons b bs ih =>
    obtain ⟨hb, hbs⟩ := List.forall_mem_cons.mp h
    rw [List.flatMap_cons]
    cases bs with
    | nil => simpa using hb
    | cons c cs =>
      rw [List.map_cons, List.map_cons, List.intercalate_cons_cons, List.append_assoc]
      exact hb.append (.fixed separator (ih hbs))

lemma Lists.holes (h : Lists f t xs) : t.holes = (xs.map fun x => (f x).holes).sum := by
  induction h with
  | nil => rfl
  | fixed s _ ih => rw [holes_fixed, ih]
  | item x _ ih => rw [holes_append, ih, List.map_cons, List.sum_cons]

lemma Lists.exists_append {pre post : List α} {x : α} (h : Lists f t (pre ++ x :: post)) :
    ∃ before after, t = before ++ f x ++ after ∧ Lists f before pre ∧ Lists f after post := by
  generalize hxs : pre ++ x :: post = xs at h
  induction h generalizing pre with
  | nil => simp at hxs
  | fixed s _ ih =>
    obtain ⟨before, after, rfl, hbefore, hafter⟩ := ih hxs
    exact ⟨.fixed s :: before, after, rfl, .fixed s hbefore, hafter⟩
  | @item t xs y h ih =>
    cases pre with
    | nil =>
      obtain ⟨rfl, rfl⟩ := List.cons.inj hxs
      exact ⟨[], t, rfl, .nil, h⟩
    | cons z pre =>
      obtain ⟨rfl, htail⟩ := List.cons.inj hxs
      obtain ⟨before, after, rfl, hbefore, hafter⟩ := ih htail
      exact ⟨f z ++ before, after, by simp, .item z hbefore, hafter⟩

lemma Lists.exists_of_lt_holes (h : Lists f t xs) {j : Nat} (hj : j < t.holes) :
    ∃ pre x post before after i, xs = pre ++ x :: post ∧ t = before ++ f x ++ after ∧ Lists f before pre ∧
      i < (f x).holes ∧ j = before.holes + i := by
  induction h generalizing j with
  | nil => exact absurd hj (Nat.not_lt_zero j)
  | fixed s _ ih =>
    obtain ⟨pre, x, post, before, after, i, rfl, rfl, hbefore, hi, rfl⟩ := ih (holes_fixed s _ ▸ hj)
    exact ⟨pre, x, post, .fixed s :: before, after, i, rfl, rfl, .fixed s hbefore, hi, by rw [holes_fixed]⟩
  | @item t xs y h ih =>
    rw [holes_append] at hj
    by_cases hy : j < (f y).holes
    · exact ⟨[], y, xs, [], t, j, rfl, rfl, .nil, hy, by simp⟩
    · have hrest : j - (f y).holes < t.holes := by omega
      obtain ⟨pre, x, post, before, after, i, rfl, rfl, hbefore, hi, hj⟩ := ih hrest
      refine ⟨y :: pre, x, post, f y ++ before, after, i, rfl, by simp, .item y hbefore, hi, ?_⟩
      rw [holes_append]
      omega

lemma lists_intercalate (separator : String) (ts : List Template) :
    Lists id ([.fixed separator].intercalate ts) ts := by
  simpa using Lists.intercalate separator ts fun t _ => Lists.of_item (f := id) t

lemma Lists.eq_nil_of_isBlank (hf : ∀ x, ¬ (f x).isBlank) (h : Lists f t xs) (ht : t.isBlank) : xs = [] := by
  cases xs with
  | nil => rfl
  | cons x xs =>
    have hfirst : Lists f t ([] ++ x :: xs) := h
    obtain ⟨before, after, rfl, -, -⟩ := hfirst.exists_append
    apply absurd _ (hf x)
    simp only [isBlank, List.all_append, Bool.and_eq_true] at ht ⊢
    exact ht.1.2

lemma Lists.join {β : Type} {g : β → Template} {items : β → List α} (hf : ∀ x, ¬ (f x).isBlank)
    (separator : String) (bs : List β) (h : ∀ b ∈ bs, Lists f (g b) (items b)) :
    Lists f (join separator (bs.map g)) (bs.flatMap items) := by
  have hitems : (bs.filter fun b => ¬ (g b).isBlank).flatMap items = bs.flatMap items := by
    induction bs with
    | nil => rfl
    | cons b bs ih =>
      obtain ⟨hb, hbs⟩ := List.forall_mem_cons.mp h
      rw [List.filter_cons, List.flatMap_cons, ← ih hbs]
      by_cases hblank : (g b).isBlank
      · simp [hblank, hb.eq_nil_of_isBlank hf hblank]
      · simp [hblank]
  rw [← hitems, Template.join, List.filter_map]
  exact Lists.intercalate separator _ fun b hb => h b ((List.mem_filter.mp hb).1)

end Lists

lemma sum_holes_filter (ts : List Template) :
    ((ts.filter fun t : Template => ¬ t.isBlank).map holes).sum = (ts.map holes).sum := by
  induction ts with
  | nil => rfl
  | cons t ts ih =>
    rw [List.filter_cons, List.map_cons, List.sum_cons, ← ih]
    by_cases h : t.isBlank
    · simp [h, holes_of_isBlank h]
    · simp [h]

lemma holes_join (separator : String) (ts : List Template) :
    (join separator ts).holes = (ts.map holes).sum := by
  rw [join, (lists_intercalate separator _).holes]
  exact sum_holes_filter ts

lemma exists_join_append (separator : String) (ts us : List Template) {t : Template} (h : ¬ t.isBlank) :
    ∃ before after, join separator (ts ++ t :: us) = before ++ t ++ after ∧
      before.holes = (ts.map holes).sum ∧ after.holes = (us.map holes).sum := by
  have hlists := lists_intercalate separator ((ts ++ t :: us).filter fun t : Template => ¬ t.isBlank)
  rw [List.filter_append, List.filter_cons_of_pos (by simpa using h)] at hlists
  obtain ⟨before, after, heq, hbefore, hafter⟩ := hlists.exists_append
  refine ⟨before, after, ?_, ?_, ?_⟩
  · rw [join, List.filter_append, List.filter_cons_of_pos (by simpa using h), heq]
    rfl
  · rw [hbefore.holes]
    exact sum_holes_filter ts
  · rw [hafter.holes]
    exact sum_holes_filter us

end Template

end EntityQuery
