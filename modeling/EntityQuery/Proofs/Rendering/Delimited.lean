import Mathlib.Data.List.Forall2
import Mathlib.Tactic.Common

/-! Texts that say where they end. Where two such texts begin the same, the items they stand for agree and so does
all that follows, and this carries over to items with a separator between them. -/

namespace EntityQuery

def Stops (rest : List Char) : Prop :=
  ∀ c ∈ rest.head?, c = ' ' ∨ c = ',' ∨ c = ')'

def Closes (rest : List Char) : Prop :=
  ∀ c ∈ rest.head?, c = ')'

def IsSeparator (sep : List Char) : Prop :=
  ∃ c rest, sep = c :: rest ∧ (c = ' ' ∨ c = ',')

/-- If two texts for items begin the same, with something that stops them behind, then the items are related and
the texts end at the same point. -/
def SelfDelimiting {α : Type} (writes : α → List Char → Prop) (agree : α → α → Prop) : Prop :=
  ∀ ⦃a b x y rest rest'⦄, writes a x → writes b y → Stops rest → Stops rest' → x ++ rest = y ++ rest' →
    agree a b ∧ rest = rest'

lemma Stops.of_closes {rest : List Char} (h : Closes rest) : Stops rest :=
  fun c hc => Or.inr (Or.inr (h c hc))

lemma closes_nil : Closes [] := by
  simp [Closes]

lemma closes_parenthesis (rest : List Char) : Closes (')' :: rest) := by
  simp [Closes]

lemma IsSeparator.stops {sep : List Char} (h : IsSeparator sep) (rest : List Char) : Stops (sep ++ rest) := by
  obtain ⟨c, tail, rfl, hc⟩ := h
  simp only [Stops, List.cons_append, List.head?_cons, Option.mem_some_iff, forall_eq']
  exact hc.imp_right Or.inl

lemma IsSeparator.not_closes {sep : List Char} (h : IsSeparator sep) (rest : List Char) : ¬ Closes (sep ++ rest) := by
  obtain ⟨c, tail, rfl, rfl | rfl⟩ := h <;> simp [Closes]

lemma append_inj_of_class {p : Char → Bool} {x y rest rest' : List Char} (hx : ∀ c ∈ x, p c) (hy : ∀ c ∈ y, p c)
    (hrest : ∀ c ∈ rest.head?, p c = false) (hrest' : ∀ c ∈ rest'.head?, p c = false)
    (h : x ++ rest = y ++ rest') : x = y ∧ rest = rest' := by
  have htake : ∀ {z s : List Char}, (∀ c ∈ z, p c) → (∀ c ∈ s.head?, p c = false) → (z ++ s).takeWhile p = z := by
    intro z s hz hs
    rw [List.takeWhile_append_of_pos hz]
    cases s with
    | nil => simp
    | cons c s => simp [hs c rfl]
  have hxy : x = y := by rw [← htake hx hrest, h, htake hy hrest']
  exact ⟨hxy, List.append_cancel_left (hxy ▸ h)⟩

lemma intercalate_cons_eq (sep x : List Char) (xs : List (List Char)) :
    sep.intercalate (x :: xs) = x ++ xs.flatMap (sep ++ ·) := by
  induction xs generalizing x with
  | nil => simp
  | cons y ys ih => rw [List.intercalate_cons_cons, ih, List.flatMap_cons, List.append_assoc, List.append_assoc]

namespace SelfDelimiting

variable {α : Type} {writes : α → List Char → Prop} {agree : α → α → Prop} {sep sep' rest rest' : List Char}
  {as bs : List α} {xs ys : List (List Char)}

lemma stops_tail (hsep : IsSeparator sep) (hrest : Closes rest) (xs : List (List Char)) :
    Stops (xs.flatMap (sep ++ ·) ++ rest) := by
  cases xs with
  | nil => exact .of_closes hrest
  | cons x xs =>
    rw [List.flatMap_cons, List.append_assoc, List.append_assoc]
    exact hsep.stops _

lemma tail (hdelim : SelfDelimiting writes agree) (hsep : IsSeparator sep) (hsep' : IsSeparator sep')
    (hheads : ∀ u v, sep ++ u = sep' ++ v → sep = sep') (hrest : Closes rest) (hrest' : Closes rest')
    (has : List.Forall₂ writes as xs) (hbs : List.Forall₂ writes bs ys)
    (h : xs.flatMap (sep ++ ·) ++ rest = ys.flatMap (sep' ++ ·) ++ rest') :
    List.Forall₂ agree as bs ∧ rest = rest' ∧ (as ≠ [] → sep = sep') := by
  induction has generalizing bs ys with
  | nil =>
    cases hbs with
    | nil => exact ⟨.nil, h, fun hne => absurd rfl hne⟩
    | cons =>
      rw [List.flatMap_nil, List.nil_append, List.flatMap_cons, List.append_assoc, List.append_assoc] at h
      exact absurd (h ▸ hrest) (hsep'.not_closes _)
  | @cons a x as xs ha _ ih =>
    cases hbs with
    | nil =>
      rw [List.flatMap_nil, List.nil_append, List.flatMap_cons, List.append_assoc, List.append_assoc] at h
      exact absurd (h ▸ hrest') (hsep.not_closes _)
    | @cons b y bs ys hb hbs =>
      simp only [List.flatMap_cons, List.append_assoc] at h
      -- both lists go on at the same point, so what stands there is the separator of both
      obtain rfl := hheads _ _ h
      obtain ⟨hab, htail⟩ := hdelim ha hb (stops_tail hsep hrest xs) (stops_tail hsep' hrest' ys)
        (List.append_cancel_left h)
      obtain ⟨hrel, hend, -⟩ := ih hbs htail
      exact ⟨.cons hab hrel, hend, fun _ => rfl⟩

lemma intercalate (hdelim : SelfDelimiting writes agree) (hsep : IsSeparator sep) (hsep' : IsSeparator sep')
    (hheads : ∀ u v, sep ++ u = sep' ++ v → sep = sep') (hrest : Closes rest) (hrest' : Closes rest')
    (has : List.Forall₂ writes as xs) (hbs : List.Forall₂ writes bs ys) (hne : as ≠ []) (hne' : bs ≠ [])
    (h : sep.intercalate xs ++ rest = sep'.intercalate ys ++ rest') :
    List.Forall₂ agree as bs ∧ rest = rest' ∧ (2 ≤ as.length → sep = sep') := by
  cases has with
  | nil => exact absurd rfl hne
  | @cons a x as xs ha has =>
    cases hbs with
    | nil => exact absurd rfl hne'
    | @cons b y bs ys hb hbs =>
      rw [intercalate_cons_eq, intercalate_cons_eq, List.append_assoc, List.append_assoc] at h
      obtain ⟨hab, htail⟩ := hdelim ha hb (stops_tail hsep hrest xs) (stops_tail hsep' hrest' ys) h
      obtain ⟨hrel, hend, hseps⟩ := hdelim.tail hsep hsep' hheads hrest hrest' has hbs htail
      refine ⟨.cons hab hrel, hend, fun hlen => hseps ?_⟩
      rintro rfl
      simp at hlen

end SelfDelimiting

end EntityQuery
