import EntityQuery.Proofs.Outcome
import EntityQuery.Proofs.Rendering.Delimited
import EntityQuery.Settings.Load
import Mathlib.Data.List.TakeWhile

/-! Variables in the text of a setting. The text alone says which of its characters stand for themselves and which
variables it refers to, in one way only. The environment then has one part: to put in a value for each reference,
or to lack one, and the first that it lacks is what the text fails with. -/

namespace EntityQuery.Expansion

open Outcome (valueUnless)

/-- A character that stands for itself, or a reference in one of its two forms. The brace of a reference may be
missing at the end. -/
inductive Piece
  | literal (c : Char)
  | braced (name : List Char) (closed : Bool)
  | bare (name : List Char)
deriving DecidableEq, Repr

def closing (closed : Bool) : List Char :=
  if closed then ['\x7d'] else []

def NoNameAhead (rest : List Char) : Prop :=
  ∀ c ∈ rest.head?, isNameChar c = false

namespace Piece

def written : Piece → List Char
  | literal c => [c]
  | braced name closed => '$' :: '\x7b' :: (name ++ closing closed)
  | bare name => '$' :: name

def FitsBefore (rest : List Char) : Piece → Prop
  | literal c => c = '$' → rest.head? ≠ some '\x7b' ∧ NoNameAhead rest
  | braced name closed => (∀ c ∈ name, c ≠ '\x7d') ∧ (closed = false → rest = [])
  | bare name => name ≠ [] ∧ (∀ c ∈ name, isNameChar c) ∧ NoNameAhead rest

def reference? : Piece → Option String
  | literal _ => none
  | braced name _ | bare name => some (String.ofList name)

def unset? (lookup : String → Option String) (p : Piece) : Option String :=
  p.reference?.filter fun name => (lookup name).isNone

def value (lookup : String → Option String) : Piece → List Char
  | literal c => [c]
  | braced name _ | bare name => ((lookup (String.ofList name)).getD "").toList

lemma written_ne_nil (p : Piece) : p.written ≠ [] := by
  cases p <;> simp [written]

end Piece

inductive Splits : List Piece → List Char → Prop
  | nil : Splits [] []
  | cons {p ps rest} : p.FitsBefore rest → Splits ps rest → Splits (p :: ps) (p.written ++ rest)

def references (ps : List Piece) : List String :=
  ps.filterMap Piece.reference?

section Split

variable {p q : Piece} {name rest rest' : List Char} {closed : Bool}

lemma ahead_dropWhile (class? : Char → Bool) (cs : List Char) :
    ∀ c ∈ (cs.dropWhile class?).head?, class? c = false := by
  intro c hc
  have hnot := List.head?_dropWhile_not class? cs
  rwa [Option.mem_def.mp hc] at hnot

lemma span_append {class? : Char → Bool} (hname : ∀ c ∈ name, class? c)
    (hahead : ∀ c ∈ rest.head?, class? c = false) :
    (name ++ rest).takeWhile class? = name ∧ (name ++ rest).dropWhile class? = rest :=
  append_inj_of_class (fun _ => List.mem_takeWhile_imp) hname (ahead_dropWhile class? _) hahead
    List.takeWhile_append_dropWhile

lemma isNameChar_brace : isNameChar '\x7b' = false := by
  decide +kernel

lemma notBrace_of_forall (h : ∀ c ∈ name, c ≠ '\x7d') : ∀ c ∈ name, notBrace c := by
  simpa [notBrace] using h

lemma closing_ahead (h : closed = false → rest = []) :
    ∀ c ∈ (closing closed ++ rest).head?, notBrace c = false := by
  cases closed with
  | false => simp [closing, h]
  | true => simp [closing, notBrace]

lemma brace_ne_append (hname : ∀ c ∈ name, isNameChar c) (hne : name ≠ []) (cs : List Char) :
    '\x7b' :: cs ≠ name ++ rest := by
  obtain ⟨d, ds, rfl⟩ := List.exists_cons_of_ne_nil hne
  intro h
  obtain rfl : '\x7b' = d := List.head_eq_of_cons_eq h
  exact absurd (hname _ List.mem_cons_self) (by simp [isNameChar_brace])

namespace Piece.FitsBefore

lemma eq_literal {c : Char} (hc : (literal c).FitsBefore rest) (hq : q.FitsBefore rest')
    (h : c :: rest = q.written ++ rest') : q = literal c := by
  -- A reference begins with the same sign as the literal may, but not in front of the same text.
  cases q with
  | literal d => exact congrArg literal (List.head_eq_of_cons_eq h).symm
  | braced name closed =>
    obtain ⟨rfl, rfl⟩ : c = '$' ∧ rest = '\x7b' :: (name ++ closing closed ++ rest') := by
      simpa [written] using h
    exact absurd rfl (hc rfl).1
  | bare name =>
    obtain ⟨hne, hname, -⟩ := hq
    obtain ⟨d, ds, rfl⟩ := List.exists_cons_of_ne_nil hne
    obtain ⟨rfl, rfl⟩ : c = '$' ∧ rest = d :: (ds ++ rest') := by simpa [written] using h
    exact absurd (hname d List.mem_cons_self) (by simp [(hc rfl).2 d rfl])

lemma unique (hp : p.FitsBefore rest) (hq : q.FitsBefore rest') (h : p.written ++ rest = q.written ++ rest') :
    p = q ∧ rest = rest' := by
  suffices hpq : p = q by
    subst hpq
    exact ⟨rfl, List.append_cancel_left h⟩
  cases p with
  | literal c => exact (hp.eq_literal hq h).symm
  | braced name closed =>
    cases q with
    | literal c => exact hq.eq_literal hp h.symm
    | bare name' =>
      obtain ⟨hne, hname, -⟩ := hq
      exact absurd (List.tail_eq_of_cons_eq h) (brace_ne_append hname hne _)
    | braced name' closed' =>
      simp only [written, List.cons_append, List.append_assoc, List.cons.injEq, true_and] at h
      obtain ⟨rfl, htail⟩ := append_inj_of_class (notBrace_of_forall hp.1) (notBrace_of_forall hq.1)
        (closing_ahead hp.2) (closing_ahead hq.2) h
      cases closed <;> cases closed' <;> simp_all [closing, FitsBefore]
  | bare name =>
    obtain ⟨hne, hname, hahead⟩ := hp
    cases q with
    | literal c => exact hq.eq_literal ⟨hne, hname, hahead⟩ h.symm
    | braced name' closed' => exact absurd (List.tail_eq_of_cons_eq h).symm (brace_ne_append hname hne _)
    | bare name' =>
      obtain ⟨-, hname', hahead'⟩ := hq
      have hnames := append_inj_of_class hname hname' hahead hahead' (List.tail_eq_of_cons_eq h)
      exact congrArg bare hnames.1

end Piece.FitsBefore

lemma Splits.unique {ps qs : List Piece} {cs : List Char} (hps : Splits ps cs) (hqs : Splits qs cs) : ps = qs := by
  induction hps generalizing qs with
  | nil =>
    generalize hcs : ([] : List Char) = cs at hqs
    cases hqs with
    | nil => rfl
    | @cons q _ _ hq _ => exact absurd (List.append_eq_nil_iff.mp hcs.symm).1 q.written_ne_nil
  | @cons p ps rest hp _ ih =>
    generalize hcs : p.written ++ rest = cs at hqs
    cases hqs with
    | nil => exact absurd (List.append_eq_nil_iff.mp hcs).1 p.written_ne_nil
    | cons hq hrest =>
      obtain ⟨rfl, rfl⟩ := hp.unique hq hcs
      rw [ih hrest]

lemma exists_piece (c : Char) (cs : List Char) :
    ∃ (p : Piece) (rest : List Char), p.FitsBefore rest ∧ c :: cs = p.written ++ rest := by
  by_cases hc : c = '$'
  · subst hc
    -- What stands behind the sign decides between the two forms of a reference and the sign itself.
    by_cases hbrace : cs.head? = some '\x7b'
    · obtain ⟨ds, rfl⟩ := List.head?_eq_some_iff.mp hbrace
      have hname : ∀ d ∈ ds.takeWhile notBrace, d ≠ '\x7d' := fun d hd => by
        simpa [notBrace] using List.mem_takeWhile_imp hd
      have hds := List.takeWhile_append_dropWhile (p := notBrace) (l := ds)
      cases hdrop : ds.dropWhile notBrace with
      | nil =>
        refine ⟨.braced (ds.takeWhile notBrace) false, [], ⟨hname, fun _ => rfl⟩, ?_⟩
        simpa [Piece.written, closing, hdrop] using hds.symm
      | cons d rest =>
        obtain rfl : d = '\x7d' := by
          simpa [notBrace] using ahead_dropWhile notBrace ds d (by rw [hdrop]; rfl)
        refine ⟨.braced (ds.takeWhile notBrace) true, rest, ⟨hname, by simp⟩, ?_⟩
        simpa [Piece.written, closing, hdrop] using hds.symm
    · by_cases hahead : NoNameAhead cs
      · exact ⟨.literal '$', cs, fun _ => ⟨hbrace, hahead⟩, rfl⟩
      · obtain ⟨d, hd, hname⟩ : ∃ d, cs.head? = some d ∧ isNameChar d = true := by
          simpa [NoNameAhead] using hahead
        obtain ⟨ds, rfl⟩ := List.head?_eq_some_iff.mp hd
        refine ⟨.bare ((d :: ds).takeWhile isNameChar), (d :: ds).dropWhile isNameChar,
          ⟨by simp [hname], fun e he => List.mem_takeWhile_imp he, ahead_dropWhile isNameChar _⟩, ?_⟩
        rw [Piece.written, List.cons_append, List.takeWhile_append_dropWhile]
  · exact ⟨.literal c, cs, fun h => absurd h hc, rfl⟩

lemma exists_splits (cs : List Char) : ∃ ps, Splits ps cs := by
  induction hn : cs.length using Nat.strong_induction_on generalizing cs with
  | _ n ih =>
    cases cs with
    | nil => exact ⟨[], .nil⟩
    | cons c cs =>
      obtain ⟨p, rest, hp, hcs⟩ := exists_piece c cs
      have hlen : rest.length < n := by
        have := List.length_pos_of_ne_nil p.written_ne_nil
        rw [← hn, hcs, List.length_append]
        omega
      obtain ⟨ps, hps⟩ := ih rest.length hlen rest rfl
      exact ⟨p :: ps, hcs ▸ .cons hp hps⟩

end Split

section Run

variable {lookup : String → Option String} {p : Piece} {ps : List Piece} {rest cs : List Char}

lemma expandChars_reference (lookup : String → Option String) (name rest : List Char) :
    ((lookup (String.ofList name)).elim (.error (String.ofList name)) fun value =>
      (expandChars lookup rest).map (value.toList ++ ·)) =
    valueUnless ((Piece.bare name).unset? lookup) ((Piece.bare name).value lookup) >>= fun value =>
      (expandChars lookup rest).map (value ++ ·) := by
  cases h : lookup (String.ofList name) <;>
    simp only [Piece.unset?, Piece.reference?, Piece.value, Option.filter_some, h, valueUnless] <;> rfl

lemma expandChars_written_append (h : p.FitsBefore rest) : expandChars lookup (p.written ++ rest) =
    valueUnless (p.unset? lookup) (p.value lookup) >>= fun value =>
      (expandChars lookup rest).map (value ++ ·) := by
  cases p with
  | literal c =>
    change expandChars lookup (c :: rest) = (expandChars lookup rest).map (c :: ·)
    by_cases hc : c = '$'
    · subst hc
      obtain ⟨hbrace, hahead⟩ := h rfl
      have hname : rest.takeWhile isNameChar = [] := by
        cases rest with
        | nil => rfl
        | cons d rest => simp [hahead d rfl]
      rw [expandChars.eq_3 lookup rest (by rintro ds rfl; exact hbrace rfl), hname]
      rfl
    · exact expandChars.eq_4 lookup c rest (fun _ h _ => hc h) hc
  | braced name closed =>
    obtain ⟨htake, hdrop⟩ := span_append (notBrace_of_forall h.1) (closing_ahead h.2)
    have hend : (closing closed ++ rest).drop 1 = rest := by
      cases closed with
      | true => rfl
      | false => simp [closing, h.2]
    refine Eq.trans ?_ (expandChars_reference lookup name rest)
    simp only [Piece.written, List.cons_append, List.append_assoc]
    rw [expandChars, htake, hdrop, hend]
    cases lookup (String.ofList name) <;> rfl
  | bare name =>
    obtain ⟨hne, hname, hahead⟩ := h
    obtain ⟨htake, hdrop⟩ := span_append hname hahead
    refine Eq.trans ?_ (expandChars_reference lookup name rest)
    rw [Piece.written, List.cons_append, expandChars.eq_3 lookup _ fun ds h => brace_ne_append hname hne ds h.symm,
      htake, hdrop, if_neg (by simpa using hne)]
    cases lookup (String.ofList name) <;> rfl

lemma expandChars_of_splits (h : Splits ps cs) : expandChars lookup cs =
    valueUnless (ps.findSome? (Piece.unset? lookup)) (ps.flatMap (Piece.value lookup)) := by
  induction h with
  | nil =>
    rw [expandChars]
    rfl
  | @cons p ps rest hp _ ih =>
    rw [expandChars_written_append hp, ih, List.findSome?_cons, List.flatMap_cons]
    cases p.unset? lookup with
    | some name => rfl
    | none => cases ps.findSome? (Piece.unset? lookup) <;> rfl

lemma findSome?_unset? (lookup : String → Option String) (ps : List Piece) :
    ps.findSome? (Piece.unset? lookup) = (references ps).find? fun name => (lookup name).isNone := by
  induction ps with
  | nil => rfl
  | cons p ps ih =>
    rw [List.findSome?_cons, ih, Piece.unset?]
    unfold references
    cases hp : p.reference? with
    | none =>
      rw [List.filterMap_cons_none hp]
      rfl
    | some name =>
      rw [List.filterMap_cons_some hp, List.find?_cons, Option.filter_some]
      cases (lookup name).isNone <;> rfl

lemma expandChars_eq_ok_iff (h : Splits ps cs) {out : List Char} : expandChars lookup cs = .ok out ↔
    (∀ name ∈ references ps, (lookup name).isSome) ∧ out = ps.flatMap (Piece.value lookup) := by
  rw [expandChars_of_splits h, Outcome.valueUnless_eq_ok_iff, findSome?_unset?, List.find?_eq_none, eq_comm]
  simp [Option.isSome_iff_ne_none]

lemma expandChars_eq_error_iff (h : Splits ps cs) {name : String} : expandChars lookup cs = .error name ↔
    ∃ before after, references ps = before ++ name :: after ∧ (∀ n ∈ before, (lookup n).isSome) ∧
      lookup name = none := by
  rw [expandChars_of_splits h, Outcome.valueUnless_eq_error_iff, findSome?_unset?, List.find?_eq_some_iff_append]
  simp only [Option.isNone_iff_eq_none, Bool.not_eq_eq_eq_not, Bool.not_true, Option.isNone_eq_false_iff]
  constructor
  · rintro ⟨hnone, before, after, hrefs, hset⟩
    exact ⟨before, after, hrefs, hset, hnone⟩
  · rintro ⟨before, after, hrefs, hset, hnone⟩
    exact ⟨hnone, before, after, hrefs, hset⟩

def RefersTo (text name : String) : Prop :=
  ∃ ps, Splits ps text.toList ∧ name ∈ references ps

lemma Piece.unset?_congr {lookup' : String → Option String}
    (h : ∀ name, p.reference? = some name → lookup name = lookup' name) : p.unset? lookup = p.unset? lookup' := by
  unfold unset?
  cases hp : p.reference? with
  | none => rfl
  | some name => rw [Option.filter_some, Option.filter_some, h name hp]

lemma Piece.value_congr {lookup' : String → Option String}
    (h : ∀ name, p.reference? = some name → lookup name = lookup' name) : p.value lookup = p.value lookup' := by
  cases p with
  | literal c => rfl
  | braced name closed => rw [value, value, h _ rfl]
  | bare name => rw [value, value, h _ rfl]

lemma expandVariables_congr {lookup' : String → Option String} {text : String}
    (h : ∀ name, RefersTo text name → lookup name = lookup' name) :
    expandVariables lookup text = expandVariables lookup' text := by
  obtain ⟨ps, hps⟩ := exists_splits text.toList
  have hnames : ∀ name ∈ references ps, lookup name = lookup' name := fun name hname => h name ⟨ps, hps, hname⟩
  rw [expandVariables, expandVariables]
  congr 1
  generalize text.toList = cs at hps
  induction hps with
  | nil => rw [expandChars, expandChars]
  | @cons p ps rest hp _ ih =>
    have hmem : ∀ name, p.reference? = some name → name ∈ references (p :: ps) := fun name hname =>
      List.mem_filterMap.mpr ⟨p, List.mem_cons_self, hname⟩
    have hrest : ∀ name ∈ references ps, name ∈ references (p :: ps) := fun name hname =>
      ((List.sublist_cons_self p ps).filterMap _).mem hname
    rw [expandChars_written_append hp, expandChars_written_append hp,
      ih fun name hname => hnames name (hrest name hname),
      p.unset?_congr fun name hname => hnames name (hmem name hname),
      p.value_congr fun name hname => hnames name (hmem name hname)]

end Run

/-- A text splits in one way whatever the environment is. If all variables that it refers to are set, expanding it
gives its literals and their values in a row, and nothing in a value is looked at again. Otherwise the name of the
leftmost variable that is not set is what it fails with. -/
theorem expandVariables_substitutes (text : String) : ∃ pieces, (∀ ps, Splits ps text.toList ↔ ps = pieces) ∧
    (∀ lookup out, expandVariables lookup text = .ok out ↔
      (∀ name ∈ references pieces, (lookup name).isSome) ∧ out.toList = pieces.flatMap (Piece.value lookup)) ∧
    (∀ lookup name, expandVariables lookup text = .error name ↔
      ∃ before after, references pieces = before ++ name :: after ∧ (∀ n ∈ before, (lookup n).isSome) ∧
        lookup name = none) ∧
    ∀ (w : World) (s : Settings), { s with path := some text }.resolvedPath w =
      ((expandVariables w.getVariable text).map some).mapError .missingVariable := by
  obtain ⟨pieces, hpieces⟩ := exists_splits text.toList
  refine ⟨pieces, fun ps => ⟨fun h => h.unique hpieces, fun h => h ▸ hpieces⟩, fun lookup out => ?_,
    fun lookup name => ?_, fun w s => ?_⟩
  · rw [← expandChars_eq_ok_iff hpieces, expandVariables, Outcome.map_eq_ok_iff]
    constructor
    · rintro ⟨cs, hcs, rfl⟩
      rw [hcs, String.toList_ofList]
    · intro h
      exact ⟨_, h, String.ofList_toList⟩
  · rw [← expandChars_eq_error_iff hpieces, expandVariables]
    cases expandChars lookup text.toList <;> simp [Except.map]
  · simp only [Settings.resolvedPath]
    cases expandVariables w.getVariable text <;> rfl

example : expandVariables (fun name => if name = "A" then some "$\x7bB" else none) "$$A$\x7bA\x7d$\x7bA" =
    .ok "$$\x7bB$\x7bB$\x7bB" := by decide +kernel

end EntityQuery.Expansion
