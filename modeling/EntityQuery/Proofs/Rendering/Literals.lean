import EntityQuery.Binding.Scalar
import EntityQuery.Proofs.Decimal.Numerals
import EntityQuery.Sql.Quoted

/-! Values written as SQL literals. A scanner for text literals reads back the text that was written and stops right
behind it, whatever quotes stand in it, and no number or boolean is written like a text. -/

namespace EntityQuery

namespace Sql

def textLiteral? (cs : List Char) : Option (String × List Char) :=
  (Scan.expect '\'' cs).bind fun rest => (quotedBody? '\'' rest).map fun (body, r) => (String.ofList body, r)

variable {quote c : Char} {rest : List Char}

lemma map_read_eq_some_iff {α β : Type} {read : Option (α × List Char)} {f : α → β} {b : β} :
    (read.map fun (a, r) => (f a, r)) = some (b, rest) ↔ ∃ a, read = some (a, rest) ∧ f a = b := by
  rw [Option.map_eq_some_iff]
  constructor
  · rintro ⟨⟨a, r⟩, hread, he⟩
    obtain ⟨rfl, rfl⟩ := Prod.mk.inj he
    exact ⟨a, hread, rfl⟩
  · rintro ⟨a, hread, rfl⟩
    exact ⟨(a, rest), hread, rfl⟩

lemma quotedBody?_closing (h : rest.head? ≠ some quote) : quotedBody? quote (quote :: rest) = some ([], rest) := by
  cases rest with
  | nil => simp [quotedBody?]
  | cons d rest =>
    have hd : d ≠ quote := by simpa using h
    simp [quotedBody?, hd]

lemma quotedBody?_doubled (quote : Char) (rest : List Char) : quotedBody? quote (quote :: quote :: rest) =
    (quotedBody? quote rest).map fun (body, r) => (quote :: body, r) := by
  simp [quotedBody?]

lemma quotedBody?_of_ne (h : c ≠ quote) (rest : List Char) : quotedBody? quote (c :: rest) =
    (quotedBody? quote rest).map fun (body, r) => (c :: body, r) := by
  cases rest <;> simp [quotedBody?, h]

end Sql

namespace Scalar

open Sql

variable {s t : String} {cs body rest : List Char}

lemma doubleQuotes_of_ne {c : Char} (h : c ≠ '\'') (cs : List Char) : doubleQuotes (c :: cs) = c :: doubleQuotes cs := by
  rw [doubleQuotes]
  exact h

lemma quotedBody?_doubleQuotes (h : rest.head? ≠ some '\'') (body : List Char) :
    quotedBody? '\'' (doubleQuotes body ++ '\'' :: rest) = some (body, rest) := by
  induction body with
  | nil => exact quotedBody?_closing h
  | cons c body ih =>
    by_cases hc : c = '\''
    · subst hc
      rw [doubleQuotes, List.cons_append, List.cons_append, quotedBody?_doubled, ih]
      rfl
    · rw [doubleQuotes_of_ne hc, List.cons_append, quotedBody?_of_ne hc, ih]
      rfl

lemma eq_doubleQuotes_of_quotedBody? (h : quotedBody? '\'' cs = some (body, rest)) :
    cs = doubleQuotes body ++ '\'' :: rest ∧ rest.head? ≠ some '\'' := by
  induction cs using quotedBody?.induct '\'' generalizing body with
  | case1 => cases h
  | case2 =>
    rw [quotedBody?_closing (by simp), Option.some_inj] at h
    obtain ⟨rfl, rfl⟩ := Prod.mk.inj h
    exact ⟨rfl, by simp⟩
  | case3 c hc =>
    rw [quotedBody?_of_ne hc] at h
    cases h
  | case4 c d tail hc ih =>
    rw [quotedBody?_of_ne hc, map_read_eq_some_iff] at h
    obtain ⟨body, hbody, rfl⟩ := h
    obtain ⟨htail, hrest⟩ := ih hbody
    exact ⟨by rw [htail, doubleQuotes_of_ne hc, List.cons_append], hrest⟩
  | case5 c tail hc ih =>
    obtain rfl := not_not.mp hc
    rw [quotedBody?_doubled, map_read_eq_some_iff] at h
    obtain ⟨body, hbody, rfl⟩ := h
    obtain ⟨htail, hrest⟩ := ih hbody
    exact ⟨by rw [htail, doubleQuotes, List.cons_append, List.cons_append], hrest⟩
  | case6 c d tail hc hd =>
    -- the quote at the head is not doubled, and so what is behind it does not begin with one
    obtain rfl := not_not.mp hc
    have hhead : (d :: tail).head? ≠ some '\'' := by simpa using hd
    rw [quotedBody?_closing hhead, Option.some_inj] at h
    obtain ⟨rfl, rfl⟩ := Prod.mk.inj h
    exact ⟨rfl, hhead⟩

lemma quotedBody?_eq_some_iff : quotedBody? '\'' cs = some (body, rest) ↔
    cs = doubleQuotes body ++ '\'' :: rest ∧ rest.head? ≠ some '\'' := by
  constructor
  · exact eq_doubleQuotes_of_quotedBody?
  · rintro ⟨rfl, h⟩
    exact quotedBody?_doubleQuotes h body

lemma toList_literal_text (s : String) : (text s).literal.toList = '\'' :: doubleQuotes s.toList ++ ['\''] := by
  simp [literal]

lemma textLiteral?_eq_some_iff : textLiteral? cs = some (s, rest) ↔
    cs = (text s).literal.toList ++ rest ∧ rest.head? ≠ some '\'' := by
  rw [textLiteral?, Option.bind_eq_some_iff, toList_literal_text]
  constructor
  · rintro ⟨tail, hopen, hread⟩
    obtain ⟨body, hbody, rfl⟩ := map_read_eq_some_iff.mp hread
    obtain ⟨rfl, hrest⟩ := quotedBody?_eq_some_iff.mp hbody
    exact ⟨by simp [Scan.expect_eq_some_iff.mp hopen], hrest⟩
  · rintro ⟨rfl, hrest⟩
    refine ⟨doubleQuotes s.toList ++ '\'' :: rest, by simp, ?_⟩
    apply map_read_eq_some_iff.mpr
    exact ⟨s.toList, quotedBody?_doubleQuotes hrest s.toList, String.ofList_toList⟩

lemma quote_notMem_digits (n : Nat) : '\'' ∉ Decimal.digits n :=
  fun h => absurd (Nat.isDigit_of_mem_toDigits (by decide) (by decide) h) (by decide)

lemma quote_notMem_integer (n : Int) : '\'' ∉ (integer n).literal.toList := by
  cases n with
  | ofNat n =>
    have htext : (integer (.ofNat n)).literal = String.ofList (Decimal.digits n) := rfl
    rw [htext, String.toList_ofList]
    exact quote_notMem_digits n
  | negSucc n =>
    have htext : (integer (.negSucc n)).literal = "-" ++ String.ofList (Decimal.digits (n + 1)) := rfl
    simpa [htext] using quote_notMem_digits (n + 1)

lemma quote_notMem_positional (coefficient : Nat) (exponent : Int) :
    '\'' ∉ (Decimal.positional coefficient exponent).toList := by
  have hdigits := quote_notMem_digits coefficient
  have htake : ∀ k, '\'' ∉ (Decimal.digits coefficient).take k := fun k h => hdigits (List.mem_of_mem_take h)
  have hdrop : ∀ k, '\'' ∉ (Decimal.digits coefficient).drop k := fun k h => hdigits (List.mem_of_mem_drop h)
  have hzeros : ∀ n, '\'' ∉ (Decimal.zeros n).toList := by simp [Decimal.zeros]
  simp only [Decimal.positional]
  split
  · simp [hdigits, hzeros]
  · split
    · simp [htake, hdrop]
    · simp [hdigits, hzeros]

lemma quote_notMem_float (x : Binary64) : '\'' ∉ (float x).literal.toList := by
  have hsign : ∀ negative, '\'' ∉ (Binary64.signText negative).toList := by decide
  cases x with
  | nan => decide
  | infinite negative => simp [literal, Binary64.positionalText, hsign]
  | finite negative m e => simp [literal, Binary64.positionalText, hsign, quote_notMem_positional]

lemma quote_notMem_boolean (b : Bool) : '\'' ∉ (boolean b).literal.toList := by
  cases b <;> decide

lemma literal_text_ne {v : Scalar} (h : '\'' ∉ v.literal.toList) (s : String) : (text s).literal ≠ v.literal := by
  intro he
  rw [← he, toList_literal_text] at h
  exact h List.mem_cons_self

lemma literal_text_injective (h : (text s).literal = (text t).literal) : s = t := by
  have hs : textLiteral? (text s).literal.toList = some (s, []) := textLiteral?_eq_some_iff.mpr (by simp)
  have ht : textLiteral? (text t).literal.toList = some (t, []) := textLiteral?_eq_some_iff.mpr (by simp)
  rw [h, ht] at hs
  exact (Prod.mk.inj (Option.some.inj hs)).1.symm

/-- A scanner reads a text literal as a text just where this text was written, with no further quote behind it. So a
written text tells where it ends and which text it is, and no other kind of value is written like it. -/
theorem literal_text_scanned (s : String) :
    (∀ cs rest, textLiteral? cs = some (s, rest) ↔ cs = (text s).literal.toList ++ rest ∧ rest.head? ≠ some '\'') ∧
    (∀ t, (text s).literal = (text t).literal → s = t) ∧
    (∀ n, (text s).literal ≠ (integer n).literal) ∧
    (∀ b, (text s).literal ≠ (boolean b).literal) ∧
    ∀ x, (text s).literal ≠ (float x).literal :=
  ⟨fun _ _ => textLiteral?_eq_some_iff, fun _ => literal_text_injective,
    fun n => literal_text_ne (quote_notMem_integer n) s, fun b => literal_text_ne (quote_notMem_boolean b) s,
    fun x => literal_text_ne (quote_notMem_float x) s⟩

theorem quotes_read_back : textLiteral? "'''''it''s''''' and 1".toList = some ("''it's''", " and 1".toList) ∧
    (text "''it's''").literal ≠ (text "'it's'").literal ∧ (text "1").literal ≠ (integer 1).literal := by
  obtain ⟨hscan, hinj, -⟩ := literal_text_scanned "''it's''"
  obtain ⟨-, -, hinteger, -⟩ := literal_text_scanned "1"
  refine ⟨(hscan _ _).mpr (by decide), fun h => ?_, hinteger 1⟩
  exact absurd (hinj _ h) (by decide)

end Scalar

end EntityQuery
