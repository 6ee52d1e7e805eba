import EntityQuery.Proofs.Json.Place

/-! Readers that report the earliest fault of what they read and depend on nothing behind it. Such readers are
built up from the values inside lists and members to the lists and members themselves. -/

namespace EntityQuery

structure ReportsFirst {α β ε : Type} (read : α → Except ε β) (faults : α → Place → ε → Prop)
    (same : Place → α → α → Prop) (a : α) : Prop where
  fails : ∀ p err, faults a p err → ∃ err', read a = .error err'
  reports : ∀ err, read a = .error err →
    ∃ p, Earliest (faults a) p err ∧ ∀ a', same p a a' → read a' = .error err

namespace ReportsFirst

section

variable {α β ε : Type} {read : α → Except ε β} {faults : α → Place → ε → Prop} {same : Place → α → α → Prop}
  {a : α} {err : ε} {p : Place}

lemma error_iff (h : ReportsFirst read faults same a) : read a = .error err ↔ ∃ p, Earliest (faults a) p err := by
  constructor
  · intro herr
    obtain ⟨p, hp, -⟩ := h.reports err herr
    exact ⟨p, hp⟩
  · rintro ⟨p, hp⟩
    obtain ⟨err', herr⟩ := h.fails p err hp.fault
    obtain ⟨q, hq, -⟩ := h.reports err' herr
    obtain ⟨-, rfl⟩ := hp.unique hq
    exact herr

lemma stable (h : ReportsFirst read faults same a) (hp : Earliest (faults a) p err) {a' : α}
    (hsame : same p a a') : read a' = .error err := by
  obtain ⟨q, hq, hread⟩ := h.reports err (h.error_iff.mpr ⟨p, hp⟩)
  obtain ⟨rfl, -⟩ := hp.unique hq
  exact hread a' hsame

lemma at_place (p : Place) (hfaults : ∀ q err, faults a q err ↔ q = p ∧ read a = .error err)
    (hsame : ∀ a', same p a a' → read a' = read a) : ReportsFirst read faults same a where
  fails q err hq := ⟨err, ((hfaults q err).mp hq).2⟩
  reports err herr := by
    refine ⟨p, ⟨(hfaults p err).mpr ⟨rfl, herr⟩, ?_⟩, fun a' ha' => (hsame a' ha').trans herr⟩
    intro q err' hq
    obtain ⟨rfl, herr'⟩ := (hfaults q err').mp hq
    exact Or.inl ⟨rfl, Except.error.inj (herr'.symm.trans herr)⟩

lemma mapError {ε' : Type} {g : α → ε → ε'} (h : ReportsFirst read faults same a)
    (hg : ∀ p a', same p a a' → g a' = g a) : ReportsFirst (fun a => (read a).mapError (g a))
      (fun a p err => ∃ fault, faults a p fault ∧ err = g a fault) same a where
  fails p err hp := by
    obtain ⟨fault, hfault, -⟩ := hp
    obtain ⟨fault', hread⟩ := h.fails p fault hfault
    exact ⟨g a fault', by rw [hread]; rfl⟩
  reports err herr := by
    cases hread : read a with
    | ok b => cases hread ▸ herr
    | error fault =>
      rw [hread] at herr
      obtain rfl := Except.error.inj herr
      obtain ⟨p, hp, hsame⟩ := h.reports fault hread
      refine ⟨p, ⟨⟨fault, hp.fault, rfl⟩, ?_⟩, ?_⟩
      · rintro q err' ⟨fault', hfault', rfl⟩
        rcases hp.first q fault' hfault' with ⟨rfl, rfl⟩ | hbefore
        · exact Or.inl ⟨rfl, rfl⟩
        · exact Or.inr hbefore
      · intro a' ha'
        simp only [hsame a' ha', hg p a' ha', Except.mapError]

end

open Outcome (verdict)

section

variable {α β γ δ ε : Type} {read : α → Except ε β} {faults : α → Place → ε → Prop} {same : Place → α → α → Prop}
  {a : α}

lemma transfer (h : ReportsFirst read faults same a) (move : Place → Place)
    (hmove : ∀ p q, p.Before q → (move p).Before (move q)) {read' : γ → Except ε δ}
    {faults' : γ → Place → ε → Prop} {same' : Place → γ → γ → Prop} {c : γ}
    (hread : verdict (read' c) = verdict (read a))
    (hfaults : ∀ p err, faults' c p err ↔ ∃ q, p = move q ∧ faults a q err)
    (hsame : ∀ q err c', faults a q err → same' (move q) c c' →
      ∃ a', same q a a' ∧ verdict (read' c') = verdict (read a')) : ReportsFirst read' faults' same' c := by
  have herror : ∀ {x : Except ε δ} {y : Except ε β} {err : ε}, verdict x = verdict y → y = .error err →
      x = .error err := by
    intro x y err hxy hy
    rw [← Outcome.verdict_eq_error_iff, hxy, Outcome.verdict_eq_error_iff, hy]
  refine ⟨?_, ?_⟩
  · intro p err hp
    obtain ⟨q, -, hq⟩ := (hfaults p err).mp hp
    obtain ⟨err', herr⟩ := h.fails q err hq
    exact ⟨err', herror hread herr⟩
  · intro err herr
    obtain ⟨q, hq, hstable⟩ := h.reports err (by
      rw [← Outcome.verdict_eq_error_iff, ← hread, Outcome.verdict_eq_error_iff, herr])
    refine ⟨move q, ⟨(hfaults _ err).mpr ⟨q, rfl, hq.fault⟩, ?_⟩, ?_⟩
    · intro p err' hp
      obtain ⟨r, rfl, hr⟩ := (hfaults p err').mp hp
      rcases hq.first r err' hr with ⟨rfl, rfl⟩ | hbefore
      · exact Or.inl ⟨rfl, rfl⟩
      · exact Or.inr (hmove q r hbefore)
    · intro c' hc'
      obtain ⟨a', ha', hread'⟩ := hsame q err c' hq.fault hc'
      exact herror hread' (hstable a' ha')

end

section

variable {α β γ ε : Type} {read : Json → Except ε γ} {faults : Json → Place → ε → Prop} {raw : Json}

lemma here (h : ∀ q err, faults raw q err ↔ q = .here ∧ read raw = .error err) :
    ReportsFirst read faults Json.SameUpTo raw :=
  at_place .here h fun _ hsame => congrArg read hsame.eq_of_here

lemma refused (err : ε) (hread : read raw = .error err)
    (hfaults : ∀ q err', faults raw q err' ↔ q = .here ∧ err' = err) :
    ReportsFirst read faults Json.SameUpTo raw := by
  refine .here fun q err' => ?_
  rw [hfaults, hread, Except.error.injEq, eq_comm (a := err')]

section Member

variable {i : Nat} {key : String} {readMember : String × Json → Except ε β}
  {faultsMember : String × Json → Place → ε → Prop}

lemma at_key (err : ε) (hread : ∀ v, readMember (key, v) = .error err)
    (hfaults : ∀ p err', faultsMember (key, raw) p err' ↔ p = .key i ∧ err' = err) :
    ReportsFirst readMember faultsMember (Json.SameMember i) (key, raw) := by
  refine .at_place (.key i) ?_ ?_
  · intro p err'
    rw [hfaults, hread, Except.error.injEq, eq_comm (a := err')]
  · rintro ⟨key', v⟩ ⟨rfl, -⟩
    exact (hread v).trans (hread raw).symm

lemma within (h : ReportsFirst read faults Json.SameUpTo raw)
    (hread : ∀ v, verdict (readMember (key, v)) = verdict (read v))
    (hfaults : ∀ p err, faultsMember (key, raw) p err ↔ ∃ q, p = .within i q ∧ faults raw q err) :
    ReportsFirst readMember faultsMember (Json.SameMember i) (key, raw) := by
  refine h.transfer (.within i) (fun p q hpq => Or.inr ⟨rfl, hpq⟩) (hread raw) hfaults ?_
  rintro q err ⟨key', v⟩ - ⟨rfl, hv⟩
  exact ⟨v, hv q rfl, hread v⟩

end Member

variable {f : α → Except ε β} {item : Nat → α → Place → ε → Prop} {same : Nat → Place → α → α → Prop}
  {xs : List α}

lemma mapM (hplace : ∀ i a q err, item i a q err → q.OfItem i)
    (h : ∀ a ∈ xs, ∀ i, ReportsFirst f (item i) (same i) a) :
    ReportsFirst (List.mapM f) (faultsOfItems item) (SameItems same) xs := by
  refine ⟨?_, ?_⟩
  · rintro p err ⟨pre, x, post, rfl, hx⟩
    obtain ⟨err', herr⟩ := (h x (by simp) _).fails p err hx
    cases hread : (pre ++ x :: post).mapM f with
    | error err' => exact ⟨err', rfl⟩
    | ok ys =>
      obtain ⟨y, hy⟩ := Outcome.exists_of_mapM_eq_ok hread (x := x) (by simp)
      cases hy.symm.trans herr
  · intro err herr
    obtain ⟨pre, x, post, rfl, hpre, hx⟩ := Outcome.mapM_eq_error_iff.mp herr
    obtain ⟨p, hp, hsame⟩ := (h x (by simp) pre.length).reports err hx
    refine ⟨p, .of_item hplace ?_ hp, ?_⟩
    · -- what stands in front was read, so there is no fault in it
      intro a ha i q err' hq
      obtain ⟨b, hb⟩ := hpre a ha
      obtain ⟨err'', herr⟩ := (h a (by simp [ha]) i).fails q err' hq
      cases hb.symm.trans herr
    · rintro xs' ⟨pre', x', post', v, rest, hsplit, rfl, hat, hv⟩
      have hlen := Option.some.inj ((hplace _ _ _ _ hp.fault).symm.trans hat)
      obtain ⟨rfl, hrest⟩ := List.append_inj hsplit hlen
      obtain ⟨rfl, -⟩ := List.cons.inj hrest
      exact Outcome.mapM_eq_error_iff.mpr ⟨pre, v, rest, rfl, hpre, hsame v hv⟩

lemma items {wrap : List α → Json} (hplace : ∀ i a q err, item i a q err → q.OfItem i)
    (h : ∀ a ∈ xs, ∀ i, ReportsFirst f (item i) (same i) a)
    (hsame : ∀ p raw', Json.SameUpTo p (wrap xs) raw' → p ≠ .here →
      ∃ xs', raw' = wrap xs' ∧ SameItems same p xs xs')
    (hread : ∀ xs', (xs' = [] ↔ xs = []) → verdict (read (wrap xs')) = verdict (xs'.mapM f))
    (hfaults : ∀ p err, faults (wrap xs) p err ↔ faultsOfItems item xs p err) :
    ReportsFirst read faults Json.SameUpTo (wrap xs) := by
  refine (mapM hplace h).transfer id (fun _ _ hpq => hpq) (hread xs Iff.rfl) ?_ ?_
  · intro p err
    rw [hfaults]
    exact ⟨fun hp => ⟨p, rfl, hp⟩, fun ⟨_, hpq, hq⟩ => hpq ▸ hq⟩
  · rintro p err raw' ⟨_, _, _, -, hx⟩ hraw
    obtain ⟨xs', rfl, hitems⟩ := hsame p raw' hraw (hplace _ _ _ _ hx).ne_here
    refine ⟨xs', hitems, hread xs' ?_⟩
    obtain ⟨_, _, _, _, _, rfl, rfl, -⟩ := hitems
    simp

end

end ReportsFirst

end EntityQuery
