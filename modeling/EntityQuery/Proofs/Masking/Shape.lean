import EntityQuery.Proofs.Masking.Tree
import EntityQuery.Proofs.Reading.Tests

/-! Raw filters of one shape: the same keys and operators in the same order and lists of one length under
the membership tests, whatever the values. They are read to trees that differ in the values only. -/

namespace EntityQuery

namespace Json

def nestedMembers? : Json → Option (List (String × Json))
  | .null => some []
  | .object members => some members
  | _ => none

def elementCount : Json → Nat
  | .array elements => elements.length
  | _ => 0

end Json

namespace Schema

def IsReference (s : Schema) (entity key : String) : Prop :=
  ∃ e, s.entity entity = .ok e ∧ e.refersTo key = true

lemma isReference_iff {s : Schema} {entity key : String} {e : Entity} (he : s.entity entity = .ok e) :
    s.IsReference entity key ↔ e.refersTo key = true := by
  constructor
  · rintro ⟨e', he', href⟩
    obtain rfl := Except.ok.inj (he.symm.trans he')
    exact href
  · exact fun href => ⟨e, he, href⟩

/-- Members of two filters for an entity with the same keys and operators in the same order, at every
level, and operands related by `R`, which is also given the name of the operator. A null stands for a
reference without members. -/
inductive Alike (s : Schema) (R : String → Json → Json → Prop) :
    String → List (String × Json) → List (String × Json) → Prop
  | nil (entity : String) : Alike s R entity [] []
  | reference {entity key : String} {raw raw' : Json} {ms ms' rest rest' : List (String × Json)}
      (href : s.IsReference entity key) (hraw : raw.nestedMembers? = some ms)
      (hraw' : raw'.nestedMembers? = some ms') (hinner : Alike s R key ms ms')
      (hrest : Alike s R entity rest rest') :
      Alike s R entity ((key, raw) :: rest) ((key, raw') :: rest')
  | field {entity key : String} {ops ops' rest rest' : List (String × Json)}
      (href : ¬ s.IsReference entity key)
      (hops : List.Forall₂ (fun o o' => o.1 = o'.1 ∧ R o.1 o.2 o'.2) ops ops')
      (hrest : Alike s R entity rest rest') :
      Alike s R entity ((key, .object ops) :: rest) ((key, .object ops') :: rest')

def SameLength (name : String) (raw raw' : Json) : Prop :=
  name = FilterOperator.isIn.name ∨ name = FilterOperator.notIn.name →
    raw.elementCount = raw'.elementCount

instance (name : String) (raw raw' : Json) : Decidable (SameLength name raw raw') :=
  inferInstanceAs (Decidable (_ → _))

def SameButFlag (name : String) (raw raw' : Json) : Prop :=
  raw = raw' ∨ (name = FilterOperator.isNull.name ∨ name = FilterOperator.isNotNull.name) ∧
    ∃ b b', raw = .bool b ∧ raw' = .bool b'

def SameShape (s : Schema) (entity : String) (raw raw' : Json) : Prop :=
  ∃ ms ms', raw = .object ms ∧ raw' = .object ms' ∧ s.Alike SameLength entity ms ms'

def SameButFlags (s : Schema) (entity : String) (raw raw' : Json) : Prop :=
  ∃ ms ms', raw = .object ms ∧ raw' = .object ms' ∧ s.Alike SameButFlag entity ms ms'

def ReadsFor (s : Schema) (entity : String) (ms : List (String × Json)) (entries : List FilterEntry) :
    Prop :=
  (ms = [] ∧ entries = []) ∨ ∃ e, s.entity entity = .ok e ∧ Reads s e ms entries

end Schema

def TestOperand.blank : TestOperand → TestOperand
  | .flag _ => .flag true
  | .value _ => .value (.integer 0)
  | .list ds => .list (List.replicate ds.length (.integer 0))

def Operand.blank : Operand → Operand
  | .scalar _ => .scalar (.integer 0)
  | .list vs => .list (List.replicate vs.length (.integer 0))

def Condition.blank (c : Condition) : Condition :=
  c.mapOperand (Option.map Operand.blank)

lemma masks_blank : Masks TestOperand.blank (Option.map Operand.blank) where
  operand o := by
    cases o <;> simp [TestOperand.blank, TestOperand.operand?, Operand.blank, Datum.scalar]
  reserve comparison o start := by
    rcases o with _ | (v | vs)
    · rfl
    · rfl
    · cases vs <;> simp [Slots.reserve, Operand.blank]

def TestOperand.unflagged : TestOperand → TestOperand
  | .flag _ => .flag true
  | o => o

lemma masks_unflagged : Masks TestOperand.unflagged id where
  operand o := by cases o <;> rfl
  reserve _ _ _ := rfl

def FilterOperator.blankOperand (op : FilterOperator) (raw : Json) : TestOperand :=
  match op with
  | .isNull | .isNotNull => .flag true
  | .isIn | .notIn => .list (List.replicate raw.elementCount (.integer 0))
  | _ => .value (.integer 0)

namespace FieldKind

lemma blank_of_readOperand {kind : FieldKind} {op : FilterOperator} {raw : Json} {o : TestOperand}
    (h : kind.readOperand op raw = .ok o) : o.blank = op.blankOperand raw := by
  cases readOperand_eq_ok_iff.mp h with
  | flag hop b =>
    cases op with
    | isNull | isNotNull => rfl
    | _ => cases hop
  | list hop hds =>
    rw [TestOperand.blank, ← hds.length_eq]
    cases op with
    | isIn | notIn => rfl
    | _ => cases hop
  | value hnull hlist hd =>
    cases op with
    | isNull | isNotNull => cases hnull
    | isIn | notIn => cases hlist
    | _ => rfl

lemma readTest_blank {kind : FieldKind} {name : String} {raw raw' : Json} {t t' : Test}
    (hlen : Schema.SameLength name raw raw') (h : kind.readTest name raw = .ok t)
    (h' : kind.readTest name raw' = .ok t') :
    t.mapOperand TestOperand.blank = t'.mapOperand TestOperand.blank := by
  obtain ⟨op, o, hop, -, ho, rfl⟩ := readTest_eq_ok_iff.mp h
  obtain ⟨op', o', hop', -, ho', rfl⟩ := readTest_eq_ok_iff.mp h'
  obtain rfl := Option.some.inj (hop.symm.trans hop')
  have hname := FilterOperator.name_of_ofName? hop
  have hblank : op.blankOperand raw = op.blankOperand raw' := by
    cases op with
    | isIn => simp only [FilterOperator.blankOperand, hlen (Or.inl hname.symm)]
    | notIn => simp only [FilterOperator.blankOperand, hlen (Or.inr hname.symm)]
    | _ => rfl
  simp only [Test.mapOperand, blank_of_readOperand ho, blank_of_readOperand ho', hblank]

lemma readTest_unflagged {kind : FieldKind} {name : String} {raw raw' : Json}
    (h : Schema.SameButFlag name raw raw') :
    (kind.readTest name raw).map (Test.mapOperand TestOperand.unflagged) =
      (kind.readTest name raw').map (Test.mapOperand TestOperand.unflagged) := by
  rcases h with rfl | ⟨hname, b, b', rfl, rfl⟩
  · rfl
  · rcases hname with rfl | rfl
    · rw [readTest, readTest, FilterOperator.ofName?_name]
      dsimp only
      split <;> rfl
    · rw [readTest, readTest, FilterOperator.ofName?_name]
      dsimp only
      split <;> rfl

end FieldKind

end EntityQuery
