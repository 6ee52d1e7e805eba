import EntityQuery.Decimal.Binary64

/-!
JSON values. An object is the list of its members, because the order of the keys of a filter
decides the order of its conditions. Integers of 64 bits are kept apart from doubles.
-/

namespace EntityQuery

inductive Json
  | null
  | bool (b : Bool)
  | integer (n : Int)
  | float (x : Binary64)
  | string (s : String)
  | array (elements : List Json)
  | object (members : List (String × Json))

namespace Json

def inIntegerRange (n : Int) : Bool :=
  -(twoTo 63) ≤ n && n < twoTo 63

def setMember (key : String) (value : Json) : List (String × Json) → List (String × Json)
  | [] => [(key, value)]
  | (k, v) :: rest => if k = key then (key, value) :: rest else (k, v) :: setMember key value rest

def member? (key : String) : Json → Option Json
  | object members => members.lookup key
  | _ => none

theorem keys_setMember (key : String) (value : Json) (ms : List (String × Json)) :
    (setMember key value ms).map Prod.fst =
      if key ∈ ms.map Prod.fst then ms.map Prod.fst else ms.map Prod.fst ++ [key] := by
  induction ms with
  | nil => rfl
  | cons m rest ih =>
    obtain ⟨k, v⟩ := m
    by_cases h : k = key
    · simp [setMember, h]
    · have h' : key ≠ k := fun e => h e.symm
      simp only [setMember, h, if_false, List.map_cons, ih, List.mem_cons, h', false_or]
      split <;> rfl

end Json

end EntityQuery
