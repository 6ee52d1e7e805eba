import EntityQuery.Text.Alphanumeric

/-!
Variables in the text of a setting. A reference is `${name}`, up to the brace or the end of the text,
or `$name` with the longest name there is; any other `$` stands for itself. What is put in for
a reference is not looked at again.
-/

namespace EntityQuery

namespace Expansion

def isNameChar (c : Char) : Bool :=
  isAlphanumeric c || c = '_'

def notBrace (c : Char) : Bool :=
  c ≠ '\x7d'

theorem length_dropWhile_le (p : Char → Bool) (cs : List Char) :
    (cs.dropWhile p).length ≤ cs.length :=
  (List.dropWhile_suffix p).length_le

def expandChars (lookup : String → Option String) : List Char → Except String (List Char)
  | [] => .ok []
  | '$' :: '\x7b' :: rest =>
      let name := String.ofList (rest.takeWhile notBrace)
      match lookup name with
      | none => .error name
      | some value =>
          (expandChars lookup ((rest.dropWhile notBrace).drop 1)).map (value.toList ++ ·)
  | '$' :: rest =>
      let name := String.ofList (rest.takeWhile isNameChar)
      if name = "" then (expandChars lookup rest).map ('$' :: ·)
      else
        match lookup name with
        | none => .error name
        | some value => (expandChars lookup (rest.dropWhile isNameChar)).map (value.toList ++ ·)
  | c :: rest => (expandChars lookup rest).map (c :: ·)
termination_by cs => cs.length
decreasing_by
  · have := length_dropWhile_le notBrace rest
    simp only [List.length_drop, List.length_cons]
    omega
  · simp
  · have := length_dropWhile_le isNameChar rest
    simp only [List.length_cons]
    omega
  · simp

end Expansion

def expandVariables (lookup : String → Option String) (text : String) : Except String String :=
  (Expansion.expandChars lookup text.toList).map String.ofList

end EntityQuery
