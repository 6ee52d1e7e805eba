import EntityQuery.Text.Alphanumeric
import EntityQuery.Text.Lowercase

/-!
The column a field is stored in when its definition names none: its key in snake case. Whether a word starts at a
character is told by the characters next to its offset in bytes, which is not its position when letters beyond ASCII
stand before it.
-/

namespace EntityQuery

namespace SnakeCase

def trimEnd (cs : List Char) : List Char :=
  (cs.reverse.dropWhile fun c => ¬ isAlphanumeric c).reverse

def isLowercaseAt (key : List Char) (i : Nat) : Bool :=
  (key[i]?.map isLowercase).getD false

def startsWord (key : List Char) (i : Nat) (c : Char) : Bool :=
  c.toUpper = c && (isLowercaseAt key (i + 1) || isLowercaseAt key (i - 1))

def walk (key : List Char) (offset : Nat) (fresh : Bool) : List Char → List Char
  | [] => []
  | c :: rest =>
      let next := offset + c.utf8Size
      if ¬ isAlphanumeric c then
        if fresh then walk key next true rest else '_' :: walk key next true rest
      else if ¬ fresh ∧ startsWord key offset c then
        '_' :: c.toLower :: walk key next false rest
      else c.toLower :: walk key next false rest

end SnakeCase

def snakeCase (key : String) : String :=
  String.ofList (SnakeCase.walk key.toList 0 true (SnakeCase.trimEnd key.toList))

example : snakeCase "firstName" = "first_name" := by decide +kernel
example : snakeCase "HTMLParser" = "html_parser" := by decide +kernel
example : snakeCase "_x__yZ_" = "x_y_z" := by decide +kernel

end EntityQuery
