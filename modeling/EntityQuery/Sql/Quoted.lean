/-!
Quoted text in SQL. A quote inside stands doubled.
-/

namespace EntityQuery.Sql

def quotedBody? (quote : Char) : List Char → Option (List Char × List Char)
  | [] => none
  | [c] => if c = quote then some ([], []) else none
  | c :: d :: rest =>
      if c ≠ quote then (quotedBody? quote (d :: rest)).map fun (body, r) => (c :: body, r)
      else if d = quote then (quotedBody? quote rest).map fun (body, r) => (quote :: body, r)
      else some ([], d :: rest)

end EntityQuery.Sql
