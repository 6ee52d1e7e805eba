import EntityQuery.Schema.Kind
import EntityQuery.Text.SnakeCase

/-!
Fields, as they are defined and as they are stored.
-/

namespace EntityQuery

inductive FieldDef
  | kind (kind : FieldKind)
  | detailed (kind : FieldKind) (column : Option String) (isHidden : Bool)
deriving DecidableEq, Repr

structure Field where
  kind : FieldKind
  column : Option String
deriving DecidableEq, Repr

def Field.isHidden (f : Field) : Bool :=
  f.column.isNone

def FieldDef.resolve (key : String) : FieldDef → Field
  | .kind k => ⟨k, some (snakeCase key)⟩
  | detailed k _ true => ⟨k, none⟩
  | detailed k column false => ⟨k, some (column.getD (snakeCase key))⟩

end EntityQuery
