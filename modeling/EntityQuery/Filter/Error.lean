import EntityQuery.Schema.Kind

/-!
What can go wrong between a filter and a statement, and the wording of each cause.
-/

namespace EntityQuery

inductive ShapeFault
  | filterNotObject
  | referenceNotObject
  | unknownKey
  | hiddenField
  | operatorsNotObject
  | noOperators
  | unknownOperator
  | operatorNotAllowed (kind : FieldKind)
  | nullOperand
  | flagExpected
  | listExpected (kind : FieldKind)
  | scalarExpected (kind : FieldKind)
  | invalidDate (text : String)
deriving DecidableEq, Repr

def ShapeFault.reason : ShapeFault → String
  | filterNotObject => "filter must be an object"
  | referenceNotObject => "reference filter must be an object or null"
  | unknownKey => "unknown filter key"
  | hiddenField => "field is not filterable"
  | operatorsNotObject => "expected an object of filter operators"
  | noOperators => "at least one filter operator must be provided"
  | unknownOperator => "unknown filter operator"
  | operatorNotAllowed kind => "operator not allowed on " ++ kind.name ++ " fields"
  | nullOperand => "value must not be null"
  | flagExpected => "expected a boolean flag"
  | listExpected kind => "expected an array of " ++ kind.name ++ " values"
  | scalarExpected kind => "expected a " ++ kind.name ++ " value"
  | invalidDate text => "invalid date: " ++ text

inductive FilterError
  | unknownEntity (entity : String)
  | invalidShape (entity : String) (key : Option String) (fault : ShapeFault)
  | unsupportedOperator (name : String)
  | missingValue (comparison : Comparison)
  | listRequired (comparison : Comparison)
  | scalarRequired (comparison : Comparison)
  | noAssignments (table : String)
deriving DecidableEq, Repr

namespace FilterError

def message : FilterError → String
  | unknownEntity entity => "No where filter configuration found for domain: " ++ entity
  | invalidShape entity none fault => "Invalid filter for " ++ entity ++ ": " ++ fault.reason
  | invalidShape entity (some key) fault =>
      "Invalid filter for " ++ entity ++ ": " ++ key ++ ": " ++ fault.reason
  | unsupportedOperator name => "Unsupported filter operator: " ++ name
  | missingValue c => "Value is required for filter operator: " ++ c.token
  | listRequired c => "Array value is required for filter operator: " ++ c.token
  | scalarRequired c => "Single value is required for filter operator: " ++ c.token
  | noAssignments table => "Update of " ++ table ++ " requires at least one set clause"

def isClientError : FilterError → Bool
  | noAssignments _ => false
  | _ => true

end FilterError

def translateOperator (name : String) : Except FilterError Comparison :=
  match FilterOperator.ofName? name with
  | some op => .ok op.comparison
  | none => .error (.unsupportedOperator name)

end EntityQuery
