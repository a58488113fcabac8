/-!
Why a field of a record was refused, and which one.
-/

namespace SpecScribe.Schema

inductive Step where
  | name (s : String)
  | index (n : Nat)
  deriving DecidableEq

inductive Reason where
  | missing
  | nullNotAllowed
  | notInteger
  | notFloat
  | notText
  | notBool
  | notList
  | notRecord
  | notPath
  | notMember (permitted : List String)
  | below (limit : String)
  | above (limit : String)
  | other (message : String)
  deriving DecidableEq

def Reason.code : Reason → String
  | .missing => "value_error.missing"
  | .nullNotAllowed => "type_error.none.not_allowed"
  | .notInteger => "type_error.integer"
  | .notFloat => "type_error.float"
  | .notText => "type_error.str"
  | .notBool => "type_error.bool"
  | .notList => "type_error.list"
  | .notRecord => "type_error.dict"
  | .notPath => "type_error.path"
  | .notMember _ => "type_error.enum"
  | .below _ => "value_error.number.not_ge"
  | .above _ => "value_error.number.not_le"
  | .other _ => "value_error"

def Reason.message : Reason → String
  | .missing => "field required"
  | .nullNotAllowed => "none is not an allowed value"
  | .notInteger => "value is not a valid integer"
  | .notFloat => "value is not a valid float"
  | .notText => "str type expected"
  | .notBool => "value could not be parsed to a boolean"
  | .notList => "value is not a valid list"
  | .notRecord => "value is not a valid dict"
  | .notPath => "value is not a valid path"
  | .notMember permitted =>
    "value is not a valid enumeration member; permitted: "
      ++ ", ".intercalate (permitted.map fun p => "'" ++ p ++ "'")
  | .below limit => "ensure this value is greater than or equal to " ++ limit
  | .above limit => "ensure this value is less than or equal to " ++ limit
  | .other message => message

def Reason.detail : Reason → String
  | .below limit | .above limit => "; limit_value=" ++ limit
  | _ => ""

/-- A refused field: the way to it and the reason. -/
structure FieldError where
  path : List Step
  reason : Reason
  deriving DecidableEq

def Step.text : Step → String
  | .name s => s
  | .index n => toString n

def FieldError.text (e : FieldError) : String :=
  " -> ".intercalate (e.path.map Step.text) ++ "\n  " ++ e.reason.message
    ++ " (type=" ++ e.reason.code ++ e.reason.detail ++ ")"

/-- The same error seen from one level further out. -/
def FieldError.under (step : Step) (e : FieldError) : FieldError :=
  ⟨step :: e.path, e.reason⟩

end SpecScribe.Schema
