import SqlModels.Text.Basic

namespace SqlModels

inductive ValueType
  | number | string | date | any
  deriving DecidableEq

def ValueType.name : ValueType → String
  | .number => "number" | .string => "string" | .date => "Date" | .any => "any"

inductive DefaultValue
  | now
  | emptyString
  | literal (text : Text)
  deriving DecidableEq

structure Attribute where
  name : String
  /-- The expression of the column type. -/
  storageType : String
  valueType : ValueType
  allowNull : Bool
  autoIncrement : Bool
  defaultValue : Option DefaultValue
  primaryKey : Bool
  deriving DecidableEq

/-- Whether a row cannot be created without the attribute. -/
def Attribute.isRequired (a : Attribute) : Bool :=
  !a.allowNull && a.defaultValue.isNone && !a.autoIncrement

structure Model where
  name : String
  attributes : List Attribute
  deriving DecidableEq

end SqlModels
