import SqlModels.Error
import SqlModels.Model.Basic
import SqlModels.Schema.Basic

/-!
The models of tables: column types become storage types and value types, default literals become
default values. Every column whose type has no mapping is reported.
-/

namespace SqlModels

structure TypePolicy where
  /-- Whether decimals are strings, so that they keep all their digits. -/
  decimalAsString : Bool := true

structure AttributeType where
  storage : String
  value : ValueType
  deriving DecidableEq

namespace AttributeType

/-- A size in parentheses, which are written without one too. -/
def sizeSuffix : Option Nat → String
  | some n => "(" ++ toString n ++ ")"
  | none => "()"

def integerName : Option Nat → String
  | some 1 => "TINYINT"
  | some 8 => "BIGINT"
  | _ => "INTEGER"

def ofColumnType (policy : TypePolicy) (type : ColumnType) (unsigned : Bool) :
    Except Error AttributeType :=
  let sign := if unsigned then ".UNSIGNED" else ""
  match type.datatype with
  | "int" => .ok ⟨integerName type.width ++ "()" ++ sign, .number⟩
  | "decimal" =>
    .ok ⟨"DECIMAL(" ++ toString (type.digits.getD 10) ++ ", " ++ toString (type.decimals.getD 0)
        ++ ")" ++ sign,
      if policy.decimalAsString then .string else .number⟩
  | "float" => .ok ⟨"FLOAT()" ++ sign, .number⟩
  | "double" => .ok ⟨"DOUBLE()" ++ sign, .number⟩
  | "char" => .ok ⟨"CHAR" ++ sizeSuffix type.length, .string⟩
  | "varchar" => .ok ⟨"STRING" ++ sizeSuffix type.length, .string⟩
  | "text" => .ok ⟨"TEXT()", .string⟩
  | "datetime" | "timestamp" => .ok ⟨"DATE()", .date⟩
  | "date" => .ok ⟨"DATEONLY()", .date⟩
  | "json" => .ok ⟨"JSON", .any⟩
  | other => .error (.unsupportedType other)

end AttributeType

/-- The spellings of the current moment, in any letter case. -/
def DefaultValue.nowSpellings : List String :=
  ["CURRENT_TIMESTAMP", "CURRENT_TIMESTAMP()"]

def DefaultValue.ofLiteral (literal : Text) : DefaultValue :=
  if nowSpellings.any fun s => Text.eqIgnoringCase literal s.toList then .now
  else if literal = [] || literal = ['\"', '\"'] || literal = ['\'', '\''] then .emptyString
  else .literal literal

def Attribute.ofColumn (policy : TypePolicy) (primaryKey : List String) (c : Column) :
    Except Error Attribute :=
  match AttributeType.ofColumnType policy c.type c.options.unsigned with
  | .error e => .error e
  | .ok type => .ok {
      name := c.name
      storageType := type.storage
      valueType := type.value
      allowNull := c.options.nullable
      autoIncrement := c.options.autoIncrement
      defaultValue := c.options.default.map DefaultValue.ofLiteral
      primaryKey := primaryKey.contains c.name }

namespace Model

/-- The attributes of columns, and the errors of those that have none. -/
def attributesOf (policy : TypePolicy) (t : Table) : List Column → List Attribute × List Error
  | [] => ([], [])
  | c :: rest =>
    let (attributes, errors) := attributesOf policy t rest
    match Attribute.ofColumn policy t.primaryKey c with
    | .ok a => (a :: attributes, errors)
    | .error e => (attributes, .inColumn t.name c.name e :: errors)

def ofTable (policy : TypePolicy) (t : Table) : Except Error Model :=
  let (attributes, errors) := attributesOf policy t t.columns
  Error.unlessAny errors ⟨t.name, attributes⟩

/-- The models of tables, and the errors of those that have none, each error for itself. -/
def collect (policy : TypePolicy) : List Table → List Model × List Error
  | [] => ([], [])
  | t :: rest =>
    let (models, errors) := collect policy rest
    match ofTable policy t with
    | .ok m => (m :: models, errors)
    | .error (.multiple several) => (models, several ++ errors)
    | .error e => (models, e :: errors)

/-- The models of all tables, or all errors. -/
def ofTables (policy : TypePolicy) (tables : List Table) : Except Error (List Model) :=
  let (models, errors) := collect policy tables
  Error.unlessAny errors models

end Model

end SqlModels
