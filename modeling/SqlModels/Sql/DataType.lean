import SqlModels.Sql.Ident

namespace SqlModels.Sql

inductive IntegerKind
  | tinyint | smallint | mediumint | int | integer | bigint | int2 | int4 | int8
  deriving DecidableEq

def IntegerKind.name : IntegerKind → String
  | .tinyint => "TINYINT" | .smallint => "SMALLINT" | .mediumint => "MEDIUMINT" | .int => "INT"
  | .integer => "INTEGER" | .bigint => "BIGINT" | .int2 => "INT2" | .int4 => "INT4"
  | .int8 => "INT8"

inductive DecimalKind
  | decimal | numeric | dec | bignumeric | bigdecimal
  deriving DecidableEq

def DecimalKind.name : DecimalKind → String
  | .decimal => "DECIMAL" | .numeric => "NUMERIC" | .dec => "DEC" | .bignumeric => "BIGNUMERIC"
  | .bigdecimal => "BIGDECIMAL"

/-- The size of a decimal: nothing, its digits, or its digits and how many of them are decimals. -/
inductive DecimalSize
  | unspecified
  | precision (digits : Nat)
  | precisionAndScale (digits decimals : Nat)
  deriving DecidableEq

inductive CharacterKind
  | char | character | charVarying | characterVarying | varchar
  deriving DecidableEq

def CharacterKind.name : CharacterKind → String
  | .char => "CHAR" | .character => "CHARACTER" | .charVarying => "CHAR VARYING"
  | .characterVarying => "CHARACTER VARYING" | .varchar => "VARCHAR"

inductive LengthUnit
  | characters | octets
  deriving DecidableEq

def LengthUnit.name : LengthUnit → String
  | .characters => "CHARACTERS" | .octets => "OCTETS"

structure CharacterLength where
  length : Nat
  unit : Option LengthUnit
  deriving DecidableEq

/-- Types with an optional size that has no further meaning here. -/
inductive SizedKind
  | nvarchar | charLargeObject | characterLargeObject | clob | blob | binary | varbinary | datetime
  deriving DecidableEq

def SizedKind.name : SizedKind → String
  | .nvarchar => "NVARCHAR" | .charLargeObject => "CHAR LARGE OBJECT"
  | .characterLargeObject => "CHARACTER LARGE OBJECT" | .clob => "CLOB" | .blob => "BLOB"
  | .binary => "BINARY" | .varbinary => "VARBINARY" | .datetime => "DATETIME"

inductive ClockKind
  | time | timestamp
  deriving DecidableEq

def ClockKind.name : ClockKind → String
  | .time => "TIME" | .timestamp => "TIMESTAMP"

/-- How a time type speaks of its time zone; `suffix` is the `TZ` at the end of its name. -/
inductive ZoneMark
  | none | withZone | withoutZone | suffix
  deriving DecidableEq

inductive PlainKind
  | bool | boolean | real | double | doublePrecision | float4 | float8 | date | json | text | uuid
  | string | bytea | interval | regclass
  deriving DecidableEq

def PlainKind.name : PlainKind → String
  | .bool => "BOOL" | .boolean => "BOOLEAN" | .real => "REAL" | .double => "DOUBLE"
  | .doublePrecision => "DOUBLE PRECISION" | .float4 => "FLOAT4" | .float8 => "FLOAT8"
  | .date => "DATE" | .json => "JSON" | .text => "TEXT" | .uuid => "UUID" | .string => "STRING"
  | .bytea => "BYTEA" | .interval => "INTERVAL" | .regclass => "REGCLASS"

inductive DataType
  | integer (kind : IntegerKind) (width : Option Nat) (unsigned : Bool)
  | decimal (kind : DecimalKind) (size : DecimalSize)
  | float (precision : Option Nat)
  | character (kind : CharacterKind) (length : Option CharacterLength)
  | sized (kind : SizedKind) (size : Option Nat)
  | clock (kind : ClockKind) (precision : Option Nat) (zone : ZoneMark)
  | plain (kind : PlainKind)
  | enum (values : List Text)
  | set (values : List Text)
  | array (element : DataType)
  /-- Any other name, with the words, numbers and strings in parentheses behind it. -/
  | custom (name : Name) (modifiers : List Text)

namespace DataType

def sizeText : Option Nat → Text
  | none => []
  | some n => Text.ofPieces ["(", toString n, ")"]

def decimalSizeText : DecimalSize → Text
  | .unspecified => []
  | .precision digits => Text.ofPieces ["(", toString digits, ")"]
  | .precisionAndScale digits decimals =>
    Text.ofPieces ["(", toString digits, ",", toString decimals, ")"]

def lengthText : Option CharacterLength → Text
  | none => []
  | some ⟨n, none⟩ => Text.ofPieces ["(", toString n, ")"]
  | some ⟨n, some unit⟩ => Text.ofPieces ["(", toString n, " ", unit.name, ")"]

def valuesText (values : List Text) : Text :=
  '(' :: Text.joinWith ", ".toList (values.map (Text.between '\'')) ++ [')']

def text : DataType → Text
  | .integer kind width unsigned =>
    kind.name.toList ++ sizeText width ++ if unsigned then " UNSIGNED".toList else []
  | .decimal kind size => kind.name.toList ++ decimalSizeText size
  | .float precision => "FLOAT".toList ++ sizeText precision
  | .character kind length => kind.name.toList ++ lengthText length
  | .sized kind size => kind.name.toList ++ sizeText size
  | .clock kind precision .suffix => kind.name.toList ++ "TZ".toList ++ sizeText precision
  | .clock kind precision .none => kind.name.toList ++ sizeText precision
  | .clock kind precision .withZone =>
    kind.name.toList ++ sizeText precision ++ " WITH TIME ZONE".toList
  | .clock kind precision .withoutZone =>
    kind.name.toList ++ sizeText precision ++ " WITHOUT TIME ZONE".toList
  | .plain kind => kind.name.toList
  | .enum values => "ENUM".toList ++ valuesText values
  | .set values => "SET".toList ++ valuesText values
  | .array element => element.text ++ "[]".toList
  | .custom name [] => name.text
  | .custom name modifiers => name.text ++ '(' :: Text.joinWith ", ".toList modifiers ++ [')']

end DataType

end SqlModels.Sql
