import SqlModels.Schema.Basic
import SqlModels.Sql.Parser.Statement
import SqlModels.Text.Casing
import SqlModels.Text.Quoted

namespace SqlModels

namespace ColumnType

def defaultDigits : Nat := 10
def defaultDecimals : Nat := 0

def integer (width : Nat) : ColumnType :=
  { datatype := "int", width := some width }

def decimal (digits decimals : Nat) : ColumnType :=
  { datatype := "decimal", digits := some digits, decimals := some decimals }

def sized (datatype : String) (length : Option Nat) : ColumnType :=
  { datatype := datatype, length := length }

def plain (datatype : String) : ColumnType :=
  { datatype := datatype }

def bytes : Sql.IntegerKind → Nat
  | .tinyint => 1
  | .smallint | .int2 => 2
  | .mediumint => 3
  | .int | .integer | .int4 => 4
  | .bigint | .int8 => 8

def ofDecimalSize : Sql.DecimalSize → ColumnType
  | .unspecified => decimal defaultDigits defaultDecimals
  | .precision digits => decimal digits 0
  | .precisionAndScale digits decimals => decimal digits decimals

/-- The number a modifier spells, if it fits in 64 bits; a plus sign may stand in front. -/
def modifierNumber? (modifier : Text) : Option Nat :=
  let digits := match modifier with
    | '+' :: rest => rest
    | _ => modifier
  if digits = [] then none else (Sql.Parser.readInteger digits 0 digits).toOption

def modifierAt (modifiers : List Text) (index default : Nat) : Nat :=
  ((modifiers[index]?).bind modifierNumber?).getD default

/-- A lower-case type name without the mark of unsigned numeric types, and whether it had that. -/
def splitMark (name : Text) : Text × Bool :=
  let mark := Text.lower Sql.unsignedMark.toList
  if mark.isPrefixOf name then (name.drop mark.length, true) else (name, false)

/-- The type of a custom type name, and whether it is unsigned. A name without a meaning of its
own is its own tag. -/
def ofCustom (name : String) (modifiers : List Text) : ColumnType × Bool :=
  let lowered := lowerCase name
  let (base, unsigned) := splitMark lowered.toList
  match String.ofList base with
  | "tinytext" | "mediumtext" | "longtext" => (plain "text", unsigned)
  | "decimal" | "numeric" =>
    (decimal (modifierAt modifiers 0 defaultDigits) (modifierAt modifiers 1 defaultDecimals),
      unsigned)
  | "float" => (plain "float", unsigned)
  | "double" | "real" => (plain "double", unsigned)
  | _ => (plain lowered, false)

/-- The type of a declared type, and whether that is unsigned. A type without a tag of its own has
its canonical text in lower case as tag. -/
def ofSql (type : Sql.DataType) : ColumnType × Bool :=
  match type with
  | .integer kind _ unsigned => (integer (bytes kind), unsigned)
  | .plain .bool | .plain .boolean => (integer 1, false)
  | .decimal .decimal size | .decimal .numeric size => (ofDecimalSize size, false)
  | .float _ | .plain .float4 => (plain "float", false)
  | .plain .double | .plain .doublePrecision | .plain .real | .plain .float8 =>
    (plain "double", false)
  | .character .char length | .character .character length =>
    (sized "char" (length.map Sql.CharacterLength.length), false)
  | .character .varchar length | .character .charVarying length
  | .character .characterVarying length =>
    (sized "varchar" (length.map Sql.CharacterLength.length), false)
  | .plain .text => (plain "text", false)
  | .sized .datetime _ => (plain "datetime", false)
  | .plain .date => (plain "date", false)
  | .clock .timestamp _ _ => (plain "timestamp", false)
  | .plain .json => (plain "json", false)
  | .custom name modifiers => ofCustom name.last modifiers
  | other => (plain (String.ofList (Text.lower other.text)), false)

end ColumnType

/-- The literal of a default: plain strings are quoted anew, the null value and truth values are
spelled in lower case, any other expression is printed. -/
def defaultLiteral : Sql.Expr → Text
  | .quoted .single content | .quoted .double content => Text.Quoted.encode content
  | .null => "null".toList
  | .boolean value => (if value then "true" else "false").toList
  | other => other.text

/-- Whether an option has the database number the rows: one of its tokens is shown as the word for
that, in any letter case. -/
def Sql.ColumnOption.isAutoIncrement : Sql.ColumnOption → Bool
  | .dialectSpecific tokens =>
    tokens.any fun t => Text.eqIgnoringCase t.text Sql.Keyword.AUTO_INCREMENT.name.toList
  | _ => false

namespace Column

/-- The options of a column after one more option, and whether it is a primary key by then. -/
def addOption (read : ColumnOptions × Bool) (option : Sql.ColumnOption) : ColumnOptions × Bool :=
  match option with
  | .notNull => ({ read.1 with nullable := false }, read.2)
  | .null => ({ read.1 with nullable := true }, read.2)
  | .default value => ({ read.1 with default := some (defaultLiteral value) }, read.2)
  | .primaryKey => (read.1, true)
  | other => if other.isAutoIncrement then ({ read.1 with autoIncrement := true }, read.2) else read

/-- The column of a name, a type and options, and whether these declare it a primary key. -/
def declare (name : String) (type : Sql.DataType) (options : List Sql.ColumnOption) :
    Column × Bool :=
  let (columnType, unsigned) := ColumnType.ofSql type
  let (columnOptions, primary) := options.foldl addOption ({ unsigned := unsigned }, false)
  (⟨name, columnType, columnOptions⟩, primary)

end Column

end SqlModels
