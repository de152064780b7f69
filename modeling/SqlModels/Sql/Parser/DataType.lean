import SqlModels.Sql.DataType
import SqlModels.Sql.Parser.Basic

/-!
The grammar of types. Each type keyword has its rule; any other word starts the name of a custom
type; pairs of brackets behind a type make arrays of it.
-/

namespace SqlModels.Sql.Parser

def size? : Parser (Option Nat) := do
  if ← atSymbol .leftParen then return some (← parenthesized integer) else return none

def integerType (kind : IntegerKind) : Parser DataType := do
  let width ← size?
  return .integer kind width (← keyword? .UNSIGNED)

def decimalSize : Parser DecimalSize := do
  let digits ← integer
  if ← symbol? .comma then return .precisionAndScale digits (← integer)
  else return .precision digits

def decimalType (kind : DecimalKind) : Parser DataType := do
  if ← atSymbol .leftParen then return .decimal kind (← parenthesized decimalSize)
  else return .decimal kind .unspecified

def lengthUnit? : Parser (Option LengthUnit) := do
  if ← keyword? .CHARACTERS then return some .characters
  else if ← keyword? .OCTETS then return some .octets
  else return none

def characterLength : Parser CharacterLength := do
  let length ← integer
  return ⟨length, ← lengthUnit?⟩

def characterType (kind : CharacterKind) : Parser DataType := do
  if ← atSymbol .leftParen then
    return .character kind (some (← parenthesized characterLength))
  else return .character kind none

def sizedType (kind : SizedKind) : Parser DataType := do
  return .sized kind (← size?)

/-- The type behind `CHAR` or `CHARACTER`, which come in three kinds each. -/
def charType (fixed varying : CharacterKind) (large : SizedKind) : Parser DataType := do
  if ← keyword? .VARYING then characterType varying
  else if ← keywords? [.LARGE, .OBJECT] then sizedType large
  else characterType fixed

def timeZone : Parser ZoneMark := do
  if ← keyword? .WITH then
    expectKeyword .TIME
    expectKeyword .ZONE
    return .withZone
  else if ← keyword? .WITHOUT then
    expectKeyword .TIME
    expectKeyword .ZONE
    return .withoutZone
  else return .none

def clockType (kind : ClockKind) : Parser DataType := do
  let precision ← size?
  return .clock kind precision (← timeZone)

def readValues : Parser (List Text)
  | [] => .error (.unexpected .enumValue none) []
  | [t] =>
    match t.token with
    | .quoted .single _ => .error (.unexpected .enumEnd none) []
    | _ => .error (.unexpected .enumValue (some t)) []
  | t :: u :: rest =>
    match t.token with
    | .quoted .single content =>
      if u.token = .symbol .comma then
        match readValues rest with
        | .ok values behind => .ok (content :: values) behind
        | .error fault behind => .error fault behind
      else if u.token = .symbol .rightParen then .ok [content] rest
      else .error (.unexpected .enumEnd (some u)) rest
    | _ => .error (.unexpected .enumValue (some t)) (u :: rest)

def values : Parser (List Text) := do
  expectSymbol .leftParen
  readValues

def modifierOf? (t : Token) : Option Text :=
  match t with
  | .word _ => some t.text
  | .number digits _ => some digits
  | .quoted .single content => some content
  | _ => none

/-- Modifiers behind their opening parenthesis; commas may stand anywhere between them. -/
def readModifiers : Parser (List Text)
  | [] => .error (.unexpected .typeModifiers none) []
  | t :: rest =>
    if t.token = .symbol .rightParen then .ok [] rest
    else if t.token = .symbol .comma then readModifiers rest
    else match modifierOf? t.token with
      | none => .error (.unexpected .typeModifiers (some t)) rest
      | some m =>
        match readModifiers rest with
        | .ok modifiers behind => .ok (m :: modifiers) behind
        | .error fault behind => .error fault behind

def customType : Parser DataType := do
  let n ← name
  if ← symbol? .leftParen then return .custom n (← readModifiers)
  else return .custom n []

def arrayType (element : Parser DataType) : Parser DataType := do
  expectSymbol .less
  let inner ← element
  expectSymbol .greater
  return .array inner

/-- The rule of every type keyword, given the parser for the elements of an array. -/
def typeRules (element : Parser DataType) : List (Keyword × Parser DataType) :=
  [(.TINYINT, integerType .tinyint), (.SMALLINT, integerType .smallint),
   (.MEDIUMINT, integerType .mediumint), (.INT, integerType .int), (.INTEGER, integerType .integer),
   (.BIGINT, integerType .bigint), (.INT2, integerType .int2), (.INT4, integerType .int4),
   (.INT8, integerType .int8), (.DECIMAL, decimalType .decimal), (.NUMERIC, decimalType .numeric),
   (.DEC, decimalType .dec), (.BIGNUMERIC, decimalType .bignumeric),
   (.BIGDECIMAL, decimalType .bigdecimal), (.FLOAT, return .float (← size?)),
   (.DOUBLE, return .plain (if ← keyword? .PRECISION then .doublePrecision else .double)),
   (.VARCHAR, characterType .varchar), (.CHAR, charType .char .charVarying .charLargeObject),
   (.CHARACTER, charType .character .characterVarying .characterLargeObject),
   (.NVARCHAR, sizedType .nvarchar), (.CLOB, sizedType .clob), (.BLOB, sizedType .blob),
   (.BINARY, sizedType .binary), (.VARBINARY, sizedType .varbinary),
   (.DATETIME, sizedType .datetime), (.TIMESTAMP, clockType .timestamp), (.TIME, clockType .time),
   (.TIMESTAMPTZ, return .clock .timestamp (← size?) .suffix),
   (.TIMETZ, return .clock .time (← size?) .suffix), (.ENUM, return .enum (← values)),
   (.SET, return .set (← values)), (.ARRAY, arrayType element), (.BOOL, return .plain .bool),
   (.BOOLEAN, return .plain .boolean), (.REAL, return .plain .real),
   (.FLOAT4, return .plain .float4), (.FLOAT8, return .plain .float8), (.DATE, return .plain .date),
   (.JSON, return .plain .json), (.TEXT, return .plain .text), (.UUID, return .plain .uuid),
   (.STRING, return .plain .string), (.BYTEA, return .plain .bytea),
   (.INTERVAL, return .plain .interval), (.REGCLASS, return .plain .regclass)]

def baseType (element : Parser DataType) : Parser DataType := do
  match ← peek with
  | some ⟨.word w, _⟩ =>
    match (typeRules element).find? fun rule => w.is rule.1 with
    | some (_, rule) => let _ ← next; rule
    | none => customType
  | found => unexpected .dataType found

/-- An array of arrays for every pair of brackets, at most `count`. -/
def bracketsUpTo : Nat → DataType → Parser DataType
  | 0, type => return type
  | count + 1, type => do
    if ← symbol? .leftBracket then
      expectSymbol .rightBracket
      bracketsUpTo count (.array type)
    else return type

/-- A type with at most `depth` types around its innermost element. -/
def dataTypeUpTo : Nat → Parser DataType
  | 0 => throw .tooDeep
  | depth + 1 => do
    let type ← baseType (dataTypeUpTo depth)
    bracketsUpTo (← remaining) type

def dataType : Parser DataType := do
  dataTypeUpTo ((← remaining) + 1)

end SqlModels.Sql.Parser
