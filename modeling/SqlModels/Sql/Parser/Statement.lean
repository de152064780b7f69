import SqlModels.Sql.Parser.Alter
import SqlModels.Sql.Unsigned

/-!
The grammar of statements and of statement lists, and the reading of a whole text. Statements that
do not touch tables are read over. Some of them have no rule here and are left out, such as `SHOW`,
`EXPLAIN`, `GRANT`, `MERGE` and `CREATE ROLE`: a text with one of them is a fault.
-/

namespace SqlModels.Sql.Parser

variable {τ : Type}

def renameIndex : Parser Unit := do
  let _ ← name
  if ← keyword? .RENAME then
    if ← keyword? .TO then let _ ← name else expected .indexName
  else expected .indexRenaming

def view : Parser Unit := do
  let _ ← name
  let _ ← columnList?
  namedOptions .WITH
  if ← keyword? .CLUSTER then
    expectKeyword .BY
    let _ ← columnList?
  expectKeyword .AS
  let _ ← query

def alterView : Parser Unit := do
  let _ ← name
  let _ ← columnList?
  namedOptions .WITH
  expectKeyword .AS
  let _ ← query

def alterStatement (typed : Parser (Ident × τ)) : Parser (Statement τ) := do
  if ← keyword? .TABLE then
    let _ ← keywords? [.IF, .EXISTS]
    let _ ← keyword? .ONLY
    let table ← name
    return .alterTable table (← commaSeparated (alterOp typed))
  if ← keyword? .VIEW then
    alterView
    return .other
  if ← keyword? .INDEX then
    renameIndex
    return .other
  if ← keyword? .ROLE then throw .unalterableRole
  expected .alteredObject

def droppedKinds : List Keyword :=
  [.VIEW, .INDEX, .SCHEMA, .SEQUENCE, .STAGE]

/-- The names and options of a `DROP` behind the kind of object. A role takes no options. -/
def droppedNames (role : Bool) : Parser (Bool × List Name) := do
  let ifExists ← keywords? [.IF, .EXISTS]
  let names ← commaSeparated name
  let place := (← peek).map Located.place
  let cascade ← keyword? .CASCADE
  let restrict ← keyword? .RESTRICT
  let purge ← keyword? .PURGE
  if cascade && restrict then throw (.clash .cascadeAndRestrict place)
  if role && (cascade || restrict || purge) then throw (.clash .roleOptions place)
  return (ifExists, names)

def parameter : Parser Unit := do
  let _ ← anyKeyword? [.IN, .OUT, .INOUT]
  match ← dataType with
  | .custom _ _ => let _ ← dataType
  | _ => pure ()
  let default ← keyword? .DEFAULT
  let given ← if default then pure true else symbol? .equal
  if given then let _ ← expression

def functionName : Parser Unit := do
  let _ ← name
  if ← symbol? .leftParen then
    if !(← symbol? .rightParen) then
      let _ ← commaSeparated parameter
      expectSymbol .rightParen

def dropStatement : Parser (Statement τ) := do
  let _ ← keyword? .TEMPORARY
  if ← keyword? .TABLE then
    let (ifExists, names) ← droppedNames false
    return .dropTables ifExists names
  if ← anyKeyword? droppedKinds then
    let _ ← droppedNames false
    return .other
  if ← keyword? .ROLE then
    let _ ← droppedNames true
    return .other
  if ← keyword? .FUNCTION then
    let _ ← keywords? [.IF, .EXISTS]
    let _ ← commaSeparated functionName
    let _ ← anyKeyword? [.CASCADE, .RESTRICT]
    return .other
  expected .droppedObject

/-- An index behind its keyword. Its name may be missing, unless it is to be new. -/
def index : Parser Unit := do
  let _ ← keyword? .CONCURRENTLY
  let ifNotExists ← keywords? [.IF, .NOT, .EXISTS]
  let unnamed ← if ifNotExists then pure false else keyword? .ON
  if !unnamed then
    let _ ← name
    expectKeyword .ON
  let _ ← name
  if ← keyword? .USING then let _ ← identifier
  let _ ← parenthesized (commaSeparated (sortKey .ofStatement))
  if ← keyword? .INCLUDE then let _ ← parenthesized (commaSeparated identifier)
  if ← keyword? .NULLS then
    let _ ← keyword? .NOT
    expectKeyword .DISTINCT
  if ← keyword? .WHERE then let _ ← expression

def schema : Parser Unit := do
  let _ ← keywords? [.IF, .NOT, .EXISTS]
  if ← keyword? .AUTHORIZATION then let _ ← identifier
  else
    let _ ← name
    if ← keyword? .AUTHORIZATION then let _ ← identifier

def locationsUpTo : Nat → Parser Unit
  | 0 => return
  | count + 1 => do
    if ← anyKeyword? [.LOCATION, .MANAGEDLOCATION] then
      let _ ← literalString
      locationsUpTo count

def database : Parser Unit := do
  let _ ← keywords? [.IF, .NOT, .EXISTS]
  let _ ← name
  locationsUpTo (← remaining)

def createStatement (typed : Parser (Ident × τ)) : Parser (Statement τ) := do
  let replace ← keywords? [.OR, .REPLACE]
  let _ ← keywords? [.OR, .ALTER]
  let _ ← keyword? .LOCAL
  let _ ← keyword? .GLOBAL
  let _ ← keyword? .TRANSIENT
  let _ ← anyKeyword? [.TEMP, .TEMPORARY]
  if ← keyword? .TABLE then return .createTable (← createTable typed)
  if ← keyword? .MATERIALIZED then
    expectKeyword .VIEW
    view
    return .other
  if ← keyword? .VIEW then
    view
    return .other
  if ← keyword? .EXTERNAL then return .createTable (← createExternalTable typed)
  let callable := (← peek).any fun t => t.token.is .FUNCTION || t.token.is .MACRO
  if replace && !callable then expected .replacedObject
  if ← keyword? .INDEX then
    index
    return .other
  if ← keywords? [.UNIQUE, .INDEX] then
    index
    return .other
  if ← keyword? .SCHEMA then
    schema
    return .other
  if ← keyword? .DATABASE then
    database
    return .other
  expected .createdObject

def isolationLevel : Parser Unit := do
  if ← keywords? [.READ, .UNCOMMITTED] then return
  else if ← keywords? [.READ, .COMMITTED] then return
  else if ← keywords? [.REPEATABLE, .READ] then return
  else if ← keyword? .SERIALIZABLE then return
  else expected .isolationLevel

def transactionMode? : Parser Bool := do
  if ← keywords? [.ISOLATION, .LEVEL] then
    isolationLevel
    return true
  else if ← keywords? [.READ, .ONLY] then return true
  else keywords? [.READ, .WRITE]

/-- The modes of a transaction, at most `count`; behind a comma there has to be one. -/
def transactionModesUpTo : Nat → Bool → Parser Unit
  | 0, _ => return
  | count + 1, required => do
    if ← transactionMode? then transactionModesUpTo count (← symbol? .comma)
    else if required then expected .transactionMode

def transactionModes : Parser Unit := do
  transactionModesUpTo ((← remaining) + 1) false

def chain : Parser Unit := do
  let _ ← anyKeyword? [.TRANSACTION, .WORK]
  if ← keyword? .AND then
    let _ ← keyword? .NO
    expectKeyword .CHAIN

/-- The values of a variable, at most `count`. A value that cannot be read is missed where its
reading ended. -/
def variableValuesUpTo : Nat → Parser Unit
  | 0 => return
  | count + 1 => do
    match ← tolerate expression with
    | none => expected .variableValue
    | some _ => if ← symbol? .comma then variableValuesUpTo count

def characterSet : Parser Unit := do
  if !(← keyword? .DEFAULT) then
    let _ ← literalString
    if ← keyword? .COLLATE then let _ ← literalString

def sessionRole : Parser Unit := do
  if !(← keyword? .NONE) then let _ ← identifier

def timeZoneVariable : Name := [⟨"TIMEZONE", none⟩]

/-- The value of a variable, or the setting that is written without an equals sign. A modifier rules
out settings of one transaction. -/
def setting (target : Name) (modified : Bool) : Parser Unit := do
  let equal ← symbol? .equal
  let assigned ← if equal then pure true else keyword? .TO
  if assigned then variableValuesUpTo ((← remaining) + 1)
  else if Text.eqIgnoringCase target.text timeZoneVariable.text then
    match ← tolerate expression with
    | none => expected .timeZoneValue
    | some _ => return
  else if target.text = "CHARACTERISTICS".toList then
    expectKeyword .AS
    expectKeyword .TRANSACTION
    transactionModes
  else if target.text = "TRANSACTION".toList && !modified then
    if ← keyword? .SNAPSHOT then let _ ← plainValue else transactionModes
  else expected .assignment

def setStatement : Parser (Statement τ) := do
  let modified ← anyKeyword? [.SESSION, .LOCAL]
  let hive ← if modified then pure false else keyword? .HIVEVAR
  if hive then expectSymbol .colon
  let role ← if hive then pure false else keyword? .ROLE
  if role then sessionRole
  else
    let target ← if ← keywords? [.TIME, .ZONE] then pure timeZoneVariable else name
    if Text.eqIgnoringCase target.text "NAMES".toList then characterSet
    else setting target (modified || hive)
  return .other

def truncateStatement : Parser (Statement τ) := do
  let _ ← keyword? .TABLE
  let _ ← name
  if ← keyword? .PARTITION then partition
  return .other

def rowStatement? : Parser (Option Expr) := do
  match ← keywordIn? [.INSERT, .UPDATE, .DELETE] with
  | some .INSERT => some <$> insertion .ofStatement
  | some .UPDATE => some <$> update .ofStatement
  | some _ => some <$> deletion .ofStatement
  | none =>
    let parenthesis ← atSymbol .leftParen
    let start := (← peek).any fun t => [Keyword.SELECT, .WITH, .VALUES].any t.token.is
    if parenthesis || start then some <$> query else return none

def statement (typed : Parser (Ident × τ)) : Parser (Statement τ) := do
  if ← keyword? .CREATE then return ← createStatement typed
  if ← keyword? .ALTER then return ← alterStatement typed
  if ← keyword? .DROP then return ← dropStatement
  if ← keyword? .SET then return ← setStatement
  if ← keyword? .TRUNCATE then return ← truncateStatement
  if (← rowStatement?).isSome then return .other
  if ← keyword? .USE then
    let _ ← identifier
    return .other
  if ← keyword? .START then
    expectKeyword .TRANSACTION
    transactionModes
    return .other
  if ← keyword? .BEGIN then
    let _ ← anyKeyword? [.TRANSACTION, .WORK]
    transactionModes
    return .other
  if ← anyKeyword? [.COMMIT, .ROLLBACK] then
    chain
    return .other
  expected .statement

/-- Passes over the semicolons in front and tells whether there were any. -/
def semicolons : Parser Bool := fun ts =>
  .ok (ts.head?.any fun t => t.token = .symbol .semicolon)
    (ts.dropWhile fun t => t.token = .symbol .semicolon)

/-- Statements up to the end of the text or a word `END`, at most `count`; `delimited` tells whether
one may start here. -/
def statementsUpTo (typed : Parser (Ident × τ)) : Nat → Bool → Parser (List (Statement τ))
  | 0, _ => expected .statementEnd
  | count + 1, delimited => do
    let delimited := (← semicolons) || delimited
    match ← peek with
    | none => return []
    | some t =>
      if t.token.is .END then return []
      else if delimited then
        let first ← statement typed
        return first :: (← statementsUpTo typed count false)
      else expected .statementEnd

def statements (typed : Parser (Ident × τ)) : Parser (List (Statement τ)) := do
  statementsUpTo typed ((← remaining) + 1) true

end Parser

def parse (text : Text) : Except Fault (List Statement) := do
  let ts := (foldUnsigned (← tokens text)).filter fun t => !t.token.isGap
  match Parser.statements Parser.typedName ts with
  | .ok list _ => return list
  | .error fault _ => throw fault

end SqlModels.Sql
