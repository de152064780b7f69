import SqlModels.Sql.Statement
import SqlModels.Sql.Parser.Expr

namespace SqlModels.Sql.Parser

variable {τ : Type}

def referentialAction : Parser Unit := do
  if ← keyword? .RESTRICT then return
  else if ← keyword? .CASCADE then return
  else if ← keywords? [.SET, .NULL] then return
  else if ← keywords? [.NO, .ACTION] then return
  else if ← keywords? [.SET, .DEFAULT] then return
  else expected .referentialAction

/-- `ON DELETE` and `ON UPDATE`, each at most once. -/
def referentialActions : Parser Unit := do
  if ← keywords? [.ON, .DELETE] then
    referentialAction
    if ← keywords? [.ON, .UPDATE] then referentialAction
  else if ← keywords? [.ON, .UPDATE] then
    referentialAction
    if ← keywords? [.ON, .DELETE] then referentialAction

def sequenceLimit (k : Keyword) : Parser Unit := do
  if ← keyword? k then let _ ← numberValue
  else let _ ← keywords? [.NO, k]

def sequenceOptions : Parser Unit := do
  if ← keyword? .INCREMENT then
    let _ ← keyword? .BY
    let _ ← numberValue
  sequenceLimit .MINVALUE
  sequenceLimit .MAXVALUE
  if ← keyword? .START then
    let _ ← keyword? .WITH
    let _ ← numberValue
  if ← keyword? .CACHE then let _ ← numberValue
  let _ ← keyword? .NO
  let _ ← keyword? .CYCLE

/-- What follows `GENERATED`; where that is not complete, nothing comes of it. -/
def generated : Parser (Option ColumnOption) := do
  let always ← keywords? [.ALWAYS, .AS, .IDENTITY]
  let identity ← if always then pure true else keywords? [.BY, .DEFAULT, .AS, .IDENTITY]
  if identity then
    if ← atSymbol .leftParen then parenthesized sequenceOptions
    return some .identity
  else if ← keywords? [.ALWAYS, .AS] then
    if ← atSymbol .leftParen then
      let value ← parenthesized expression
      return some (.generated value (← keyword? .STORED))
    else return none
  else return none

/-- One option of a column. `AUTOINCREMENT` is passed over, as is a `GENERATED` that is not
complete. -/
def columnOption? : Parser (Option ColumnOption) := do
  if ← keywords? [.CHARACTER, .SET] then return some (.characterSet (← name))
  if ← keywords? [.NOT, .NULL] then return some .notNull
  if ← keyword? .COMMENT then
    match ← next with
    | some ⟨.quoted .single text, _⟩ => return some (.comment text)
    | found => unexpected .commentText found
  if ← keyword? .NULL then return some .null
  if ← keyword? .DEFAULT then return some (.default (← expression))
  if ← keywords? [.PRIMARY, .KEY] then return some .primaryKey
  if ← keyword? .UNIQUE then return some .unique
  if ← keyword? .REFERENCES then
    let table ← name
    let columns ← columnList?
    referentialActions
    return some (.references table columns)
  if ← keyword? .CHECK then return some (.check (← parenthesized expression))
  if ← keyword? .AUTO_INCREMENT then
    return some (.dialectSpecific [.ofKeyword .AUTO_INCREMENT])
  let _ ← keyword? .AUTOINCREMENT
  if ← keywords? [.ON, .UPDATE] then return some (.onUpdate (← expression))
  if ← keyword? .GENERATED then generated else return none

def bareOptionsUpTo : Nat → Parser (List ColumnOption)
  | 0 => return []
  | count + 1 => do
    match ← columnOption? with
    | some o => return o :: (← bareOptionsUpTo count)
    | none => return []

/-- Column options, any of them named by a `CONSTRAINT`, at most `count`. -/
def optionsUpTo : Nat → Parser (List ColumnOption)
  | 0 => return []
  | count + 1 => do
    if ← keyword? .CONSTRAINT then
      let _ ← identifier
      match ← columnOption? with
      | some o => return o :: (← optionsUpTo count)
      | none => expected .constraintDetails
    else
      match ← columnOption? with
      | some o => return o :: (← optionsUpTo count)
      | none => return []

def typedName : Parser (Ident × DataType) := do
  let column ← identifier
  return (column, ← dataType)

def columnDef (typed : Parser (Ident × τ)) : Parser (ColumnDef τ) := do
  let (column, type) ← typed
  if ← keyword? .COLLATE then let _ ← name
  return ⟨column, type, ← optionsUpTo (← remaining)⟩

def keyColumns : Parser (List Ident) := do
  let _ ← keyword? .KEY
  let _ ← attempt identifier
  columnList

def indexColumns : Parser (List Ident) := do
  match ← peek with
  | some t => if !t.token.is .USING then let _ ← attempt identifier
  | none => pure ()
  if ← keyword? .USING then
    if !(← anyKeyword? [.BTREE, .HASH]) then expected .indexType
  columnList

def fulltextColumns : Parser (List Ident) := do
  let _ ← anyKeyword? [.KEY, .INDEX]
  let _ ← attempt identifier
  columnList

/-- A constraint of a table, if one stands in front. A full-text index takes no constraint name. -/
def tableConstraint? : Parser (Option TableConstraint) := do
  let label ← if ← keyword? .CONSTRAINT then some <$> identifier else pure none
  if ← keyword? .PRIMARY then return some (.primaryKey (← keyColumns))
  if ← keyword? .UNIQUE then return some (.unique (← keyColumns))
  if ← keyword? .FOREIGN then
    expectKeyword .KEY
    let columns ← columnList
    expectKeyword .REFERENCES
    let table ← name
    let referred ← columnList
    referentialActions
    return some (.foreignKey columns table referred)
  if ← keyword? .CHECK then return some (.check (← parenthesized expression))
  if ← anyKeyword? [.INDEX, .KEY] then return some (.index (← indexColumns))
  let found ← peek
  if ← anyKeyword? [.FULLTEXT, .SPATIAL] then
    match label, found with
    | some i, some t =>
      unexpected .unnamedFulltext (some ⟨.word ⟨String.ofList i.text, false⟩, t.place⟩)
    | _, _ => return some (.fulltext (← fulltextColumns))
  if label.isSome then unexpected .tableConstraint found else return none

def tableItem (typed : Parser (Ident × τ)) : Parser (ColumnDef τ ⊕ TableConstraint) := do
  match ← tableConstraint? with
  | some c => return .inr c
  | none =>
    match ← peek with
    | some ⟨.word _, _⟩ => return .inl (← columnDef typed)
    | found => unexpected .columnOrConstraint found

/-- Table items up to the closing parenthesis, at most `count`. A comma may stand before it. -/
def tableItemsUpTo (typed : Parser (Ident × τ)) :
    Nat → Parser (List (ColumnDef τ ⊕ TableConstraint))
  | 0 => expected .columnOrConstraint
  | count + 1 => do
    let item ← tableItem typed
    let comma ← symbol? .comma
    if ← symbol? .rightParen then return [item]
    else if comma then return item :: (← tableItemsUpTo typed count)
    else expected .columnEnd

/-- The items of a table; a missing list and an empty one hold none. -/
def tableItems (typed : Parser (Ident × τ)) : Parser (List (ColumnDef τ ⊕ TableConstraint)) := do
  if ← symbol? .leftParen then
    if ← symbol? .rightParen then return []
    else tableItemsUpTo typed ((← remaining) + 1)
  else return []

def optionWord : Parser Unit := do
  expectSymbol .equal
  match ← next with
  | some ⟨.word _, _⟩ => return
  | found => unexpected .identifier found

def maxStart : Nat := 4294967295

/-- Reading a start value that is no 32-bit number is an unrecoverable failure. -/
def startValue : Parser Unit := do
  match ← next with
  | some ⟨.number digits _, _⟩ =>
    match readInteger digits 0 digits with
    | .ok n => if maxStart < n then throw .abort
    | .error _ => throw .abort
  | found => unexpected .integer found

def namedOptions (k : Keyword) : Parser Unit := do
  if ← keyword? k then
    let _ ← parenthesized (commaSeparated do
      let _ ← identifier
      expectSymbol .equal
      plainValue)

def sortedBy : Parser Unit := do
  if ← symbol? .leftParen then
    if !(← atSymbol .rightParen) then let _ ← commaSeparated identifier
    expectSymbol .rightParen
  else let _ ← identifier

def onCommit : Parser Unit := do
  if ← keywords? [.ON, .COMMIT, .DELETE, .ROWS] then return
  else if ← keywords? [.ON, .COMMIT, .PRESERVE, .ROWS] then return
  else let _ ← keywords? [.ON, .COMMIT, .DROP]

def rowFormat : Parser Unit := do
  match ← keywordIn? [.SERDE, .DELIMITED] with
  | some .SERDE => let _ ← literalString
  | _ => return

/-- The files that hold the rows of a table, by one format or by one for either direction. -/
def tableFiles : Parser Unit := do
  if ← keyword? .INPUTFORMAT then
    let _ ← expression
    expectKeyword .OUTPUTFORMAT
    let _ ← expression
  else let _ ← fileFormat

def storageMark? : Parser Bool := do
  match ← keywordIn? [.ROW, .STORED, .LOCATION] with
  | some .ROW =>
    expectKeyword .FORMAT
    rowFormat
    return true
  | some .STORED =>
    expectKeyword .AS
    tableFiles
    return true
  | some _ =>
    let _ ← literalString
    return true
  | none => return false

def storageMarksUpTo : Nat → Parser Unit
  | 0 => return
  | count + 1 => do
    if ← storageMark? then storageMarksUpTo count

def storage : Parser Unit := do
  if ← keywords? [.PARTITIONED, .BY] then
    let _ ← parenthesized (commaSeparated (columnDef typedName))
  storageMarksUpTo (← remaining)

def tableOptions : Parser Unit := do
  let _ ← keywords? [.WITHOUT, .ROWID]
  storage
  namedOptions .WITH
  namedOptions .TBLPROPERTIES
  if ← keyword? .ENGINE then optionWord
  if ← keyword? .COMMENT then
    let _ ← symbol? .equal
    match ← next with
    | some ⟨.quoted .single _, _⟩ => pure ()
    | found => unexpected .tableComment found
  if ← keyword? .AUTO_INCREMENT then
    let _ ← symbol? .equal
    startValue
  if ← keywords? [.ORDER, .BY] then sortedBy
  if ← keyword? .AS then let _ ← query
  if ← keywords? [.DEFAULT, .CHARSET] then optionWord
  if ← keyword? .COLLATE then optionWord
  onCommit
  let _ ← keyword? .STRICT

def clusterName : Parser Unit := do
  match ← next with
  | some ⟨.word _, _⟩ => return
  | some ⟨.quoted .single _, _⟩ => return
  | found => unexpected .clusterName found

/-- A table definition behind `CREATE TABLE`. The name of a table to be like may be missing. -/
def createTable (typed : Parser (Ident × τ)) : Parser (CreateTable τ) := do
  let ifNotExists ← keywords? [.IF, .NOT, .EXISTS]
  let table ← name
  if ← keywords? [.ON, .CLUSTER] then clusterName
  if ← anyKeyword? [.LIKE, .ILIKE] then let _ ← tolerate name
  if ← keyword? .CLONE then let _ ← tolerate name
  let items ← tableItems typed
  tableOptions
  return .ofItems table ifNotExists items

def createExternalTable (typed : Parser (Ident × τ)) : Parser (CreateTable τ) := do
  expectKeyword .TABLE
  let ifNotExists ← keywords? [.IF, .NOT, .EXISTS]
  let table ← name
  let items ← tableItems typed
  storage
  namedOptions .TBLPROPERTIES
  return .ofItems table ifNotExists items

end SqlModels.Sql.Parser
