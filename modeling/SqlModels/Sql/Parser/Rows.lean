import SqlModels.Sql.Parser.Query

namespace SqlModels.Sql.Parser

/-- The words before the next equals sign, whatever stands between them. -/
def wordsToEqual : Parser Name := fun ts =>
  let isOther (t : Located) : Bool := t.token ≠ .symbol .equal
  let words := (ts.takeWhile isOther).filterMap fun t =>
    match t.token with
    | .word w => some (wordIdent w)
    | _ => none
  .ok words (ts.dropWhile isOther)

def fileFormats : List Keyword :=
  [.AVRO, .JSONFILE, .ORC, .PARQUET, .RCFILE, .SEQUENCEFILE, .TEXTFILE]

def fileFormat : Parser Keyword :=
  keywordIn fileFormats .fileFormat

section Inner

variable (inner : Inner)

def assignment : Parser Expr := do
  let column ← wordsToEqual
  expectSymbol .equal
  return .phrase [.name column, .verbatim ['='], ← inner.value]

def conflictTarget? : Parser (List Expr) := do
  if ← keywords? [.ON, .CONSTRAINT] then return [.words [.ON, .CONSTRAINT], .name (← name)]
  else return Expr.columns (← columnList?)

def conflictAction : Parser (List Expr) := do
  if ← keyword? .NOTHING then return [.words [.NOTHING]]
  else clause .UPDATE (inOrder [clause .SET (listed (assignment inner)),
    clause? [.WHERE] (part inner.value)])

def onPresent : Parser (List Expr) := do
  if ← keyword? .CONFLICT then
    let target ← conflictTarget?
    return .words [.CONFLICT] :: target ++ (← clause .DO (conflictAction inner))
  else clause .DUPLICATE (clause .KEY (clause .UPDATE (listed (assignment inner))))

def returning? : Parser (List Expr) :=
  clause? [.RETURNING] (listed (selectedItem inner))

/-- The columns that get values; an empty list is as good as none. -/
def insertedColumns? : Parser (List Expr) := do
  if ← symbol? .leftParen then
    if ← symbol? .rightParen then return []
    else
      let columns ← commaSeparated identifier
      expectSymbol .rightParen
      return Expr.columns columns
  else return []

/-- Rows for the files of a directory, behind its word. Its path is printed as it was read. -/
def directoryRows : Parser (List Expr) := do
  let path ← literalString
  let rows ← inOrder [clause? [.STORED, .AS] (return [.words [← fileFormat]]), part inner.query]
  return .words [.DIRECTORY] :: .verbatim ('\'' :: path ++ ['\'']) :: rows

def tableRows : Parser (List Expr) :=
  inOrder [words? [.TABLE], part (Expr.name <$> name), insertedColumns?,
    clause? [.PARTITION] (return [.tuple (← parenthesized (commaSeparated inner.value))]),
    return Expr.columns (← columnList?), part inner.query, clause? [.ON] (onPresent inner),
    returning? inner]

/-- Rows behind `INSERT`. Before a directory an `INTO` is passed over, before a table a `LOCAL`. -/
def insertion : Parser Expr := do
  let mode ← keywordIn? [.INTO, .OVERWRITE]
  let place ← words? [.LOCAL]
  let rows ← if ← keyword? .DIRECTORY then
      let shown := mode.filter fun k => k = .OVERWRITE
      pure (shown.toList.map (.words [·]) ++ place ++ (← directoryRows inner))
    else pure (mode.toList.map (.words [·]) ++ (← tableRows inner))
  return .phrase (.words [.INSERT] :: rows)

/-- New values behind `UPDATE`. A `FROM` is passed over. -/
def update : Parser Expr := do
  let changed ← inOrder [part (tables inner), clause .SET (listed (assignment inner))]
  let _ ← keyword? .FROM
  let rest ← inOrder [clause? [.WHERE] (part inner.value), returning? inner]
  return .phrase (.words [.UPDATE] :: changed ++ rest)

def deletion : Parser Expr := do
  let targets ← if ← atKeywords [.FROM] then pure [] else listed (Expr.name <$> name)
  let rest ← inOrder [clause .FROM (listed (tables inner)),
    clause? [.USING] (listed (tables inner)), clause? [.WHERE] (part inner.value),
    returning? inner]
  return .phrase (.words [.DELETE] :: targets ++ rest)

def queryWith : Parser Expr := do
  let named ← namedQueries? inner
  let body ← if ← keyword? .INSERT then part (insertion inner)
    else if ← keyword? .UPDATE then part (update inner)
    else queryBody inner
  return .phrase (named ++ body)

end Inner

end SqlModels.Sql.Parser
