import SqlModels.Sql.Parser.Join

namespace SqlModels.Sql.Parser

/-- The words that name no selected item unless an `AS` stands before them. -/
def itemNameStops : List Keyword :=
  [.WITH, .EXPLAIN, .ANALYZE, .SELECT, .WHERE, .GROUP, .SORT, .HAVING, .ORDER, .TOP, .LATERAL,
   .VIEW, .LIMIT, .OFFSET, .FETCH, .UNION, .EXCEPT, .INTERSECT, .CLUSTER, .DISTRIBUTE, .FROM,
   .INTO, .END]

def elementNameStops : List Keyword :=
  [.WHERE, .GROUP, .CLUSTER, .HAVING, .LATERAL]

/-- A table named behind `TABLE`, perhaps in a schema. Three tokens are taken even where the first
is the whole name. -/
def namedTable : Parser Expr := do
  let first ← next
  let second ← next
  let third ← next
  if second.any fun t => t.token = .symbol .period then
    match first.map Located.token, third.map Located.token with
    | some (.word schema), some (.word table) =>
      return .phrase [.words [.TABLE], .name [⟨schema.value, none⟩, ⟨table.value, none⟩]]
    | some (.word _), _ => unexpected .tableName third
    | _, _ => unexpected .schemaName first
  else
    match first.map Located.token with
    | some (.word table) => return .phrase [.words [.TABLE], .ident ⟨table.value, none⟩]
    | _ => unexpected .tableName first

structure RowLimits where
  count : Option Expr
  skipped : Option Expr

section Inner

variable (inner : Inner)

def selectedItem : Parser Expr := do
  match ← item inner with
  | .star table => return .star table
  | e =>
    match ← alias? itemNameStops with
    | some i => return .phrase [e, .words [.AS], .ident i]
    | none => return e

def top? : Parser (List Expr) := do
  if ← keyword? .TOP then
    let count ← if ← atSymbol .leftParen then parenthesized inner.value else numberValue
    return .words [.TOP] :: .grouped [count]
      :: (← inOrder [words? [.PERCENT], words? [.WITH, .TIES]])
  else return []

def temporary? : Parser (List Expr) := do
  if ← anyKeyword? [.TEMP, .TEMPORARY] then return [.words [.TEMPORARY]] else return []

def into? : Parser (List Expr) :=
  clause? [.INTO] (inOrder [temporary?, words? [.UNLOGGED], words? [.TABLE],
    part (Expr.name <$> name)])

def elementView? : Parser (List Expr) := do
  if ← keywords? [.LATERAL, .VIEW] then
    let outer ← words? [.OUTER]
    let elements ← inner.value
    let view ← name
    let columns := (← commaSeparated (alias? elementNameStops)).filterMap id
    let names := if columns.isEmpty then [] else [.words [.AS], .list (columns.map .ident)]
    return .words [.LATERAL, .VIEW] :: outer ++ [elements, .name view] ++ names
  else return []

def groupKeys : Parser (List Expr) := do
  if ← keyword? .ALL then return [.words [.ALL]] else listed inner.value

def namedWindow : Parser Expr := do
  let i ← identifier
  expectKeyword .AS
  expectSymbol .leftParen
  return .phrase [.ident i, .words [.AS], ← window inner]

def selection : Parser Expr := do
  let parts ← inOrder [distinct? inner, top? inner, listed (selectedItem inner), into?,
    clause? [.FROM] (listed (tables inner)), repeated (elementView? inner),
    clause? [.WHERE] (part inner.value), clause? [.GROUP, .BY] (groupKeys inner),
    clause? [.CLUSTER, .BY] (listed inner.value), clause? [.DISTRIBUTE, .BY] (listed inner.value),
    clause? [.SORT, .BY] (listed inner.value), clause? [.HAVING] (part inner.value),
    clause? [.WINDOW] (listed (namedWindow inner)), clause? [.QUALIFY] (part inner.value)]
  return .phrase (.words [.SELECT] :: parts)

/-- A row of values, which may be empty, and whether it is marked as a row. -/
def valuesRow : Parser (Bool × List Expr) := do
  let marked ← keyword? .ROW
  expectSymbol .leftParen
  if ← symbol? .rightParen then return (marked, [])
  else
    let row ← commaSeparated inner.value
    expectSymbol .rightParen
    return (marked, row)

/-- Rows of values. If one is marked, all are printed with the mark. -/
def valuesRows : Parser Expr := do
  let rows ← commaSeparated (valuesRow inner)
  let front := if rows.any Prod.fst then .words [.ROW] else .verbatim []
  return .phrase [.words [.VALUES], .list (rows.map fun row => .enclosed front [.list row.2])]

def queryTerm : Parser Expr := do
  if ← keyword? .SELECT then selection inner
  else if ← symbol? .leftParen then
    let rows ← inner.query
    expectSymbol .rightParen
    return .grouped [rows]
  else if ← keyword? .VALUES then valuesRows inner
  else if ← keyword? .TABLE then namedTable
  else expected .query

/-- Whether a set operator keeps repeated rows, and whether it goes by the names of columns. -/
def setQuantifier? (op : Keyword) : Parser (List Expr) :=
  if op = .UNION then
    firstOf [words? [.BY, .NAME], words? [.ALL, .BY, .NAME], wordIn? [.ALL, .DISTINCT]]
  else wordIn? [.ALL, .DISTINCT]

def furtherTerm? : Parser (List Expr) := do
  match ← keywordIn? [.UNION, .EXCEPT, .INTERSECT] with
  | some op =>
    let quantifier ← setQuantifier? op
    return .words [op] :: quantifier ++ [← queryTerm inner]
  | none => return []

def offset? : Parser (Option Expr) := do
  if ← keyword? .OFFSET then
    let count ← inner.value
    return some (count.followed (← wordIn? [.ROW, .ROWS]))
  else return none

/-- The limits that are not set yet, each if it stands in front. Two numbers behind `LIMIT` are the
rows to leave out and the rows to give. -/
def furtherLimits (set : RowLimits) : Parser RowLimits := do
  let count ← if set.count.isNone then limit? inner else pure set.count
  let skipped ← if set.skipped.isNone then offset? inner else pure set.skipped
  match count, skipped with
  | some first, none =>
    if ← symbol? .comma then return ⟨some (← inner.value), some first⟩
    else return ⟨some first, none⟩
  | _, _ => return ⟨count, skipped⟩

def rowLimits : Parser (List Expr) := do
  let limits ← furtherLimits inner (← furtherLimits inner ⟨none, none⟩)
  return limits.count.toList.flatMap (fun count => [.words [.LIMIT], count])
    ++ limits.skipped.toList.flatMap (fun count => [.words [.OFFSET], count])

def fetchedCount : Parser (List Expr) := do
  let count ← inOrder [part plainValue, words? [.PERCENT]]
  let _ ← eitherKeyword .ROW .ROWS
  return count

def fetch : Parser (List Expr) := do
  let _ ← eitherKeyword .FIRST .NEXT
  let count ← if ← anyKeyword? [.ROW, .ROWS] then pure [] else fetchedCount
  match ← firstOf [words? [.ONLY], words? [.WITH, .TIES]] with
  | [] => expected .fetchEnd
  | last => return .words [.FIRST] :: count ++ .words [.ROWS] :: last

def lock : Parser (List Expr) := do
  let kind ← eitherKeyword .UPDATE .SHARE
  return .words [kind] :: (← inOrder [clause? [.OF] (part (Expr.name <$> name)),
    firstOf [words? [.NOWAIT], words? [.SKIP, .LOCKED]]])

def queryBody : Parser (List Expr) :=
  inOrder [part (queryTerm inner), repeated (furtherTerm? inner), orderBy? inner, rowLimits inner,
    clause? [.FETCH] fetch, repeated (clause? [.FOR] lock)]

def namedColumns : Parser (List Ident) := do
  if ← keyword? .AS then return []
  else
    let columns ← columnList?
    expectKeyword .AS
    return columns

def namedQuery : Parser Expr := do
  let i ← identifier
  let columns ← namedColumns
  let rows ← parenthesized inner.query
  let source ← clause? [.FROM] (part (Expr.ident <$> identifier))
  return (Expr.ident i).followed
    (Expr.columns columns ++ [.words [.AS], .grouped [rows]] ++ source)

def namedQueries? : Parser (List Expr) :=
  clause? [.WITH] (inOrder [words? [.RECURSIVE], listed (namedQuery inner)])

end Inner

end SqlModels.Sql.Parser
