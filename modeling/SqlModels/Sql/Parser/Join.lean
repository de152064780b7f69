import SqlModels.Sql.Parser.Function

namespace SqlModels.Sql.Parser

/-- The words that name no table in a query unless an `AS` stands before them. -/
def tableNameStops : List Keyword :=
  [.WITH, .EXPLAIN, .ANALYZE, .SELECT, .WHERE, .GROUP, .SORT, .HAVING, .ORDER, .PIVOT, .TOP,
   .LATERAL, .VIEW, .LIMIT, .OFFSET, .FETCH, .UNION, .EXCEPT, .INTERSECT, .ON, .JOIN, .INNER,
   .CROSS, .FULL, .LEFT, .RIGHT, .NATURAL, .USING, .CLUSTER, .DISTRIBUTE, .OUTER, .SET, .QUALIFY,
   .WINDOW, .END, .PARTITION]

/-- Another name for what stands before, if there is one. Without an `AS` it is none of the given
words. -/
def alias? (stops : List Keyword) : Parser (Option Ident) := do
  let marked ← keyword? .AS
  let found ← peek
  let named := match found.map Located.token with
    | some (.word w) => marked || !stops.any w.is
    | some (.quoted .single _) => true
    | some (.quoted .double _) => true
    | _ => false
  if named then some <$> identifier
  else if marked then unexpected .aliasName found
  else return none

def tableAlias? : Parser (List Expr) := do
  match ← alias? tableNameStops with
  | some i => return .words [.AS] :: .ident i :: Expr.columns (← columnList?)
  | none => return []

structure JoinMark where
  words : List Keyword
  /-- Whether a condition may follow the table. -/
  conditional : Bool

def sidedJoin (side : Keyword) : Parser (List Keyword) := do
  match ← keywordIn? [.OUTER, .SEMI, .ANTI, .JOIN] with
  | some .OUTER =>
    expectKeyword .JOIN
    return [side, .JOIN]
  | some .JOIN => return [side, .JOIN]
  | some kind =>
    expectKeyword .JOIN
    return [side, kind, .JOIN]
  | none => throw (.incompleteJoin side)

def conditionalJoin? : Parser (List Keyword) := do
  match ← keywordIn? [.INNER, .JOIN, .LEFT, .RIGHT, .FULL] with
  | some .INNER =>
    expectKeyword .JOIN
    return [.JOIN]
  | some .JOIN => return [.JOIN]
  | some .FULL =>
    let _ ← keyword? .OUTER
    expectKeyword .JOIN
    return [.FULL, .JOIN]
  | some side => sidedJoin side
  | none => return []

/-- What goes before a joined table; `none` where no join follows. -/
def joinMark? : Parser (Option JoinMark) := do
  if ← keyword? .CROSS then
    match ← keywordIn? [.JOIN, .APPLY] with
    | some kind => return some ⟨[.CROSS, kind], false⟩
    | none => expected .crossJoin
  if ← keyword? .OUTER then
    expectKeyword .APPLY
    return some ⟨[.OUTER, .APPLY], false⟩
  let natural ← keyword? .NATURAL
  match ← conditionalJoin? with
  | [] =>
    if ← atKeywords [.OUTER] then expected .joinKind
    if natural then expected .naturalJoin
    return none
  | words => return some ⟨if natural then .NATURAL :: words else words, !natural⟩

structure Tables where
  form : Expr
  /-- Whether tables are joined in them, so that they may stand in parentheses. -/
  joined : Bool

section Inner

variable (inner : Inner)

def pivot? : Parser (List Expr) := do
  if ← keyword? .PIVOT then
    expectSymbol .leftParen
    let function ← match (← next).map Located.token with
      | some (.word w) => pure (⟨w.value, none⟩ : Ident)
      | _ => expected .aggregateName
    expectSymbol .leftParen
    let aggregate ← call inner [function]
    let column ← clause .FOR (return [.name (← name)])
    let values ← clause .IN (return [.tuple (← parenthesized (commaSeparated plainValue))])
    expectSymbol .rightParen
    let spread := .enclosed (.words [.PIVOT]) (aggregate :: column ++ values)
    return spread :: (← tableAlias?)
  else return []

/-- Hints behind a table. A `WITH` that is not followed by a parenthesis is left in place. -/
def hints? : Parser (List Expr) := do
  match ← optionally (do
    let marked ← keyword? .WITH
    if marked && (← atSymbol .leftParen) then return some () else return none) with
  | some _ => return [.words [.WITH], .tuple (← parenthesized (commaSeparated inner.value))]
  | none => return []

/-- The partitions of a table that a query reads, printed directly behind its name. -/
def partitionsOf (table : Name) : Parser Expr := do
  if ← keyword? .PARTITION then
    let partitions ← parenthesized (commaSeparated identifier)
    return .enclosed (.verbatim (table.text ++ "PARTITION ".toList)) [.list (partitions.map .ident)]
  else return .name table

def namedFactor : Parser Expr := do
  let table ← name
  let selected ← partitionsOf table
  let rows ← if ← symbol? .leftParen then
      pure (.enclosed selected [.list (← plainArguments inner)])
    else pure selected
  let names ← tableAlias?
  match ← pivot? inner with
  | [] => return rows.followed (names ++ (← hints? inner))
  | columns => return Expr.followed (.name table) (names ++ columns)

def derivedTable : Parser Expr := do
  let rows ← inner.query
  expectSymbol .rightParen
  return (Expr.grouped [rows]).followed (← tableAlias?)

/- Reads the tables in parentheses. -/
variable (enclosed : Parser Tables)

def nestedJoin : Parser Expr := do
  let inside ← enclosed
  if inside.joined then
    expectSymbol .rightParen
    return (Expr.grouped [inside.form]).followed (← tableAlias?)
  else expected .joinedTable

/-- A single table, or what stands for one: the rows of a query or of a function, or joined tables
in parentheses. -/
def tableFactor : Parser Tables := do
  if ← keyword? .LATERAL then
    if ← symbol? .leftParen then return ⟨.phrase [.words [.LATERAL], ← derivedTable inner], false⟩
    else expected .lateralQuery
  else if ← keyword? .TABLE then
    let rows ← worded .TABLE (part inner.value)
    return ⟨rows.followed (← tableAlias?), false⟩
  else if ← symbol? .leftParen then
    match ← attempt (derivedTable inner) with
    | some rows => return ⟨rows, false⟩
    | none => return ⟨← nestedJoin enclosed, true⟩
  else return ⟨← namedFactor inner, false⟩

def joinCondition? : Parser (List Expr) := do
  if ← keyword? .ON then return [.words [.ON], ← inner.value]
  else if ← keyword? .USING then
    return [.enclosed (.words [.USING]) [.list ((← columnList).map .ident)]]
  else return []

def join? : Parser (List Expr) := do
  match ← joinMark? with
  | none => return []
  | some mark =>
    let table ← tableFactor inner enclosed
    let condition ← if mark.conditional then joinCondition? inner else pure []
    return .words mark.words :: table.form :: condition

def joinedTables : Parser Tables := do
  let first ← tableFactor inner enclosed
  match ← repeated (join? inner enclosed) with
  | [] => return first
  | joins => return ⟨first.form.followed joins, true⟩

/-- A table and those joined to it, with at most `depth` parentheses around tables. -/
def tablesUpTo : Nat → Parser Tables
  | 0 => throw .tooDeep
  | depth + 1 => joinedTables inner (tablesUpTo depth)

def tables : Parser Expr := do
  return (← tablesUpTo inner ((← remaining) + 1)).form

end Inner

end SqlModels.Sql.Parser
