import SqlModels.Sql.Parser.Call

/-!
The grammar of functions whose arguments are set apart by words: conversions, decisions, pieces of
texts and dates, and aggregates with clauses of their own.
-/

namespace SqlModels.Sql.Parser

/-- How a full-text search reads what it looks for. -/
def searchMode? : Parser (List Expr) := do
  if ← keywords? [.IN, .NATURAL, .LANGUAGE, .MODE] then
    return .words [.IN, .NATURAL, .LANGUAGE, .MODE] :: (← words? [.WITH, .QUERY, .EXPANSION])
  else if ← keywords? [.IN, .BOOLEAN, .MODE] then return [.words [.IN, .BOOLEAN, .MODE]]
  else words? [.WITH, .QUERY, .EXPANSION]

def search : Parser Expr := do
  let columns ← columnList
  expectKeyword .AGAINST
  let sought ← parenthesized (inOrder [part plainValue, searchMode?])
  return .phrase (.words [.MATCH] :: Expr.columns columns ++ [.words [.AGAINST], .grouped sought])

section Inner

variable (inner : Inner)

def conversion (function : Keyword) : Parser Expr := do
  expectSymbol .leftParen
  let value ← inner.value
  expectKeyword .AS
  let type ← dataType
  expectSymbol .rightParen
  return .cast function value type

def branch : Parser (List Expr) := do
  let condition ← inner.value
  return .words [.WHEN] :: condition :: (← clause .THEN (part inner.value))

def branch? : Parser (List Expr) := do
  if ← keyword? .WHEN then branch inner else return []

/-- The value that a decision compares, if any; the word behind it has been taken. -/
def compared? : Parser (List Expr) := do
  if ← keyword? .WHEN then return []
  else
    let value ← inner.value
    expectKeyword .WHEN
    return [value]

def decision : Parser Expr := do
  let parts ← inOrder [compared? inner, branch inner, repeated (branch? inner),
    clause? [.ELSE] (part inner.value), clause .END (return [])]
  return .phrase (.words [.CASE] :: parts)

/-- A query in parentheses behind the word that asks whether it gives rows. -/
def existence (negated : Bool) : Parser Expr := do
  let rows ← parenthesized (part inner.query)
  return .phrase [.words (if negated then [.NOT, .EXISTS] else [.EXISTS]), .grouped rows]

def extraction : Parser Expr :=
  worded .EXTRACT do
    let field ← dateField
    return .words [field] :: (← clause .FROM (part inner.value))

def rounding (function : Keyword) : Parser Expr :=
  worded function (inOrder [part inner.value,
    clause? [.TO] (return [.words [← dateField]])])

def position : Parser Expr :=
  worded .POSITION do
    let needle ← inner.operand (.above 20)
    if ← keyword? .IN then return [needle, .words [.IN], ← inner.value]
    else throw (.positionWithoutIn ((← peek).map Located.place))

/-- A value behind a word, in whose place a comma may stand. -/
def markedValue? (k : Keyword) : Parser (List Expr) := do
  let marked ← keyword? k
  if ← if marked then pure true else symbol? .comma then return [.words [k], ← inner.value]
  else return []

def piece : Parser Expr :=
  worded .SUBSTRING (inOrder [part inner.value, markedValue? inner .FROM, markedValue? inner .FOR])

def replacement : Parser Expr :=
  worded .OVERLAY (inOrder [part inner.value, clause .PLACING (part inner.value),
    clause .FROM (part inner.value), clause? [.FOR] (part inner.value)])

def trimming : Parser Expr :=
  worded .TRIM (inOrder [wordIn? [.BOTH, .LEADING, .TRAILING], part inner.value,
    clause? [.FROM] (part inner.value)])

/-- What stands for the values that do not fit into a list. -/
def filler? : Parser (List Expr) := do
  match (← peek).map Located.token with
  | some (.quoted .double _) => expected .overflowFiller
  | some (.quoted _ _) => part inner.value
  | some (.word w) => if w.is .WITH || w.is .WITHOUT then return [] else expected .overflowFiller
  | _ => expected .overflowFiller

def overflow : Parser (List Expr) := do
  if ← keyword? .ERROR then return [.words [.ERROR]]
  expectKeyword .TRUNCATE
  let filler ← filler? inner
  match ← keywordIn? [.WITH, .WITHOUT] with
  | some k =>
    expectKeyword .COUNT
    return .words [.TRUNCATE] :: filler ++ [.words [k, .COUNT]]
  | none => expected .overflowCount

def groupOrder : Parser (List Expr) := do
  expectKeyword .ORDER
  expectKeyword .BY
  return .words [.ORDER, .BY] :: (← listed (sortKey inner))

def listAggregate : Parser Expr := do
  let list ← worded .LISTAGG do
    let once ← distinct? inner
    let value ← inner.value
    let separator ← if ← symbol? .comma then part inner.value else pure []
    let mark := if once.isEmpty then [] else [.words [.DISTINCT]]
    return mark ++ .list (value :: separator) :: (← clause? [.ON, .OVERFLOW] (overflow inner))
  return list.followed
    (← clause? [.WITHIN, .GROUP] (return [.grouped (← parenthesized (groupOrder inner))]))

/-- The largest number of rows, if `LIMIT` stands in front; `ALL` sets none. -/
def limit? : Parser (Option Expr) := do
  if ← keyword? .LIMIT then
    if ← keyword? .ALL then return none else return some (← inner.value)
  else return none

def arrayAggregate : Parser Expr :=
  worded .ARRAY_AGG (inOrder [words? [.DISTINCT], part inner.value, orderBy? inner, do
    return (← limit? inner).toList.flatMap fun count => [.words [.LIMIT], count]])

end Inner

end SqlModels.Sql.Parser
