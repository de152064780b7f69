import SqlModels.Sql.Parser.Interval

namespace SqlModels.Sql.Parser

def direction : Parser Direction := do
  if ← keyword? .ASC then return .ascending
  else if ← keyword? .DESC then return .descending
  else return .unspecified

def nullsPlace : Parser NullsPlace := do
  if ← keywords? [.NULLS, .FIRST] then return .first
  else if ← keywords? [.NULLS, .LAST] then return .last
  else return .unspecified

/-- The `*` behind the name of a table, if that ends in one. -/
def tableStarUpTo (table : Name) : Nat → Parser (Option Expr)
  | 0 => return none
  | count + 1 => do
    if ← symbol? .period then
      let found ← next
      match found.map Located.token with
      | some (.word w) => tableStarUpTo (table ++ [wordIdent w]) count
      | some (.symbol .star) => return some (.star table)
      | _ => unexpected .partAfterPeriod found
    else return none

def star? : Parser (Option Expr) := do
  match (← next).map Located.token with
  | some (.symbol .star) => return some (.star [])
  | some (.word w) => tableStarUpTo [wordIdent w] (← remaining)
  | _ => return none

/-- Whether the second token is the arrow behind the name of a parameter. -/
def atLabel : Parser Bool :=
  fun ts => .ok ((ts[1]?).any fun t => t.token = .symbol .fatArrow) ts

def frameUnits : List Keyword :=
  [.ROWS, .RANGE, .GROUPS]

section Inner

variable (inner : Inner)

def sortKey : Parser Expr := do
  let value ← inner.value
  let direction ← direction
  return .sortKey value direction (← nullsPlace)

def orderBy? : Parser (List Expr) :=
  clause? [.ORDER, .BY] (listed (sortKey inner))

def item : Parser Expr := do
  match ← optionally star? with
  | some e => return e
  | none => inner.value

/-- That repeated rows count once, or once for each value of some expressions. `ALL` is passed
over. -/
def distinct? : Parser (List Expr) := do
  let place := (← peek).map Located.place
  let all ← keyword? .ALL
  if ← keyword? .DISTINCT then
    if all then throw (.clash .allAndDistinct place)
    if ← keyword? .ON then
      expectSymbol .leftParen
      let keys ← if ← atSymbol .rightParen then pure [] else commaSeparated inner.value
      expectSymbol .rightParen
      return [.words [.DISTINCT, .ON], .tuple keys]
    return [.words [.DISTINCT]]
  else return []

def argument : Parser Expr := do
  if ← atLabel then
    let parameter ← identifier
    expectSymbol .fatArrow
    return .labelled parameter (← item inner)
  else item inner

/-- Arguments behind the opening parenthesis, without an order. -/
def plainArguments : Parser (List Expr) := do
  if ← symbol? .rightParen then return []
  else
    let list ← commaSeparated (argument inner)
    expectSymbol .rightParen
    return list

def arguments : Parser (List Expr × List Expr) := do
  if ← symbol? .rightParen then return ([], [])
  else
    let list ← commaSeparated (argument inner)
    let order ← if ← keywords? [.ORDER, .BY] then commaSeparated (sortKey inner) else pure []
    expectSymbol .rightParen
    return (list, order)

def frameDistance : Parser Expr := do
  if ← keyword? .UNBOUNDED then return .words [.UNBOUNDED]
  match (← peek).map Located.token with
  | some (.quoted .single _) => interval inner
  | _ => inner.value

def frameBound : Parser Expr := do
  if ← keywords? [.CURRENT, .ROW] then return .words [.CURRENT, .ROW]
  let distance ← frameDistance inner
  match ← keywordIn? [.PRECEDING, .FOLLOWING] with
  | some side => return .phrase [distance, .words [side]]
  | none => expected .frameBound

def frame : Parser (List Expr) := do
  let unit ← keywordIn frameUnits .frameUnit
  if ← keyword? .BETWEEN then
    let first ← frameBound inner
    expectKeyword .AND
    return [.words [unit, .BETWEEN], first, .words [.AND], ← frameBound inner]
  else return [.words [unit], ← frameBound inner]

def window : Parser Expr := do
  let rows ← inOrder [clause? [.PARTITION, .BY] (listed inner.value), orderBy? inner]
  if ← symbol? .rightParen then return .grouped rows
  else
    let limits ← frame inner
    expectSymbol .rightParen
    return .grouped (rows ++ limits)

def window? : Parser (List Expr) := do
  if ← keyword? .OVER then
    let rows ← if ← symbol? .leftParen then window inner else Expr.ident <$> identifier
    return [.words [.OVER], rows]
  else return []

def call (function : Name) : Parser Expr := do
  let once ← distinct? inner
  let (list, order) ← arguments inner
  return Expr.followed (.call function (!once.isEmpty) list order) (← window? inner)

end Inner

end SqlModels.Sql.Parser
