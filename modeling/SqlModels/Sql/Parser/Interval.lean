import SqlModels.Sql.Parser.DataType
import SqlModels.Sql.Parser.Inner

namespace SqlModels.Sql.Parser

def intervalFields : List Keyword :=
  [.YEAR, .MONTH, .WEEK, .DAY, .HOUR, .MINUTE, .SECOND, .CENTURY, .DECADE, .DOW, .DOY, .EPOCH,
   .ISODOW, .ISOYEAR, .JULIAN, .MICROSECOND, .MICROSECONDS, .MILLENIUM, .MILLENNIUM, .MILLISECOND,
   .MILLISECONDS, .NANOSECOND, .NANOSECONDS, .QUARTER, .TIMEZONE, .TIMEZONE_HOUR,
   .TIMEZONE_MINUTE]

def dateField : Parser Keyword :=
  keywordIn (.DATE :: intervalFields) .dateField

def precision? : Parser (List Expr) := do
  return (← size?).toList.map fun n => .tuple [.natural n]

def secondPrecision? : Parser (List Expr) := do
  if ← symbol? .leftParen then
    let whole ← integer
    let fraction ← if ← symbol? .comma then pure [.natural (← integer)] else pure []
    expectSymbol .rightParen
    return [.tuple (.natural whole :: fraction)]
  else return []

/-- The last field of an interval that goes over several. -/
def lastField : Parser (List Expr) := do
  let last ← dateField
  return .words [last] :: (← if last = .SECOND then precision? else pure [])

def intervalFields? : Parser (List Expr) := do
  match ← keywordIn? intervalFields with
  | some .SECOND => return .words [.SECOND] :: (← secondPrecision?)
  | field =>
    let first := field.toList.map fun k => .words [k]
    return first ++ (← inOrder [precision?, clause? [.TO] lastField])

def interval (inner : Inner) : Parser Expr := do
  let value ← inner.operand .duration
  return .phrase (.words [.INTERVAL] :: value :: (← intervalFields?))

end SqlModels.Sql.Parser
