import SqlModels.Sql.Parser.Function

namespace SqlModels.Sql.Parser

def bareFunctions : List Keyword :=
  [.CURRENT_TIMESTAMP, .CURRENT_TIME, .CURRENT_DATE, .LOCALTIME, .LOCALTIMESTAMP]

def partsUpTo : Nat → Parser Name
  | 0 => return []
  | count + 1 => do
    if ← symbol? .period then
      let found ← next
      match found.map Located.token with
      | some (.word w) => return wordIdent w :: (← partsUpTo count)
      | _ => unexpected .partAfterPeriod found
    else return []

section Inner

variable (inner : Inner)

/-- A type other than a custom one with a literal string behind it, or an interval. -/
def typedString : Parser Expr := do
  match ← dataType with
  | .custom _ _ => expected .literalString
  | .plain .interval => interval inner
  | type => return .typed type (← literalString)

/-- A query or expressions behind an opening parenthesis, and the field taken of them, if any. -/
def tuple : Parser Expr := do
  let e ← queryOrList inner
  if ← symbol? .period then
    let found ← next
    match found.map Located.token with
    | some (.word w) => return .field e (wordIdent w)
    | _ => unexpected .identifier found
  else return e

def array (named : Bool) : Parser Expr := do
  if ← symbol? .rightBracket then return .array named []
  else
    let items ← commaSeparated inner.value
    expectSymbol .rightBracket
    return .array named items

def negation : Parser Expr := do
  if ← keyword? .EXISTS then existence inner true
  else return .unary .not (← inner.operand (.above 15))

/-- The rule of every word that always starts a form of its own. -/
def wordRules : List (Keyword × Parser Expr) :=
  [(.TRUE, return .boolean true), (.FALSE, return .boolean false), (.NULL, return .null),
   (.CASE, decision inner), (.CAST, conversion inner .CAST),
   (.TRY_CAST, conversion inner .TRY_CAST), (.SAFE_CAST, conversion inner .SAFE_CAST),
   (.EXISTS, existence inner false), (.EXTRACT, extraction inner), (.CEIL, rounding inner .CEIL),
   (.FLOOR, rounding inner .FLOOR), (.POSITION, position inner), (.SUBSTRING, piece inner),
   (.OVERLAY, replacement inner), (.TRIM, trimming inner), (.INTERVAL, interval inner),
   (.LISTAGG, listAggregate inner), (.ARRAY_AGG, arrayAggregate inner), (.NOT, negation inner),
   (.MATCH, search)]

def bareCall (i : Ident) : Parser Expr := do
  if ← symbol? .leftParen then
    let (list, order) ← arguments inner
    return .call [i] false list order
  else return .bareCall i

/-- A name, a call, or a string behind the name of its character set. -/
def nameOrCall (w : Word) : Parser Expr := do
  let i := wordIdent w
  match ← peek with
  | some ⟨.symbol .leftParen, _⟩ | some ⟨.symbol .period, _⟩ =>
    let n := i :: (← partsUpTo (← remaining))
    if ← symbol? .leftParen then call inner n else return .name n
  | some ⟨.quoted kind content, _⟩ =>
    if w.value.toList.head? = some '_' && (kind = .single || kind = .double || kind = .hex) then
      let _ ← next
      return .introduced w.value kind content
    else return .ident i
  | _ => return .ident i

/-- The expression that starts with a word which has been taken. -/
def wordExpr (w : Word) : Parser Expr := do
  match (wordRules inner).find? fun rule => w.is rule.1 with
  | some (_, rule) => rule
  | none =>
    let bracket ← atSymbol .leftBracket
    let paren ← atSymbol .leftParen
    if bareFunctions.any w.is then bareCall inner (wordIdent w)
    else if w.is .ARRAY && bracket then
      let _ ← next
      array inner true
    else if w.is .ARRAY && paren then worded .ARRAY (part inner.query)
    else nameOrCall inner w

/-- An operand that is not a typed string, without a collation behind it. -/
def plainOperand : Parser Expr := do
  let found ← next
  match found.map Located.token with
  | some (.word w) => wordExpr inner w
  | some (.quoted .escaped _) => unexpected .expression found
  | some (.symbol .minus) => return .unary .minus (← inner.operand (.above 40))
  | some (.symbol .plus) => return .unary .plus (← inner.operand (.above 40))
  | some (.symbol .leftParen) => tuple inner
  | some (.symbol .leftBracket) => array inner false
  | some (.symbol .colon) => namedPlaceholder ':'
  | some (.symbol .atSign) => namedPlaceholder '@'
  | some t =>
    match literalOf? t with
    | some e => return e
    | none => unexpected .expression found
  | none => unexpected .expression found

def anyOperand : Parser Expr := do
  match ← attempt (typedString inner) with
  | some e => return e
  | none =>
    let e ← plainOperand inner
    if ← keyword? .COLLATE then return .collate e (← name) else return e

end Inner

end SqlModels.Sql.Parser
