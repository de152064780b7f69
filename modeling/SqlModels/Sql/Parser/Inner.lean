import SqlModels.Sql.Parser.Value

/-!
What the grammars of expressions and of queries need of each other, and rules whose result is a list
of parts: words of the grammar with expressions between them.
-/

namespace SqlModels.Sql.Parser

/-- Which operators an expression may hold. -/
structure Reach where
  /-- They bind stronger than this. -/
  floor : Nat
  /-- Whether `AND`, `OR` and `XOR` are among them. -/
  logical : Bool

namespace Reach

def all : Reach := ⟨0, true⟩

def above (floor : Nat) : Reach := ⟨floor, true⟩

/-- The operators in the value of an interval. -/
def duration : Reach := ⟨0, false⟩

end Reach

structure Inner where
  /-- An expression that counts towards the limit of nesting. -/
  value : Parser Expr
  /-- An expression that does not count, up to the first operator out of reach. -/
  operand : Reach → Parser Expr
  /-- A query, which counts towards the limit. -/
  query : Parser Expr

def words? (ks : List Keyword) : Parser (List Expr) := do
  if ← keywords? ks then return [.words ks] else return []

def wordIn? (ks : List Keyword) : Parser (List Expr) := do
  return (← keywordIn? ks).toList.map fun k => .words [k]

/-- A word that has to stand in front, and what follows it. -/
def clause (k : Keyword) (rest : Parser (List Expr)) : Parser (List Expr) := do
  expectKeyword k
  return .words [k] :: (← rest)

def clause? (ks : List Keyword) (rest : Parser (List Expr)) : Parser (List Expr) := do
  if ← keywords? ks then return .words ks :: (← rest) else return []

def part (item : Parser Expr) : Parser (List Expr) := do
  return [← item]

def listed (item : Parser Expr) : Parser (List Expr) := do
  return [.list (← commaSeparated item)]

def inOrder : List (Parser (List Expr)) → Parser (List Expr)
  | [] => return []
  | rule :: rules => do
    let parts ← rule
    return parts ++ (← inOrder rules)

/-- The parts of the first rule that gives any. -/
def firstOf : List (Parser (List Expr)) → Parser (List Expr)
  | [] => return []
  | rule :: rules => do
    match ← rule with
    | [] => firstOf rules
    | parts => return parts

def repeatedUpTo (rule : Parser (List Expr)) : Nat → Parser (List Expr)
  | 0 => return []
  | count + 1 => do
    match ← rule with
    | [] => return []
    | parts => return parts ++ (← repeatedUpTo rule count)

def repeated (rule : Parser (List Expr)) : Parser (List Expr) := do
  repeatedUpTo rule (← remaining)

/-- A function whose arguments are parts in parentheses. -/
def worded (k : Keyword) (arguments : Parser (List Expr)) : Parser Expr := do
  return .enclosed (.words [k]) (← parenthesized arguments)

def atInnerQuery : Parser Bool :=
  fun ts => .ok (ts.head?.any fun t => t.token.is .SELECT || t.token.is .WITH) ts

def queryOrList (inner : Inner) : Parser Expr := do
  let e ← if ← atInnerQuery then pure (.grouped [← inner.query])
    else pure (.tuple (← commaSeparated inner.value))
  expectSymbol .rightParen
  return e

end SqlModels.Sql.Parser
