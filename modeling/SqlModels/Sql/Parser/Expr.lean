import SqlModels.Sql.Parser.Operator
import SqlModels.Sql.Parser.Rows

/-!
The grammars of expressions and of queries, tied together: what is read inside either. Nesting is
limited; operators do not count towards the limit.
-/

namespace SqlModels.Sql.Parser

/-- How the inside is read where `levels` levels are left and `read` reads an expression that leaves
some number of levels to its inside. -/
def Inner.within (read : Nat → Reach → Parser Expr) : Nat → Inner
  | 0 => ⟨throw .tooDeep, read 0, throw .tooDeep⟩
  | levels + 1 =>
    ⟨read levels .all, read (levels + 1), fun ts => queryWith (Inner.within read levels) ts⟩

/-- An expression of some reach that leaves `levels` levels to its inside. Every expression read
inside it starts at a later token, so `count` need not exceed the number of tokens. -/
def exprUpTo : Nat → Nat → Reach → Parser Expr
  | 0, _, _ => throw .tooDeep
  | count + 1, levels, reach => do
    let inner := Inner.within (exprUpTo count) levels
    let left ← anyOperand inner
    continuationsUpTo inner reach (← remaining) left

/-- The number of statements, queries and expressions that may be nested in one another. -/
def levelLimit : Nat := 50

def Inner.ofStatement : Inner :=
  .within (fun levels reach => do exprUpTo ((← remaining) + 1) levels reach) (levelLimit - 1)

/-- An expression that stands directly in a statement. -/
def expression : Parser Expr :=
  Inner.ofStatement.value

def query : Parser Expr :=
  Inner.ofStatement.query

end SqlModels.Sql.Parser
