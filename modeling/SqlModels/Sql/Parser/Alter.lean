import SqlModels.Sql.Parser.Table

namespace SqlModels.Sql.Parser

variable {τ : Type}

def partition : Parser Unit := do
  let _ ← parenthesized (commaSeparated expression)

def addOp (typed : Parser (Ident × τ)) : Parser (AlterOp τ) := do
  match ← tableConstraint? with
  | some c => return .addConstraint c
  | none =>
    let _ ← keywords? [.IF, .NOT, .EXISTS]
    if ← keyword? .PARTITION then
      partition
      return .addPartitions
    else
      let _ ← keyword? .COLUMN
      return .addColumn (← columnDef typed)

def renameOp : Parser (AlterOp τ) := do
  if ← keyword? .TO then return .renameTable (← name)
  else
    let _ ← keyword? .COLUMN
    let old ← identifier
    expectKeyword .TO
    return .renameColumn old (← identifier)

def dropOp : Parser (AlterOp τ) := do
  if ← keywords? [.IF, .EXISTS, .PARTITION] then
    partition
    return .dropPartitions
  else if ← keyword? .PARTITION then
    partition
    return .dropPartitions
  else if ← keyword? .CONSTRAINT then
    let _ ← keywords? [.IF, .EXISTS]
    let constraint ← identifier
    let _ ← keyword? .CASCADE
    return .dropConstraint constraint
  else if ← keywords? [.PRIMARY, .KEY] then return .dropPrimaryKey
  else
    let _ ← keyword? .COLUMN
    let ifExists ← keywords? [.IF, .EXISTS]
    let column ← identifier
    let _ ← keyword? .CASCADE
    return .dropColumn column ifExists

def renamePartitionsOp : Parser (AlterOp τ) := do
  partition
  expectKeyword .RENAME
  expectKeyword .TO
  expectKeyword .PARTITION
  partition
  return .renamePartitions

def changeOp (typed : Parser (Ident × τ)) : Parser (AlterOp τ) := do
  let _ ← keyword? .COLUMN
  let old ← identifier
  let (new, type) ← typed
  return .changeColumn old new type (← bareOptionsUpTo (← remaining))

def alterColumnOp : Parser (AlterOp τ) := do
  let _ ← keyword? .COLUMN
  let column ← identifier
  if ← keywords? [.SET, .NOT, .NULL] then return .alterColumn column
  else if ← keywords? [.DROP, .NOT, .NULL] then return .alterColumn column
  else if ← keywords? [.SET, .DEFAULT] then
    let _ ← expression
    return .alterColumn column
  else if ← keywords? [.DROP, .DEFAULT] then return .alterColumn column
  else if ← keywords? [.SET, .DATA, .TYPE] then
    let _ ← dataType
    return .alterColumn column
  else expected .alterColumnOperation

def alterOp (typed : Parser (Ident × τ)) : Parser (AlterOp τ) := do
  if ← keyword? .ADD then addOp typed
  else if ← keyword? .RENAME then renameOp
  else if ← keyword? .DROP then dropOp
  else if ← keyword? .PARTITION then renamePartitionsOp
  else if ← keyword? .CHANGE then changeOp typed
  else if ← keyword? .ALTER then alterColumnOp
  else if ← keyword? .SWAP then
    expectKeyword .WITH
    return .swapWith (← name)
  else expected .alterOperation

end SqlModels.Sql.Parser
