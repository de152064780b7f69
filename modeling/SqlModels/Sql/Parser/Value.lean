import SqlModels.Sql.Expr
import SqlModels.Sql.Vocabulary
import SqlModels.Sql.Parser.Basic

/-!
The grammar of single values: where only a literal may stand, no name and no operator is accepted.
-/

namespace SqlModels.Sql.Parser

/-- A plain string, or a word that is not reserved. -/
def literalString : Parser Text := do
  let found ← next
  match found.map Located.token with
  | some (.quoted .single content) => return content
  | some (.quoted .double content) => return content
  | some (.word w) =>
    if w.isReserved then unexpected .literalString found else return w.value.toList
  | _ => unexpected .literalString found

def literalOf? : Token → Option Expr
  | .number digits long => some (.number digits long)
  | .quoted kind content => some (.quoted kind content)
  | .placeholder text => some (.placeholder text)
  | _ => none

def namedPlaceholder (mark : Char) : Parser Expr := do
  let i ← identifier
  return .placeholder (mark :: i.value.toList)

def plainValue : Parser Expr := do
  let found ← next
  match found.map Located.token with
  | some (.word w) =>
    if w.is .TRUE then return .boolean true
    else if w.is .FALSE then return .boolean false
    else if w.is .NULL then return .null
    else unexpected (if w.quoted then .unquotedValue else .plainValue) found
  | some (.symbol .colon) => namedPlaceholder ':'
  | some (.symbol .atSign) => namedPlaceholder '@'
  | some t =>
    match literalOf? t with
    | some e => return e
    | none => unexpected .value found
  | none => unexpected .value found

def numberValue : Parser Expr := do
  let found ← peek
  match ← plainValue with
  | .number digits long => return .number digits long
  | .placeholder text => return .placeholder text
  | _ => unexpected .literalNumber found

end SqlModels.Sql.Parser
