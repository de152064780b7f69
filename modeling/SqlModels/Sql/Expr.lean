import SqlModels.Sql.DataType
import SqlModels.Sql.Token

/-!
Expressions and the queries inside them, and how they are printed. A form with a syntax of its own
is kept as a phrase: its words and operands in the order in which they are printed.
-/

namespace SqlModels.Sql

inductive UnaryOp
  | plus | minus | not
  deriving DecidableEq

def UnaryOp.text : UnaryOp → String
  | .plus => "+" | .minus => "-" | .not => "NOT "

inductive BinaryOp
  | or | and | equal | notEqual | less | lessEqual | greater | greaterEqual | spaceship
  | bitOr | bitXor | bitAnd | xor | plus | minus | times | divide | modulo | concat | integerDivide
  | alike | alikeAnyCase | unlike | unlikeAnyCase
  | member | memberText | path | pathText | contains | contained | without | finds | holds
  deriving DecidableEq

namespace BinaryOp

def text : BinaryOp → String
  | .or => "OR" | .and => "AND" | .equal => "=" | .notEqual => "<>" | .less => "<"
  | .lessEqual => "<=" | .greater => ">" | .greaterEqual => ">=" | .spaceship => "<=>"
  | .bitOr => "|" | .bitXor => "^" | .bitAnd => "&" | .xor => "XOR" | .plus => "+" | .minus => "-"
  | .times => "*" | .divide => "/" | .modulo => "%" | .concat => "||" | .integerDivide => "DIV"
  | .alike => "~" | .alikeAnyCase => "~*" | .unlike => "!~" | .unlikeAnyCase => "!~*"
  | .member => "->" | .memberText => "->>" | .path => "#>" | .pathText => "#>>"
  | .contains => "@>" | .contained => "<@" | .without => "#-" | .finds => "@?" | .holds => "@@"

def compares : BinaryOp → Bool
  | .equal | .notEqual | .less | .lessEqual | .greater | .greaterEqual => true
  | _ => false

end BinaryOp

inductive Truth
  | null | isTrue | isFalse | unknown
  deriving DecidableEq

def Truth.text : Truth → String
  | .null => "NULL" | .isTrue => "TRUE" | .isFalse => "FALSE" | .unknown => "UNKNOWN"

inductive Direction
  | unspecified | ascending | descending
  deriving DecidableEq

def Direction.text : Direction → String
  | .unspecified => "" | .ascending => " ASC" | .descending => " DESC"

inductive NullsPlace
  | unspecified | first | last
  deriving DecidableEq

def NullsPlace.text : NullsPlace → String
  | .unspecified => "" | .first => " NULLS FIRST" | .last => " NULLS LAST"

inductive Expr
  | number (digits : Text) (long : Bool)
  | quoted (kind : StringKind) (content : Text)
  | placeholder (text : Text)
  | boolean (value : Bool)
  | null
  /-- A string with the type it is read as in front. -/
  | typed (type : DataType) (content : Text)
  /-- A string with the name of its character set in front. -/
  | introduced (introducer : String) (kind : StringKind) (content : Text)
  | name (n : Name)
  /-- All columns, of one table if it is named. It is an argument or a selected item. -/
  | star (table : Name)
  /-- An argument with the name of its parameter in front. -/
  | labelled (parameter : Ident) (argument : Expr)
  /-- A function that needs no parentheses, such as `CURRENT_TIMESTAMP`. -/
  | bareCall (function : Ident)
  | call (function : Name) (distinct : Bool) (arguments : List Expr) (order : List Expr)
  | sortKey (value : Expr) (direction : Direction) (nulls : NullsPlace)
  | tuple (items : List Expr)
  /-- Expressions in brackets, which may have their own word in front. -/
  | array (named : Bool) (items : List Expr)
  /-- A field of what stands in parentheses. -/
  | field (operand : Expr) (key : Ident)
  | subscript (operand : Expr) (keys : List Expr)
  /-- A text between brackets. -/
  | textKey (content : Text)
  | unary (op : UnaryOp) (operand : Expr)
  | factorial (operand : Expr)
  | binary (left : Expr) (op : BinaryOp) (right : Expr)
  /-- A comparison with all or any of the values of the right side. -/
  | quantified (left : Expr) (op : BinaryOp) (all : Bool) (right : Expr)
  | colon (left : Expr) (key : Expr)
  | collate (operand : Expr) (collation : Name)
  | atTimeZone (operand : Expr) (zone : Text)
  | test (operand : Expr) (negated : Bool) (truth : Truth)
  | distinctFrom (left : Expr) (negated : Bool) (right : Expr)
  /-- Words of the grammar, or a type, as they are printed. -/
  | verbatim (text : Text)
  /-- Parts with blanks between them: the words and the operands of a longer form. -/
  | phrase (parts : List Expr)
  | list (items : List Expr)
  /-- Parts with blanks between them in parentheses, directly behind what stands in front. -/
  | enclosed (front : Expr) (parts : List Expr)

namespace Expr

def words (ks : List Keyword) : Expr :=
  .verbatim (Text.joinWith [' '] (ks.map fun k => k.name.toList))

def grouped (parts : List Expr) : Expr :=
  .enclosed (.verbatim []) parts

def followed (e : Expr) : List Expr → Expr
  | [] => e
  | parts => .phrase (e :: parts)

def ident (i : Ident) : Expr :=
  .name [i]

def columns : List Ident → List Expr
  | [] => []
  | is => [.tuple (is.map ident)]

def natural (n : Nat) : Expr :=
  .number (toString n).toList false

/-- A conversion to a type by one of the functions for that. -/
def cast (function : Keyword) (operand : Expr) (type : DataType) : Expr :=
  .enclosed (words [function]) [operand, words [.AS], .verbatim type.text]

end Expr

def escapedChar (c : Char) : Text :=
  if c = '\'' then ['\\', '\'']
  else if c = '\\' then ['\\', '\\']
  else if c = '\n' then ['\\', 'n']
  else if c = '\t' then ['\\', 't']
  else if c = '\r' then ['\\', 'r']
  else [c]

/-- A string literal as it is printed. Only literals of the two plain kinds have their quotes
doubled, and only escaped ones have escapes. -/
def quotedText (kind : StringKind) (content : Text) : Text :=
  match kind with
  | .single => Text.between '\'' content
  | .double => Text.between '\"' content
  | .escaped => kind.opening.toList ++ content.flatMap escapedChar ++ kind.closing.toList
  | .national | .hex => kind.opening.toList ++ content ++ kind.closing.toList

def starText (table : Name) : Text :=
  if table = [] then ['*'] else table.text ++ ".*".toList

mutual

def Expr.text : Expr → Text
  | .number digits long => if long then digits ++ ['L'] else digits
  | .quoted kind content => quotedText kind content
  | .placeholder text => text
  | .boolean value => (if value then "true" else "false").toList
  | .null => "NULL".toList
  | .typed type content => type.text ++ ' ' :: Text.between '\'' content
  | .introduced introducer kind content => introducer.toList ++ ' ' :: quotedText kind content
  | .name n => n.text
  | .star table => starText table
  | .labelled parameter argument => parameter.text ++ " => ".toList ++ argument.text
  | .bareCall function => function.text
  | .call function distinct arguments order =>
    function.text ++ '(' :: (if distinct then "DISTINCT " else "").toList
      ++ Expr.joinedText ", ".toList arguments
      ++ (if order.isEmpty then "" else " ORDER BY ").toList
      ++ Expr.joinedText ", ".toList order ++ [')']
  | .sortKey value direction nulls => value.text ++ direction.text.toList ++ nulls.text.toList
  | .tuple items => '(' :: Expr.joinedText ", ".toList items ++ [')']
  | .array named items =>
    (if named then "ARRAY" else "").toList ++ '[' :: Expr.joinedText ", ".toList items ++ [']']
  | .field operand key => operand.text ++ '.' :: key.text
  | .subscript operand keys => operand.text ++ Expr.keysText keys
  | .textKey content => '\"' :: content ++ ['\"']
  | .unary op operand => op.text.toList ++ operand.text
  | .factorial operand => operand.text ++ ['!']
  | .binary left op right => left.text ++ ' ' :: op.text.toList ++ ' ' :: right.text
  | .quantified left op all right =>
    left.text ++ ' ' :: op.text.toList ++ (if all then " ALL(" else " ANY(").toList ++ right.text
      ++ [')']
  | .colon left key => left.text ++ ':' :: key.text
  | .collate operand collation => operand.text ++ " COLLATE ".toList ++ collation.text
  | .atTimeZone operand zone => operand.text ++ " AT TIME ZONE '".toList ++ zone ++ ['\'']
  | .test operand negated truth =>
    operand.text ++ (if negated then " IS NOT " else " IS ").toList ++ truth.text.toList
  | .distinctFrom left negated right =>
    left.text ++ (if negated then " IS NOT DISTINCT FROM " else " IS DISTINCT FROM ").toList
      ++ right.text
  | .verbatim text => text
  | .phrase parts => Expr.joinedText [' '] parts
  | .list items => Expr.joinedText ", ".toList items
  | .enclosed front parts => front.text ++ '(' :: Expr.joinedText [' '] parts ++ [')']

def Expr.joinedText (separator : Text) : List Expr → Text
  | [] => []
  | [e] => e.text
  | e :: f :: es => e.text ++ separator ++ Expr.joinedText separator (f :: es)

def Expr.keysText : List Expr → Text
  | [] => []
  | e :: es => '[' :: e.text ++ ']' :: Expr.keysText es

end

end SqlModels.Sql
