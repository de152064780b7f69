import SqlModels.Text.Basic

namespace SqlModels.Sql

inductive Symbol
  | leftParen | rightParen | comma | semicolon | colon | leftBracket | rightBracket | leftBrace
  | rightBrace | backslash | plus | star | percent | slash | minus | arrow | longArrow | equal
  | doubleEqual | fatArrow | notEqual | less | lessEqual | spaceship | shiftLeft | arrowAt
  | greater | greaterEqual | shiftRight | pipe | concat | ampersand | overlap | caret | tilde
  | bang | doubleBang | sharp | atSign | doubleColon | assign | sharpArrow | sharpLongArrow
  | sharpMinus | squareRoot | cubeRoot | tildeStar | bangTilde | bangTildeStar | atArrow
  | atQuestion | doubleAt | period
  deriving DecidableEq

namespace Symbol

/-- How a symbol is shown; `!=` is shown as its other spelling. -/
def text : Symbol → String
  | .leftParen => "(" | .rightParen => ")" | .comma => "," | .semicolon => ";" | .colon => ":"
  | .leftBracket => "[" | .rightBracket => "]" | .leftBrace => "\x7b" | .rightBrace => "\x7d"
  | .backslash => "\\" | .plus => "+" | .star => "*" | .percent => "%" | .slash => "/"
  | .minus => "-" | .arrow => "->" | .longArrow => "->>" | .equal => "=" | .doubleEqual => "=="
  | .fatArrow => "=>" | .notEqual => "<>" | .less => "<" | .lessEqual => "<="
  | .spaceship => "<=>" | .shiftLeft => "<<" | .arrowAt => "<@" | .greater => ">"
  | .greaterEqual => ">=" | .shiftRight => ">>" | .pipe => "|" | .concat => "||"
  | .ampersand => "&" | .overlap => "&&" | .caret => "^" | .tilde => "~" | .bang => "!"
  | .doubleBang => "!!" | .sharp => "#" | .atSign => "@" | .doubleColon => "::" | .assign => ":="
  | .sharpArrow => "#>" | .sharpLongArrow => "#>>" | .sharpMinus => "#-" | .squareRoot => "|/"
  | .cubeRoot => "||/" | .tildeStar => "~*" | .bangTilde => "!~" | .bangTildeStar => "!~*"
  | .atArrow => "@>" | .atQuestion => "@?" | .doubleAt => "@@" | .period => "."

def spellings : List (String × Symbol) :=
  [("->>", .longArrow), ("<=>", .spaceship), ("#>>", .sharpLongArrow), ("||/", .cubeRoot),
    ("!~*", .bangTildeStar), ("->", .arrow), ("==", .doubleEqual), ("=>", .fatArrow),
    ("<>", .notEqual), ("<=", .lessEqual), ("<<", .shiftLeft), ("<@", .arrowAt),
    (">=", .greaterEqual), (">>", .shiftRight), ("||", .concat), ("&&", .overlap),
    ("!!", .doubleBang), ("::", .doubleColon), (":=", .assign), ("#>", .sharpArrow),
    ("#-", .sharpMinus), ("|/", .squareRoot), ("~*", .tildeStar), ("!~", .bangTilde),
    ("!=", .notEqual), ("(", .leftParen), (")", .rightParen), (",", .comma), (";", .semicolon),
    (":", .colon), ("[", .leftBracket), ("]", .rightBracket), ("\x7b", .leftBrace),
    ("\x7d", .rightBrace), ("\\", .backslash), ("+", .plus), ("*", .star), ("%", .percent),
    ("/", .slash), ("-", .minus), ("=", .equal), ("<", .less), (">", .greater), ("|", .pipe),
    ("&", .ampersand), ("^", .caret), ("~", .tilde), ("!", .bang), ("#", .sharp)]

/-- The symbol with the longest spelling at the front of the text, and the length of that. -/
def ofFront? (text : Text) : Option (Symbol × Nat) :=
  (spellings.find? fun entry => entry.1.toList.isPrefixOf text).map
    fun entry => (entry.2, entry.1.length)

end Symbol

end SqlModels.Sql
