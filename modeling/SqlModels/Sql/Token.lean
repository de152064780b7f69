import SqlModels.Sql.Keyword
import SqlModels.Sql.Symbol

/-!
Tokens and where they stand. Blanks and comments are tokens too, so a token list covers the text it
was read from.
-/

namespace SqlModels.Sql

/-- A place in a source text; lines and columns count from one. -/
structure Position where
  line : Nat
  column : Nat
  deriving DecidableEq

namespace Position

def start : Position := ⟨1, 1⟩

def next (p : Position) (c : Char) : Position :=
  if c = '\n' then ⟨p.line + 1, 1⟩ else ⟨p.line, p.column + 1⟩

def past (p : Position) (text : Text) : Position :=
  text.foldl next p

end Position

/-- A bare word, or the content of a backtick-quoted one. -/
structure Word where
  value : String
  quoted : Bool
  deriving DecidableEq

/-- Whether a word is the given keyword; a quoted word never is one. -/
def Word.is (w : Word) (k : Keyword) : Bool :=
  !w.quoted && k.spelledBy w.value

inductive StringKind
  | single | double | national | hex | escaped
  deriving DecidableEq

def StringKind.opening : StringKind → String
  | .single => "'" | .double => "\"" | .national => "N'" | .hex => "X'" | .escaped => "E'"

def StringKind.closing : StringKind → String
  | .double => "\"" | _ => "'"

inductive Token
  | word (w : Word)
  /-- A number as written; `long` tells of an `L` behind it. -/
  | number (digits : Text) (long : Bool)
  | quoted (kind : StringKind) (content : Text)
  | placeholder (text : Text)
  | symbol (s : Symbol)
  | stray (c : Char)
  | gap (text : Text)
  deriving DecidableEq

def backtick : String := "\x60"

namespace Token

def isGap : Token → Bool
  | .gap _ => true
  | _ => false

def is (t : Token) (k : Keyword) : Bool :=
  match t with
  | .word w => w.is k
  | _ => false

def ofKeyword (k : Keyword) : Token :=
  .word ⟨k.name, false⟩

def text : Token → Text
  | .word w => if w.quoted then (backtick ++ w.value ++ backtick).toList else w.value.toList
  | .number digits long => if long then digits ++ ['L'] else digits
  | .quoted kind content => kind.opening.toList ++ content ++ kind.closing.toList
  | .placeholder text => text
  | .symbol s => s.text.toList
  | .stray c => [c]
  | .gap text => text

end Token

structure Located where
  token : Token
  place : Position
  deriving DecidableEq

end SqlModels.Sql
