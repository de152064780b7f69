namespace SqlModels

/-- Running text: SQL sources, literals and the contents of files, one character at a time. -/
abbrev Text := List Char

namespace Text

def ofPieces (pieces : List String) : Text :=
  pieces.flatMap String.toList

@[simp] theorem ofPieces_nil : ofPieces [] = [] := rfl

@[simp] theorem ofPieces_cons (piece : String) (pieces : List String) :
    ofPieces (piece :: pieces) = piece.toList ++ ofPieces pieces := rfl

def splitFirst? (needle : Text) : Text → Option (Text × Text)
  | [] => if needle = [] then some ([], []) else none
  | c :: rest =>
    if needle.isPrefixOf (c :: rest) then some ([], (c :: rest).drop needle.length)
    else (splitFirst? needle rest).map fun (before, after) => (c :: before, after)

def includes (text needle : Text) : Bool :=
  (splitFirst? needle text).isSome

/-- The parts between separators; there is one more part than there are separators. -/
def splitAt (separator : Char) : Text → List Text
  | [] => [[]]
  | c :: rest =>
    if c = separator then [] :: splitAt separator rest
    else match splitAt separator rest with
      | [] => [[c]]
      | part :: parts => (c :: part) :: parts

def joinWith (separator : Text) : List Text → Text
  | [] => []
  | [part] => part
  | part :: parts => part ++ separator ++ joinWith separator parts

/-- A carriage return that ends a line belongs to the line break. -/
def dropFinalReturn (line : Text) : Text :=
  if line.getLast? = some '\r' then line.dropLast else line

/-- The lines of a text. A final line break starts no further line, and an unfinished last line
keeps its carriage return. -/
def lines (text : Text) : List Text :=
  let parts := splitAt '\n' text
  parts.dropLast.map dropFinalReturn ++ parts.getLast?.toList.filter (· ≠ [])

/-- A text as it stands between quotes, where `last` is the character before it. A quote is written
twice and so is a pair of quotes, for it may stand for a doubled one already; a quote behind a
backslash stays as it is. -/
def doubleQuotes (quote last : Char) : Text → Text
  | [] => []
  | [c] => if c = quote && last ≠ '\\' then [c, c] else [c]
  | c :: d :: rest =>
    if c = quote then
      if last = '\\' then c :: doubleQuotes quote last (d :: rest)
      else if d = quote then c :: d :: doubleQuotes quote c rest
      else c :: c :: doubleQuotes quote c (d :: rest)
    else c :: doubleQuotes quote c (d :: rest)

def between (quote : Char) (text : Text) : Text :=
  quote :: doubleQuotes quote '\x00' text ++ [quote]

def eqIgnoringCase (a b : Text) : Bool :=
  a.map Char.toLower == b.map Char.toLower

def inRanges (ranges : List (Nat × Nat)) (c : Char) : Bool :=
  ranges.any fun range => range.1 ≤ c.toNat && c.toNat ≤ range.2

end Text

end SqlModels
