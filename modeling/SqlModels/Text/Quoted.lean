import SqlModels.Text.Unprintable

/-!
Quoted literals: a text between double quotes, with every character that cannot stand there itself
behind a backslash.
-/

namespace SqlModels.Text.Quoted

/-- A code point in lower-case hexadecimal digits without padding. -/
def encodeCodePoint (c : Char) : Text :=
  "\\u\x7b".toList ++ Nat.toDigits 16 c.toNat ++ "\x7d".toList

def encodeChar (c : Char) : Text :=
  if c = '\x00' then ['\\', '0']
  else if c = '\t' then ['\\', 't']
  else if c = '\r' then ['\\', 'r']
  else if c = '\n' then ['\\', 'n']
  else if c = '\"' then ['\\', '\"']
  else if c = '\\' then ['\\', '\\']
  else if isUnprintable c then encodeCodePoint c
  else [c]

def encode (text : Text) : Text :=
  '\"' :: text.flatMap encodeChar ++ ['\"']

end SqlModels.Text.Quoted
