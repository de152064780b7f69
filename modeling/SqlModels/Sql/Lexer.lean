import SqlModels.Sql.Fault
import SqlModels.Text.Letters
import SqlModels.Text.Numerals

/-!
Reading tokens off the front of a text. Every reader tells how many characters its token takes.
-/

namespace SqlModels.Sql

def isDigit (c : Char) : Bool :=
  '0' ≤ c && c ≤ '9'

def isHexDigit (c : Char) : Bool :=
  isDigit c || ('a' ≤ c && c ≤ 'f') || ('A' ≤ c && c ≤ 'F')

/-- The characters a word starts with: letters, `_`, `$`, `@` and all from U+0080 to U+FFFF. -/
def isWordStart (c : Char) : Bool :=
  ('a' ≤ c && c ≤ 'z') || ('A' ≤ c && c ≤ 'Z') || c = '_' || c = '$' || c = '@' ||
    (0x80 ≤ c.toNat && c.toNat ≤ 0xFFFF) || Text.isAstralLetter c

def isWordPart (c : Char) : Bool :=
  isWordStart c || isDigit c

def wordFrom (front rest : Text) : Token × Nat :=
  let part := rest.takeWhile isWordPart
  (.word ⟨String.ofList (front ++ part), false⟩, front.length + part.length)

def unescape (c : Char) : Char :=
  if c = '0' then '\x00'
  else if c = 'b' then '\x08'
  else if c = 'n' then '\n'
  else if c = 'r' then '\r'
  else if c = 't' then '\t'
  else if c = 'Z' then '\x1a'
  else c

/-- Puts a character of the content in front, read from `taken` characters. -/
def pushRead (c : Char) (taken : Nat) (read : Text × Nat) : Text × Nat :=
  (c :: read.1, taken + read.2)

/-- The content of a string up to its closing quote, and its length with that quote. A doubled
quote stands for one; `none` if the string is not closed. -/
def readString (quote : Char) : Text → Option (Text × Nat)
  | [] => none
  | [c] => if c = quote then some ([], 1) else none
  | c :: d :: rest =>
    if c = quote then
      if d = quote then (readString quote rest).map (pushRead quote 2) else some ([], 1)
    else if c = '\\' then (readString quote rest).map (pushRead (unescape d) 2)
    else (readString quote (d :: rest)).map (pushRead c 1)

/-- The content of an escaped string up to its closing quote, and its length with that quote.
Only `\n`, `\r`, `\t`, `\\` and an escaped quote are kept as such; any other backslash is
dropped. -/
def readEscaped : Text → Option (Text × Nat)
  | [] => none
  | [c] => if c = '\'' then some ([], 1) else none
  | c :: d :: rest =>
    if c = '\'' then
      if d = '\'' then (readEscaped rest).map (pushRead '\'' 2) else some ([], 1)
    else if c = '\\' then
      let meant := if d = 'n' then '\n' else if d = 'r' then '\r' else if d = 't' then '\t' else d
      (readEscaped rest).map (pushRead meant 2)
    else (readEscaped (d :: rest)).map (pushRead c 1)

def readName : Text → Option (Text × Nat)
  | [] => none
  | [c] => if c = '\x60' then some ([], 1) else none
  | c :: d :: rest =>
    if c = '\x60' then
      if d = '\x60' then (readName rest).map (pushRead '\x60' 2) else some ([], 1)
    else (readName (d :: rest)).map (pushRead c 1)

/-- The length of a comment behind its opening, its end included, where `depth` comments are open
and `last` is the character before. -/
def commentLength (depth : Nat) (last : Char) : Text → Option Nat
  | [] => none
  | c :: rest =>
    if last = '/' && c = '*' then (commentLength (depth + 1) c rest).map (· + 1)
    else if last = '*' && c = '/' then
      if depth ≤ 1 then some 1 else (commentLength (depth - 1) c rest).map (· + 1)
    else (commentLength depth c rest).map (· + 1)

/-- An exponent: its letter, a sign if there is one, at least one digit. -/
def exponent : Text → Text
  | e :: rest =>
    if e = 'e' || e = 'E' then
      let sign := rest.take 1 |>.filter fun c => c = '+' || c = '-'
      let digits := (rest.drop sign.length).takeWhile isDigit
      if digits = [] then [] else e :: sign ++ digits
    else []
  | [] => []

/-- A number, a word that starts with digits, a hexadecimal string, or a single period. -/
def readNumber (text : Text) : Token × Nat :=
  let whole := text.takeWhile isDigit
  let behind := text.drop whole.length
  if whole = ['0'] && behind.head? = some 'x' then
    let digits := behind.tail.takeWhile isHexDigit
    (.quoted .hex digits, 2 + digits.length)
  else
    let point := behind.take 1 |>.filter (· = '.')
    let mantissa := whole ++ point ++ (behind.drop point.length).takeWhile isDigit
    let rest := text.drop mantissa.length
    if mantissa = ['.'] then (.symbol .period, 1)
    else match rest with
      | [] => (.number mantissa false, mantissa.length)
      | c :: _ =>
        if c = 'e' || c = 'E' then
          let digits := mantissa ++ exponent rest
          if (text.drop digits.length).head? = some 'L' && exponent rest ≠ [] then
            (.number digits true, digits.length + 1)
          else (.number digits false, digits.length)
        else if isWordPart c then wordFrom mantissa rest
        else (.number mantissa false, mantissa.length)

def readAtSign : Text → Token × Nat
  | [] => (.symbol .atSign, 1)
  | c :: rest =>
    if c = '>' then (.symbol .atArrow, 2)
    else if c = '?' then (.symbol .atQuestion, 2)
    else if c = ' ' then (.symbol .atSign, 1)
    else if c = '@' then
      match rest with
      | [] => (.symbol .doubleAt, 2)
      | d :: more => if d = ' ' then (.symbol .doubleAt, 2) else wordFrom ['@', '@', d] more
    else wordFrom ['@', c] rest

/-- A string literal whose quote is the `opening`-th character of the token. -/
def stringToken (kind : StringKind) (opening : Nat) (fault : Fault)
    (read : Option (Text × Nat)) : Except Fault (Token × Nat) :=
  match read with
  | some (content, length) => .ok (.quoted kind content, opening + length)
  | none => .error fault

/-- The token that starts with `c` at place `p`, and the number of characters it takes. -/
def lexeme (p : Position) (c : Char) (rest : Text) : Except Fault (Token × Nat) :=
  if c = ' ' || c = '\t' || c = '\n' then .ok (.gap [c], 1)
  else if c = '\r' then
    if rest.head? = some '\n' then .ok (.gap ['\r', '\n'], 2) else .ok (.gap ['\r'], 1)
  else if (c = 'N' || c = 'n') && rest.head? = some '\'' then
    stringToken .national 2 (.unclosedString (p.next c)) (readString '\'' rest.tail)
  else if (c = 'X' || c = 'x') && rest.head? = some '\'' then
    stringToken .hex 2 (.unclosedString (p.next c)) (readString '\'' rest.tail)
  else if (c = 'E' || c = 'e') && rest.head? = some '\'' then
    stringToken .escaped 2 (.unclosedEscapedString p) (readEscaped rest.tail)
  else if c = '\'' then stringToken .single 1 (.unclosedString p) (readString c rest)
  else if c = '\"' then stringToken .double 1 (.unclosedString p) (readString c rest)
  else if c = '\x60' then
    match readName rest with
    | some (content, length) => .ok (.word ⟨String.ofList content, true⟩, length + 1)
    | none => .error (.unclosedName p)
  else if isDigit c || c = '.' then .ok (readNumber (c :: rest))
  else if c = '-' && rest.head? = some '-' then
    let line := rest.takeWhile (· ≠ '\n')
    let ending := (rest.drop line.length).take 1
    .ok (.gap (c :: line ++ ending), 1 + line.length + ending.length)
  else if c = '/' && rest.head? = some '*' then
    match commentLength 1 ' ' rest.tail with
    | some length => .ok (.gap (c :: rest.take (1 + length)), 2 + length)
    | none => .error (.unclosedComment (p.past (c :: rest)))
  else if c = '@' then .ok (readAtSign rest)
  else if c = '?' then
    let digits := rest.takeWhile Text.isNumeral
    .ok (.placeholder (c :: digits), 1 + digits.length)
  else if isWordStart c then .ok (wordFrom [c] rest)
  else match Symbol.ofFront? (c :: rest) with
    | some (s, length) => .ok (.symbol s, length)
    | none => if c = '\x0b' || c = '\x0c' then .ok (.gap [c], 1) else .ok (.stray c, 1)

def tokensFrom (p : Position) : Text → Except Fault (List Located)
  | [] => .ok []
  | c :: rest =>
    match lexeme p c rest with
    | .error fault => .error fault
    | .ok (token, length) =>
      match tokensFrom (p.past (c :: rest.take (length - 1))) (rest.drop (length - 1)) with
      | .error fault => .error fault
      | .ok tokens => .ok (⟨token, p⟩ :: tokens)
termination_by text => text.length
decreasing_by simp only [List.length_drop, List.length_cons]; omega

/-- The tokens of a text, blanks and comments included. -/
def tokens (text : Text) : Except Fault (List Located) :=
  tokensFrom .start text

end SqlModels.Sql
