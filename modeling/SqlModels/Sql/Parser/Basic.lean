import SqlModels.Sql.Fault
import SqlModels.Sql.Ident
import SqlModels.Sql.Lexer

/-!
Parsers take tokens off the front of a list without gaps, or fail. The ones here know nothing of
any statement: keywords, symbols, lists, identifiers and integers.
-/

namespace SqlModels.Sql

/-- A parser gives back the tokens it has not taken, also where it fails. -/
abbrev Parser (α : Type) := EStateM Fault (List Located) α

namespace Parser

variable {α : Type}

def peek : Parser (Option Located) :=
  fun ts => .ok ts.head? ts

def next : Parser (Option Located) :=
  fun ts => .ok ts.head? ts.tail

def taking (p : Parser α) : Parser α := do
  let _ ← next
  p

/-- The number of tokens left, `DOUBLE PRECISION` counted once. It bounds every loop, since none
takes a word `PRECISION` and nothing else in a round. -/
def remaining : Parser Nat :=
  fun ts => .ok (ts.countP fun t => !t.token.is .PRECISION) ts

/-- Fails at a token that has been looked at. -/
def unexpected (wanted : Expectation) (found : Option Located) : Parser α :=
  throw (.unexpected wanted found)

def expected (wanted : Expectation) : Parser α := do
  unexpected wanted (← peek)

def startsWith : List Keyword → List Located → Bool
  | [], _ => true
  | _ :: _, [] => false
  | k :: ks, t :: ts => t.token.is k && startsWith ks ts

def atKeywords (ks : List Keyword) : Parser Bool :=
  fun ts => .ok (startsWith ks ts) ts

/-- Takes all of the given keywords, or nothing. -/
def keywords? (ks : List Keyword) : Parser Bool :=
  fun ts => if startsWith ks ts then .ok true (ts.drop ks.length) else .ok false ts

def keyword? (k : Keyword) : Parser Bool :=
  keywords? [k]

/-- Takes the next token if it is one of the keywords, and tells which. -/
def keywordIn? (ks : List Keyword) : Parser (Option Keyword) := fun ts =>
  match ts.head?.bind fun t => ks.find? t.token.is with
  | some k => .ok (some k) ts.tail
  | none => .ok none ts

def anyKeyword? (ks : List Keyword) : Parser Bool := do
  return (← keywordIn? ks).isSome

def keywordIn (ks : List Keyword) (wanted : Expectation) : Parser Keyword := do
  let found ← next
  match found.bind fun t => ks.find? t.token.is with
  | some k => return k
  | none => unexpected wanted found

def eitherKeyword (first second : Keyword) : Parser Keyword := do
  match ← keywordIn? [first, second] with
  | some k => return k
  | none => expected (.oneOf first second)

def expectKeyword (k : Keyword) : Parser Unit := do
  if ← keyword? k then return else expected (.keyword k)

def atSymbol (s : Symbol) : Parser Bool :=
  fun ts => .ok (ts.head?.any fun t => t.token = .symbol s) ts

def symbol? (s : Symbol) : Parser Bool
  | t :: ts => if t.token = .symbol s then .ok true ts else .ok false (t :: ts)
  | [] => .ok false []

def expectSymbol (s : Symbol) : Parser Unit := do
  if ← symbol? s then return else expected (.symbol s)

/-- Passes over a failure, and over the tokens taken before it. -/
def tolerate (p : Parser α) : Parser (Option α) := fun ts =>
  match p ts with
  | .ok a rest => .ok (some a) rest
  | .error .abort rest => .error .abort rest
  | .error _ rest => .ok none rest

/-- Takes nothing where the parser fails. -/
def attempt (p : Parser α) : Parser (Option α) := fun ts =>
  match tolerate p ts with
  | .ok none _ => .ok none ts
  | result => result

/-- Takes nothing where the parser finds nothing. -/
def optionally (p : Parser (Option α)) : Parser (Option α) := fun ts =>
  match p ts with
  | .ok none _ => .ok none ts
  | result => result

/-- Turns every failure into an unrecoverable one. -/
def orAbort (p : Parser α) : Parser α := fun ts =>
  match p ts with
  | .ok a rest => .ok a rest
  | .error _ rest => .error .abort rest

/-- At least one item, with commas between neighbours, and at most `count` commas. -/
def commaSeparatedUpTo (item : Parser α) : Nat → Parser (List α)
  | 0 => return [← item]
  | count + 1 => do
    let first ← item
    if ← symbol? .comma then return first :: (← commaSeparatedUpTo item count)
    else return [first]

def commaSeparated (item : Parser α) : Parser (List α) := do
  commaSeparatedUpTo item (← remaining)

def parenthesized (item : Parser α) : Parser α := do
  expectSymbol .leftParen
  let a ← item
  expectSymbol .rightParen
  return a

def wordIdent (w : Word) : Ident :=
  ⟨w.value, if w.quoted then some '\x60' else none⟩

/-- The identifier a token spells: any word, or a plain string. -/
def identOf? : Token → Option Ident
  | .word w => some (wordIdent w)
  | .quoted .single content => some ⟨String.ofList content, some '\''⟩
  | .quoted .double content => some ⟨String.ofList content, some '\"'⟩
  | _ => none

def identifier : Parser Ident := do
  let found ← next
  match found.bind fun t => identOf? t.token with
  | some i => return i
  | none => unexpected .identifier found

def nameUpTo : Nat → Parser Name
  | 0 => return [← identifier]
  | count + 1 => do
    let first ← identifier
    if ← symbol? .period then return first :: (← nameUpTo count)
    else return [first]

def name : Parser Name := do
  nameUpTo (← remaining)

def columnList : Parser (List Ident) := do
  if ← symbol? .leftParen then
    let columns ← commaSeparated identifier
    expectSymbol .rightParen
    return columns
  else expected .columnList

def columnList? : Parser (List Ident) := do
  if ← atSymbol .leftParen then columnList else return []

def maxInteger : Nat := 18446744073709551615

/-- Goes on reading decimal digits behind a number already read. -/
def readInteger (written : Text) (value : Nat) : Text → Except Fault Nat
  | [] => .ok value
  | c :: rest =>
    if isDigit c then
      let larger := 10 * value + (c.toNat - '0'.toNat)
      if larger ≤ maxInteger then readInteger written larger rest
      else .error (.integerTooLarge written)
    else .error (.integerMalformed written)

def integer : Parser Nat := do
  match ← next with
  | some ⟨.number digits _, _⟩ =>
    match readInteger digits 0 digits with
    | .ok n => return n
    | .error fault => throw fault
  | found => unexpected .integer found

end Parser

end SqlModels.Sql
