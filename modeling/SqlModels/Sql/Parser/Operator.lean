import SqlModels.Sql.Parser.Operand

/-!
The grammar behind an operand: operators by their binding strength, tests, comparisons with several
values, conversions and subscripts.
-/

namespace SqlModels.Sql.Parser

def symbolOperators : List (Symbol × BinaryOp × Nat) :=
  [(.equal, .equal, 20), (.doubleEqual, .equal, 20), (.notEqual, .notEqual, 20), (.less, .less, 20),
   (.lessEqual, .lessEqual, 20), (.greater, .greater, 20), (.greaterEqual, .greaterEqual, 20),
   (.spaceship, .spaceship, 20), (.tilde, .alike, 20), (.tildeStar, .alikeAnyCase, 20),
   (.bangTilde, .unlike, 20), (.bangTildeStar, .unlikeAnyCase, 20), (.pipe, .bitOr, 21),
   (.caret, .bitXor, 22), (.ampersand, .bitAnd, 23), (.plus, .plus, 30), (.minus, .minus, 30),
   (.star, .times, 40), (.slash, .divide, 40), (.percent, .modulo, 40), (.concat, .concat, 40)]

/-- The operators written as words whose right side binds as strongly as they do. -/
def wordOperators : List (Keyword × BinaryOp × Nat) :=
  [(.OR, .or, 5), (.AND, .and, 10), (.XOR, .xor, 24)]

/-- The operators on documents. Their right side is a whole expression. -/
def documentOperators : List (Symbol × BinaryOp) :=
  [(.arrow, .member), (.longArrow, .memberText), (.sharpArrow, .path), (.sharpLongArrow, .pathText),
   (.atArrow, .contains), (.arrowAt, .contained), (.sharpMinus, .without), (.atQuestion, .finds),
   (.doubleAt, .holds)]

/-- Symbols that bind an operand but stand for no operation, with their names and strengths. -/
def meaninglessSymbols : List (Symbol × String × Nat) :=
  [(.sharp, "Sharp", 22), (.shiftLeft, "ShiftLeft", 22), (.shiftRight, "ShiftRight", 22),
   (.overlap, "Overlap", 50)]

def predicateWords : List (Keyword × Nat) :=
  [(.IN, 20), (.BETWEEN, 20), (.LIKE, 19), (.ILIKE, 19), (.SIMILAR, 19)]

inductive Continuation
  | nothing
  | operator (op : BinaryOp) (strength : Nat)
  | predicate (strength : Nat)
  | documentOperator (op : BinaryOp)
  | integerDivision
  | truthTest
  | timeZone
  | conversion
  | factorial
  | subscript
  | colon
  | meaningless (name : String) (strength : Nat)
  | meaninglessWord (word : String) (k : Keyword) (strength : Nat)

def Continuation.strength : Continuation → Nat
  | .nothing => 0
  | .operator _ strength | .predicate strength => strength
  | .integerDivision => 40
  | .truthTest => 17
  | .timeZone => 20
  | .documentOperator _ | .conversion | .factorial | .subscript | .colon => 50
  | .meaningless _ strength | .meaninglessWord _ _ strength => strength

def Continuation.isLogical : Continuation → Bool
  | .operator .and _ | .operator .or _ | .operator .xor _ => true
  | _ => false

def Continuation.within (c : Continuation) (reach : Reach) : Bool :=
  reach.floor < c.strength && (reach.logical || !c.isLogical)

def Continuation.ofSymbol (s : Symbol) : Continuation :=
  match symbolOperators.find? fun entry => entry.1 = s with
  | some (_, op, strength) => .operator op strength
  | none =>
    match documentOperators.find? fun entry => entry.1 = s with
    | some (_, op) => .documentOperator op
    | none =>
      match meaninglessSymbols.find? fun entry => entry.1 = s with
      | some (_, name, strength) => .meaningless name strength
      | none =>
        match s with
        | .doubleColon => .conversion
        | .bang => .factorial
        | .leftBracket => .subscript
        | .colon => .colon
        | _ => .nothing

def Continuation.ofPredicateWord (t : Token) : Continuation :=
  match predicateWords.find? fun entry => t.is entry.1 with
  | some (_, strength) => .predicate strength
  | none => .nothing

/-- What a word does behind an operand, where `rest` follows it. -/
def Continuation.ofWord (w : Word) (rest : List Located) : Continuation :=
  match wordOperators.find? fun entry => w.is entry.1 with
  | some (_, op, strength) => .operator op strength
  | none =>
    if w.is .DIV then .integerDivision
    else if w.is .IS then .truthTest
    else if w.is .AT && startsWith [.TIME, .ZONE] rest then .timeZone
    else if w.is .OPERATOR then .meaninglessWord w.value .OPERATOR 20
    else if w.is .NOT then
      match rest with
      | t :: _ => .ofPredicateWord t.token
      | [] => .nothing
    else .ofPredicateWord (.word w)

def Continuation.ofFront : List Located → Continuation
  | ⟨.symbol s, _⟩ :: _ => .ofSymbol s
  | ⟨.word w, _⟩ :: rest => .ofWord w rest
  | _ => .nothing

def continuation : Parser Continuation :=
  fun ts => .ok (.ofFront ts) ts

def timeZoneOf (e : Expr) : Parser Expr := do
  expectKeyword .TIME
  expectKeyword .ZONE
  let found ← next
  match found.map Located.token with
  | some (.quoted .single zone) => return .atTimeZone e zone
  | _ => unexpected .timeZoneName found

/-- The character behind `ESCAPE` that takes the meaning from those of a pattern. -/
def escape? : Parser (List Expr) :=
  clause? [.ESCAPE] do
    let place := (← peek).map Located.place
    let content ← literalString
    match content with
    | [c] =>
      if c.toNat < 0x80 then return [.verbatim ['\'', c, '\'']] else throw (.noCharacter [c] place)
    | _ => throw (.noCharacter content place)

section Inner

variable (inner : Inner)

def truthTest (e : Expr) : Parser Expr := do
  if ← keyword? .NULL then return .test e false .null
  else if ← keywords? [.NOT, .NULL] then return .test e true .null
  else if ← keyword? .TRUE then return .test e false .isTrue
  else if ← keywords? [.NOT, .TRUE] then return .test e true .isTrue
  else if ← keyword? .FALSE then return .test e false .isFalse
  else if ← keywords? [.NOT, .FALSE] then return .test e true .isFalse
  else if ← keyword? .UNKNOWN then return .test e false .unknown
  else if ← keywords? [.NOT, .UNKNOWN] then return .test e true .unknown
  else if ← keywords? [.DISTINCT, .FROM] then return .distinctFrom e false (← inner.value)
  else if ← keywords? [.NOT, .DISTINCT, .FROM] then return .distinctFrom e true (← inner.value)
  else expected .truthTest

def members : Parser (List Expr) := do
  if ← keyword? .UNNEST then
    return [.enclosed (.words [.UNNEST]) [← parenthesized inner.value]]
  expectSymbol .leftParen
  part (queryOrList inner)

def range : Parser (List Expr) := do
  let low ← inner.operand (.above 20)
  return low :: (← clause .AND (part (inner.operand (.above 20))))

def pattern : Parser (List Expr) :=
  inOrder [part (inner.operand (.above 19)), escape?]

def predicate (e : Expr) : Parser Expr := do
  let negation ← words? [.NOT]
  let rules := [clause? [.IN] (members inner), clause? [.BETWEEN] (range inner),
    clause? [.LIKE] (pattern inner), clause? [.ILIKE] (pattern inner),
    clause? [.SIMILAR, .TO] (pattern inner)]
  match ← firstOf rules with
  | [] => expected .predicate
  | parts => return .phrase (e :: negation ++ parts)

/-- A key behind an opening bracket: a word or string, a number, or a call. The closing bracket may
be missing. -/
def subscriptKey : Parser Expr := do
  let found ← next
  let key ← match found.map Located.token with
    | some (.word w) =>
      if w.isReserved then unexpected .subscriptKey found
      else if ← symbol? .leftParen then call inner [⟨w.value, none⟩]
      else pure (.textKey w.value.toList)
    | some (.quoted .single content) => pure (.textKey content)
    | some (.number digits _) => pure (.number digits false)
    | _ => unexpected .subscriptKey found
  let _ ← symbol? .rightBracket
  return key

def subscriptKeysUpTo : Nat → Parser (List Expr)
  | 0 => return [← subscriptKey inner]
  | count + 1 => do
    let first ← subscriptKey inner
    if ← symbol? .leftBracket then return first :: (← subscriptKeysUpTo count)
    else return [first]

/-- Only a name keeps its subscripts. -/
def subscriptOf (e : Expr) : Parser Expr := do
  let keys ← subscriptKeysUpTo inner (← remaining)
  match e with
  | .name n => return .subscript (.name n) keys
  | other => return other

/-- The values behind `ANY` or `ALL`, of which only comparisons have a use. -/
def quantifiedOf (e : Expr) (op : BinaryOp) (strength : Nat) (all : Bool) (place : Position) :
    Parser Expr := do
  expectSymbol .leftParen
  let right ← inner.operand (.above strength)
  expectSymbol .rightParen
  if op.compares then return .quantified e op all right
  else throw (.noComparison op.text place)

def operatorOf (e : Expr) (op : BinaryOp) (strength : Nat) (place : Position) : Parser Expr := do
  if ← keyword? .ANY then quantifiedOf inner e op strength false place
  else if ← keyword? .ALL then quantifiedOf inner e op strength true place
  else return .binary e op (← inner.operand (.above strength))

/-- The expression that a continuation at `place` makes of the operand before it. The right side of
`DIV` is a whole expression, and a failure in it is unrecoverable. -/
def continueWith (e : Expr) (place : Position) : Continuation → Parser Expr
  | .nothing => return e
  | .predicate _ => predicate inner e
  | .operator op strength => taking (operatorOf inner e op strength place)
  | .documentOperator op => taking (return .binary e op (← inner.value))
  | .integerDivision => taking (return .binary e .integerDivide (← orAbort inner.value))
  | .truthTest => taking (truthTest inner e)
  | .timeZone => taking (timeZoneOf e)
  | .conversion => taking (return .cast .CAST e (← dataType))
  | .factorial => taking (return .factorial e)
  | .subscript => taking (subscriptOf inner e)
  | .colon => taking (return .colon e (← plainValue))
  | .meaningless name _ => taking (throw (.meaninglessOperator name place))
  | .meaninglessWord word k _ => taking (throw (.meaninglessWord word k place))

/-- Goes on behind an operand with continuations within reach, at most `count` of them. -/
def continuationsUpTo (reach : Reach) : Nat → Expr → Parser Expr
  | 0, e => return e
  | count + 1, e => do
    let c ← continuation
    match ← peek with
    | some t =>
      if c.within reach then
        continuationsUpTo reach count (← continueWith inner e t.place c)
      else return e
    | none => return e

end Inner

end SqlModels.Sql.Parser
