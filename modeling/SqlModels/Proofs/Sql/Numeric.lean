import SqlModels.Proofs.Sql.Constraints
import SqlModels.Proofs.Sql.Layout
import SqlModels.Proofs.Sql.Lexemes
import SqlModels.Schema.Column

/-!
Numeric types as they are read: one with a type keyword by its rule, one whose `UNSIGNED` is folded
into its name as a custom type. Both readings come to the same type of a column.
-/

namespace SqlModels.Sql

open SqlModels.Sql.Parser

/-- The rule of a numeric type behind its word. -/
def numericRule : Keyword → Parser DataType
  | .DECIMAL => decimalType .decimal
  | .NUMERIC => decimalType .numeric
  | .FLOAT => return .float (← size?)
  | .DOUBLE => return .plain (if ← keyword? .PRECISION then .doublePrecision else .double)
  | _ => return .plain .real

/-- That a token is a number of the given value. -/
def Token.Spells (t : Token) (value : Nat) : Prop :=
  ∃ digits long, t = .number digits long ∧ readInteger digits 0 digits = .ok value

/-- The words of decimals, and which kind of decimals they are. -/
def decimalWords : List (Keyword × DecimalKind) :=
  [(.DECIMAL, .decimal), (.NUMERIC, .numeric)]

/-- What may stand behind the word of a numeric type, and the type it makes of it. -/
inductive Arguments : Keyword → List Located → DataType → Prop
  | decimal {k kind} (hk : (k, kind) ∈ decimalWords) : Arguments k [] (.decimal kind .unspecified)
  | digits {k kind o n c digits} (hk : (k, kind) ∈ decimalWords)
      (ho : o.token = .symbol .leftParen) (hn : n.token.Spells digits)
      (hc : c.token = .symbol .rightParen) :
      Arguments k [o, n, c] (.decimal kind (.precision digits))
  | decimals {k kind o n m d c digits decimals} (hk : (k, kind) ∈ decimalWords)
      (ho : o.token = .symbol .leftParen) (hn : n.token.Spells digits)
      (hm : m.token = .symbol .comma) (hd : d.token.Spells decimals)
      (hc : c.token = .symbol .rightParen) :
      Arguments k [o, n, m, d, c] (.decimal kind (.precisionAndScale digits decimals))
  | float : Arguments .FLOAT [] (.float none)
  | floatDigits {o n c digits} (ho : o.token = .symbol .leftParen) (hn : n.token.Spells digits)
      (hc : c.token = .symbol .rightParen) : Arguments .FLOAT [o, n, c] (.float (some digits))
  | double : Arguments .DOUBLE [] (.plain .double)
  | doublePrecision {p} (hp : p.token.is .PRECISION) :
      Arguments .DOUBLE [p] (.plain .doublePrecision)
  | real : Arguments .REAL [] (.plain .real)

namespace Parser

variable {ts rest : List Located} {k : Keyword} {element : Parser DataType}

theorem baseType_numeric {t : Located} (ht : t.token.numericKeyword? = some k) (ts : List Located) :
    baseType element (t :: ts) = numericRule k ts := by
  obtain ⟨hk, his⟩ := Token.numericKeyword?_eq_some ht
  obtain ⟨token, place⟩ := t
  obtain ⟨w, rfl⟩ := numericKeyword?_word ht
  have hword : w.is k = true := his
  have hother (k' : Keyword) (hne : k.name.toList ≠ k'.name.toList) : w.is k' = false :=
    Token.is_of_name_ne his hne
  have hrule : (typeRules element).find? (fun rule => w.is rule.1) = some (k, numericRule k) := by
    simp only [numericKeywords, List.mem_cons, List.not_mem_nil, or_false] at hk
    rcases hk with rfl | rfl | rfl | rfl | rfl <;>
      simp (disch := decide) only [typeRules, List.find?_cons, hother, hword] <;> rfl
  have hpeek :
      peek (⟨.word w, place⟩ :: ts) = .ok (some ⟨.word w, place⟩) (⟨.word w, place⟩ :: ts) :=
    rfl
  rw [baseType, bind_of_ok hpeek]
  simp only [hrule]
  rfl

theorem integer_ok {value : Nat} (h : integer ts = .ok value rest) :
    ∃ n, ts = n :: rest ∧ n.token.Spells value := by
  obtain ⟨found, behind, hfound, h⟩ := bind_eq_ok.1 h
  cases ts with
  | nil =>
    obtain ⟨rfl, -⟩ := EStateM.Result.ok.inj hfound
    cases h
  | cons n ts =>
    obtain ⟨rfl, rfl⟩ := EStateM.Result.ok.inj hfound
    obtain ⟨token, place⟩ := n
    cases token with
    | number digits long =>
      simp only [List.head?_cons] at h
      cases hread : readInteger digits 0 digits with
      | error fault =>
        rw [hread] at h
        cases h
      | ok n =>
        rw [hread] at h
        obtain ⟨rfl, rfl⟩ := pure_eq_ok.1 h
        exact ⟨_, rfl, digits, long, rfl, hread⟩
    | _ => cases h

theorem parenthesized_ok {α : Type} {item : Parser α} {a : α}
    (h : parenthesized item ts = .ok a rest) : ∃ o us c, ts = o :: us ∧
      o.token = .symbol .leftParen ∧ item us = .ok a (c :: rest) ∧
        c.token = .symbol .rightParen := by
  obtain ⟨u, us, hopen, h⟩ := bind_eq_ok.1 h
  obtain ⟨b, vs, hitem, h⟩ := bind_eq_ok.1 h
  obtain ⟨v, ws, hclose, h⟩ := bind_eq_ok.1 h
  obtain ⟨rfl, rfl⟩ := pure_eq_ok.1 h
  obtain ⟨o, rfl, ho⟩ := expectSymbol_ok hopen
  obtain ⟨c, rfl, hc⟩ := expectSymbol_ok hclose
  exact ⟨o, us, c, rfl, ho, hitem, hc⟩

theorem atSymbol_false {y : Symbol} (h : atSymbol y ts = .ok false rest) :
    rest = ts ∧ ∀ t ∈ ts.head?, t.token ≠ .symbol y := by
  obtain ⟨hany, rfl⟩ := EStateM.Result.ok.inj h
  refine ⟨rfl, fun t ht he => ?_⟩
  rw [ht] at hany
  simp [he] at hany

theorem atSymbol_eq {y : Symbol} {found : Bool} (h : atSymbol y ts = .ok found rest) : rest = ts :=
  (EStateM.Result.ok.inj h).2.symm

theorem size?_ok {size : Option Nat} (h : size? ts = .ok size rest) :
    (size = none ∧ ts = rest ∧ ∀ t ∈ ts.head?, t.token ≠ .symbol .leftParen) ∨
      ∃ o n c value, size = some value ∧ ts = o :: n :: c :: rest ∧
        o.token = .symbol .leftParen ∧ n.token.Spells value ∧ c.token = .symbol .rightParen := by
  obtain ⟨found, behind, hfound, h₁⟩ := bind_eq_ok.1 h
  cases found with
  | false =>
    obtain ⟨rfl, hhead⟩ := atSymbol_false hfound
    obtain ⟨rfl, rfl⟩ := pure_eq_ok.1 h₁
    exact .inl ⟨rfl, rfl, hhead⟩
  | true =>
    obtain rfl := atSymbol_eq hfound
    obtain ⟨value, us, hvalue, h₂⟩ := bind_eq_ok.1 h₁
    obtain ⟨rfl, rfl⟩ := pure_eq_ok.1 h₂
    obtain ⟨o, us, c, rfl, ho, hinteger, hc⟩ := parenthesized_ok hvalue
    obtain ⟨n, rfl, hn⟩ := integer_ok hinteger
    exact .inr ⟨o, n, c, value, rfl, rfl, ho, hn, hc⟩

theorem decimalType_ok {kind : DecimalKind} {type : DataType} (hk : (k, kind) ∈ decimalWords)
    (h : decimalType kind ts = .ok type rest) : ∃ arguments, ts = arguments ++ rest ∧
      Arguments k arguments type ∧
        (arguments = [] → ∀ t ∈ rest.head?, t.token ≠ .symbol .leftParen) := by
  obtain ⟨found, behind, hfound, h₁⟩ := bind_eq_ok.1 h
  cases found with
  | false =>
    obtain ⟨rfl, hhead⟩ := atSymbol_false hfound
    obtain ⟨rfl, rfl⟩ := pure_eq_ok.1 h₁
    exact ⟨[], rfl, .decimal hk, fun _ => hhead⟩
  | true =>
    obtain rfl := atSymbol_eq hfound
    obtain ⟨size, us, hparentheses, h₂⟩ := bind_eq_ok.1 h₁
    obtain ⟨rfl, rfl⟩ := pure_eq_ok.1 h₂
    obtain ⟨o, us, c, rfl, ho, hsize, hc⟩ := parenthesized_ok hparentheses
    obtain ⟨digits, vs, hdigits, hsize₁⟩ := bind_eq_ok.1 hsize
    obtain ⟨n, rfl, hn⟩ := integer_ok hdigits
    obtain ⟨comma, ws, hcomma, hsize₂⟩ := bind_eq_ok.1 hsize₁
    cases comma with
    | false =>
      obtain rfl := symbol?_false hcomma
      obtain ⟨rfl, he⟩ := pure_eq_ok.1 hsize₂
      subst he
      exact ⟨[o, n, c], rfl, .digits hk ho hn hc, nofun⟩
    | true =>
      obtain ⟨m, rfl, hm⟩ := symbol?_true hcomma
      obtain ⟨decimals, xs, hdecimals, hsize₃⟩ := bind_eq_ok.1 hsize₂
      obtain ⟨rfl, rfl⟩ := pure_eq_ok.1 hsize₃
      obtain ⟨d, rfl, hd⟩ := integer_ok hdecimals
      exact ⟨[o, n, m, d, c], rfl, .decimals hk ho hn hm hd hc, nofun⟩

/-- That behind a type word nothing stands that could be its arguments. -/
def Bare (k : Keyword) (ts : List Located) : Prop :=
  ∀ t ∈ ts.head?, (k ∈ [.DECIMAL, .NUMERIC, .FLOAT] → t.token ≠ .symbol .leftParen) ∧
    (k = .DOUBLE → t.token.is .PRECISION = false)

/-- What the rule of a numeric type takes are its arguments, if there are any. -/
theorem numericRule_ok {type : DataType} (hk : k ∈ numericKeywords)
    (h : numericRule k ts = .ok type rest) : ∃ arguments, ts = arguments ++ rest ∧
      Arguments k arguments type ∧ (arguments = [] → Bare k rest) := by
  have hdecimal {kind : DecimalKind} (hk : (k, kind) ∈ decimalWords)
      (h : decimalType kind ts = .ok type rest) : ∃ arguments, ts = arguments ++ rest ∧
        Arguments k arguments type ∧ (arguments = [] → Bare k rest) := by
    obtain ⟨arguments, hts, harguments, hbare⟩ := decimalType_ok hk h
    refine ⟨arguments, hts, harguments, fun hnil t ht => ⟨fun _ => hbare hnil t ht, ?_⟩⟩
    rintro rfl
    simp [decimalWords] at hk
  simp only [numericKeywords, List.mem_cons, List.not_mem_nil, or_false] at hk
  rcases hk with rfl | rfl | rfl | rfl | rfl
  · exact hdecimal (by decide) h
  · exact hdecimal (by decide) h
  · obtain ⟨size, behind, hsize, h₁⟩ := bind_eq_ok.1 h
    obtain ⟨rfl, rfl⟩ := pure_eq_ok.1 h₁
    obtain ⟨rfl, rfl, hhead⟩ | ⟨o, n, c, value, rfl, rfl, ho, hn, hc⟩ := size?_ok hsize
    · exact ⟨[], rfl, .float, fun _ t ht => ⟨fun _ => hhead t ht, nofun⟩⟩
    · exact ⟨[o, n, c], rfl, .floatDigits ho hn hc, nofun⟩
  · obtain ⟨found, behind, hfound, h₁⟩ := bind_eq_ok.1 h
    obtain ⟨rfl, rfl⟩ := pure_eq_ok.1 h₁
    cases found with
    | true =>
      obtain ⟨p, rfl, hp⟩ := keyword?_true hfound
      exact ⟨[p], rfl, .doublePrecision hp, nofun⟩
    | false =>
      obtain ⟨rfl, hhead⟩ := keyword?_refuses hfound
      exact ⟨[], rfl, .double, fun _ t ht => ⟨fun hk => absurd hk (by decide), fun _ => hhead t ht⟩⟩
  · obtain ⟨rfl, rfl⟩ := pure_eq_ok.1 h
    exact ⟨[], rfl, .real, fun _ t ht => ⟨fun hk => absurd hk (by decide), nofun⟩⟩

/-- Brackets are taken or not, whatever the type in front of them. -/
theorem bracketsUpTo_ok {count : Nat} {base type : DataType}
    (h : bracketsUpTo count base ts = .ok type rest) :
    (type = base ∧ rest = ts ∧ ∀ other, bracketsUpTo count other ts = .ok other ts) ∨
      ∃ t us, ts = t :: us ∧ t.token = .symbol .leftBracket ∧ rest <:+ us := by
  cases count with
  | zero =>
    obtain ⟨rfl, rfl⟩ := pure_eq_ok.1 h
    exact .inl ⟨rfl, rfl, fun _ => rfl⟩
  | succ count =>
    obtain ⟨found, behind, hfound, h₁⟩ := bind_eq_ok.1 h
    cases found with
    | false =>
      have hbehind := symbol?_false hfound
      subst hbehind
      obtain ⟨rfl, rfl⟩ := pure_eq_ok.1 h₁
      exact .inl ⟨rfl, rfl, fun other => bind_of_ok hfound⟩
    | true =>
      obtain ⟨t, rfl, ht⟩ := symbol?_true hfound
      obtain ⟨u, us, hclose, h₂⟩ := bind_eq_ok.1 h₁
      obtain ⟨c, rfl, hc⟩ := expectSymbol_ok hclose
      have hrest := (Follows.bracketsUpTo (s := .finish) count (.array base)).takes h₂
      exact .inr ⟨t, c :: us, rfl, ht, hrest.trans (List.suffix_cons c us)⟩

theorem name_single {t : Located} {i : Ident} (ht : identOf? t.token = some i)
    (hts : ∀ u ∈ ts.head?, u.token ≠ .symbol .period) : name (t :: ts) = .ok [i] ts := by
  have hone (count : Nat) : nameUpTo count (t :: ts) = .ok [i] ts := by
    have hi : identifier (t :: ts) = .ok i ts := by rw [identifier_cons, ht]
    cases count with
    | zero => exact bind_of_ok hi
    | succ count =>
      have hperiod : symbol? .period ts = .ok false ts := by
        cases ts with
        | nil => rfl
        | cons u us => exact symbol?_neg (hts u rfl) us
      rw [nameUpTo, bind_of_ok hi, bind_of_ok hperiod]
      rfl
  exact hone _

/-- The word of an unsigned numeric type names no type of the grammar. -/
theorem baseType_unsigned (hk : k ∈ numericKeywords) (place : Position) (ts : List Located) :
    baseType element (⟨unsignedWord k, place⟩ :: ts) =
      customType (⟨unsignedWord k, place⟩ :: ts) := by
  have hnames : ∀ k ∈ numericKeywords, ∀ k' ∈ (typeRules dataType).map Prod.fst,
      (unsignedWord k).is k' = false := by decide
  have hnone : (typeRules element).find?
      (fun rule => Word.is ⟨unsignedMark ++ k.name, false⟩ rule.1) = none := by
    refine List.find?_eq_none.2 fun rule hrule hword => ?_
    have hmem : rule.1 ∈ (typeRules element).map Prod.fst := List.mem_map_of_mem hrule
    exact nomatch hword.symm.trans (hnames k hk rule.1 hmem)
  have hpeek : peek (⟨unsignedWord k, place⟩ :: ts) =
      .ok (some ⟨unsignedWord k, place⟩) (⟨unsignedWord k, place⟩ :: ts) := rfl
  rw [baseType, bind_of_ok hpeek]
  simp only [unsignedWord, hnone]

theorem customType_bare {t : Located} {i : Ident} (ht : identOf? t.token = some i)
    (hts : ∀ u ∈ ts.head?, u.token ≠ .symbol .period ∧ u.token ≠ .symbol .leftParen) :
    customType (t :: ts) = .ok (.custom [i] []) ts := by
  have hparen : symbol? .leftParen ts = .ok false ts := by
    cases ts with
    | nil => rfl
    | cons u us => exact symbol?_neg (hts u rfl).2 us
  rw [customType, bind_of_ok (name_single ht fun u hu => (hts u hu).1), bind_of_ok hparen]
  rfl

theorem customType_modified {t o : Located} {i : Ident} {modifiers : List Text}
    (ht : identOf? t.token = some i) (ho : o.token = .symbol .leftParen)
    (hts : readModifiers ts = .ok modifiers rest) :
    customType (t :: o :: ts) = .ok (.custom [i] modifiers) rest := by
  have hname : name (t :: o :: ts) = .ok [i] (o :: ts) := name_single ht fun u hu => by
    obtain rfl := Option.some.inj hu
    simp [ho]
  have hmodifiers : (readModifiers >>= fun modifiers =>
      (pure (.custom [i] modifiers) : Parser DataType)) ts = .ok (.custom [i] modifiers) rest :=
    bind_of_ok hts
  rw [customType, bind_of_ok hname, bind_of_ok (symbol?_pos ho ts)]
  exact hmodifiers

end Parser

namespace Arguments

variable {k : Keyword} {arguments behind : List Located} {type : DataType} {t : Located}

/-- Arguments are parentheses and commas, numbers, or the word `PRECISION`. -/
theorem classify (h : Arguments k arguments type) (ht : t ∈ arguments) :
    t.token.is .PRECISION = true ∨ (∃ value, t.token.Spells value) ∨
      ∃ y ∈ [Symbol.leftParen, .comma, .rightParen], t.token = .symbol y := by
  have hsymbol {y : Symbol} (hy : y ∈ [Symbol.leftParen, .comma, .rightParen])
      (ht : t.token = .symbol y) : t.token.is .PRECISION = true ∨ (∃ value, t.token.Spells value) ∨
        ∃ y ∈ [Symbol.leftParen, .comma, .rightParen], t.token = .symbol y :=
    .inr (.inr ⟨y, hy, ht⟩)
  cases h with
  | decimal | float | double | real => cases ht
  | doublePrecision hp =>
    obtain rfl := List.mem_singleton.1 ht
    exact .inl hp
  | digits _ ho hn hc | floatDigits ho hn hc =>
    simp only [List.mem_cons, List.not_mem_nil, or_false] at ht
    rcases ht with rfl | rfl | rfl
    · exact hsymbol (by decide) ho
    · exact .inr (.inl ⟨_, hn⟩)
    · exact hsymbol (by decide) hc
  | decimals _ ho hn hm hd hc =>
    simp only [List.mem_cons, List.not_mem_nil, or_false] at ht
    rcases ht with rfl | rfl | rfl | rfl | rfl
    · exact hsymbol (by decide) ho
    · exact .inr (.inl ⟨_, hn⟩)
    · exact hsymbol (by decide) hm
    · exact .inr (.inl ⟨_, hd⟩)
    · exact hsymbol (by decide) hc

/-- No argument of a type is a word that the folding looks for. -/
theorem tokens (h : Arguments k arguments type) (ht : t ∈ arguments) :
    t.token.numericKeyword? = none ∧ t.token.is .UNSIGNED = false ∧
      t.token ≠ .symbol .leftBracket := by
  rcases h.classify ht with hp | ⟨value, digits, long, hn, -⟩ | ⟨y, hy, hsymbol⟩
  · refine ⟨Token.numericKeyword?_precision hp, Token.is_of_name_ne hp (by decide), ?_⟩
    intro he
    simp [he, Token.is] at hp
  · rw [hn]
    exact ⟨rfl, rfl, nofun⟩
  · rw [hsymbol]
    refine ⟨rfl, rfl, ?_⟩
    rintro ⟨⟩
    exact absurd hy (by decide)

/-- The folding goes over the arguments of a type. -/
theorem foldUnsigned_eq (h : Arguments k arguments type) : foldUnsigned arguments = arguments :=
  foldUnsigned_eq_self fun _ ht => (h.tokens ht).1

/-- The arguments as they stand behind a folded `UNSIGNED`. -/
def kept (arguments : List Located) : List Located :=
  arguments.filter fun t => !t.token.is .PRECISION

theorem splitUnsigned? (h : Arguments k arguments type) {u : Located} (hu : u.token.is .UNSIGNED)
    (hgapless : Gapless (arguments ++ u :: behind)) :
    Located.splitUnsigned? k (arguments ++ u :: behind) = some (kept arguments, behind) := by
  refine (Located.splitUnsigned?_iff hgapless).2 ?_
  cases h with
  | decimal | float | double | real => exact .plain .none hu behind
  | @doublePrecision p hp =>
    have hkept : kept [p] = [] := by simp [kept, hp]
    rw [hkept]
    exact .precision hp .none hu behind
  | @digits _ _ o n c _ _ ho hn hc | @floatDigits o n c _ ho hn hc =>
    obtain ⟨digits, long, hn, -⟩ := hn
    have hkept : kept [o, n, c] = o :: [n] ++ [c] := by simp [kept, Token.is, ho, hn, hc]
    have hinner : ∀ t ∈ [n], t.token ≠ .symbol .rightParen := by simp [hn]
    rw [hkept]
    exact .plain (.closed ho hinner hc) hu behind
  | @decimals _ _ o n m d c _ _ _ ho hn hm hd hc =>
    obtain ⟨digits, long, hn, -⟩ := hn
    obtain ⟨decimals, long', hd, -⟩ := hd
    have hkept : kept [o, n, m, d, c] = o :: [n, m, d] ++ [c] := by
      simp [kept, Token.is, ho, hn, hm, hd, hc]
    have hinner : ∀ t ∈ [n, m, d], t.token ≠ .symbol .rightParen := by simp [hn, hm, hd]
    rw [hkept]
    exact .plain (.closed ho hinner hc) hu behind

/-- The modifiers that the arguments are as part of a custom type. -/
def modifiers (arguments : List Located) : List Text :=
  arguments.filterMap fun t => match t.token with
    | .number written _ => some written
    | _ => none

/-- A type with a folded `UNSIGNED` is read as a custom type. -/
theorem reads_custom (h : Arguments k arguments type) (hk : k ∈ numericKeywords)
    (element : Parser DataType) (place : Position)
    (hbehind : ∀ u ∈ behind.head?, u.token ≠ .symbol .period ∧ u.token ≠ .symbol .leftParen) :
    baseType element (⟨unsignedWord k, place⟩ :: kept arguments ++ behind) =
      .ok (.custom [⟨unsignedMark ++ k.name, none⟩] (modifiers arguments)) behind := by
  have hword : identOf? (⟨unsignedWord k, place⟩ : Located).token =
      some ⟨unsignedMark ++ k.name, none⟩ := rfl
  have hgroup {o n c : Located} {value : Nat} (ho : o.token = .symbol .leftParen)
      (hn : n.token.Spells value) (hc : c.token = .symbol .rightParen) :
      customType (⟨unsignedWord k, place⟩ :: (kept [o, n, c] ++ behind)) =
        .ok (.custom [⟨unsignedMark ++ k.name, none⟩] (modifiers [o, n, c])) behind := by
    obtain ⟨written, long, hn, -⟩ := hn
    have hkept : kept [o, n, c] = [o, n, c] := by simp [kept, Token.is, ho, hn, hc]
    have hmodifiers : modifiers [o, n, c] = [written] := by simp [modifiers, ho, hn, hc]
    rw [hkept, hmodifiers]
    exact customType_modified hword ho (by simp [readModifiers, modifierOf?, hn, hc])
  rw [List.cons_append, baseType_unsigned hk]
  cases h with
  | decimal | float | double | real => exact customType_bare hword hbehind
  | @doublePrecision p hp =>
    have hmodifiers : modifiers [p] = [] := by
      cases hw : p.token with
      | word w => simp [modifiers, hw]
      | _ => simp [hw, Token.is] at hp
    simpa [kept, hp, hmodifiers] using customType_bare hword hbehind
  | digits _ ho hn hc | floatDigits ho hn hc => exact hgroup ho hn hc
  | @decimals _ _ o n m d c _ _ _ ho hn hm hd hc =>
    obtain ⟨written, long, hn, -⟩ := hn
    obtain ⟨written', long', hd, -⟩ := hd
    have hkept : kept [o, n, m, d, c] = [o, n, m, d, c] := by
      simp [kept, Token.is, ho, hn, hm, hd, hc]
    have hmodifiers : modifiers [o, n, m, d, c] = [written, written'] := by
      simp [modifiers, ho, hn, hm, hd, hc]
    rw [hkept, hmodifiers]
    exact customType_modified hword ho (by simp [readModifiers, modifierOf?, hn, hm, hd, hc])

/-- What a number is worth as a modifier. -/
theorem modifierNumber?_eq {written : Text} {value : Nat} (hne : written ≠ [])
    (h : readInteger written 0 written = .ok value) :
    ColumnType.modifierNumber? written = some value := by
  unfold ColumnType.modifierNumber?
  extract_lets digits
  have hdigits : digits = written := by
    dsimp only [digits]
    split
    · simp [readInteger, isDigit] at h
    · rfl
  simp only [hdigits, hne, if_false, h, Except.toOption]

theorem ofCustom_decimal {kind : DecimalKind} (hk : (k, kind) ∈ decimalWords)
    (modifiers : List Text) : ColumnType.ofCustom (unsignedMark ++ k.name) modifiers =
      (.decimal (ColumnType.modifierAt modifiers 0 ColumnType.defaultDigits)
        (ColumnType.modifierAt modifiers 1 ColumnType.defaultDecimals), true) := by
  simp only [decimalWords, List.mem_cons, Prod.mk.injEq, List.not_mem_nil, or_false] at hk
  rcases hk with ⟨rfl, -⟩ | ⟨rfl, -⟩ <;> rfl

theorem ofSql_decimal {kind : DecimalKind} (hk : (k, kind) ∈ decimalWords) (size : DecimalSize) :
    ColumnType.ofSql (.decimal kind size) = (ColumnType.ofDecimalSize size, false) := by
  simp only [decimalWords, List.mem_cons, Prod.mk.injEq, List.not_mem_nil, or_false] at hk
  rcases hk with ⟨-, rfl⟩ | ⟨-, rfl⟩ <;> rfl

/-- Both readings of a numeric type come to the same type of a column, and only one is unsigned. -/
theorem ofSql_custom (h : Arguments k arguments type)
    (hnumbers : ∀ t ∈ arguments, ∀ written long, t.token = .number written long → written ≠ []) :
    ColumnType.ofSql (.custom [⟨unsignedMark ++ k.name, none⟩] (modifiers arguments)) =
      ((ColumnType.ofSql type).1, true) ∧ (ColumnType.ofSql type).2 = false := by
  have hnumber {n : Located} {value : Nat} (hmem : n ∈ arguments) (hn : n.token.Spells value) :
      ∃ written long, n.token = .number written long ∧
        ColumnType.modifierNumber? written = some value := by
    obtain ⟨written, long, hn, hread⟩ := hn
    exact ⟨written, long, hn, modifierNumber?_eq (hnumbers n hmem written long hn) hread⟩
  have hcustom (i : Ident) (modifiers : List Text) :
      ColumnType.ofSql (.custom [i] modifiers) = ColumnType.ofCustom i.value modifiers := rfl
  rw [hcustom]
  cases h with
  | decimal hk =>
    rw [ofCustom_decimal hk, ofSql_decimal hk]
    exact ⟨rfl, rfl⟩
  | digits hk ho hn hc =>
    obtain ⟨written, long, hn, hvalue⟩ := hnumber (by simp) hn
    rw [ofCustom_decimal hk, ofSql_decimal hk]
    simp [modifiers, ho, hn, hc, ColumnType.modifierAt, hvalue, ColumnType.ofDecimalSize,
      ColumnType.defaultDecimals]
  | decimals hk ho hn hm hd hc =>
    obtain ⟨written, long, hn, hvalue⟩ := hnumber (by simp) hn
    obtain ⟨written', long', hd, hvalue'⟩ := hnumber (by simp) hd
    rw [ofCustom_decimal hk, ofSql_decimal hk]
    simp [modifiers, ho, hn, hm, hd, hc, ColumnType.modifierAt, hvalue, hvalue',
      ColumnType.ofDecimalSize]
  | float | floatDigits | double | doublePrecision | real => exact ⟨rfl, rfl⟩

end Arguments

/-- The numbers among the tokens of a text are written with at least one character. -/
theorem tokensFrom_number {p : Position} {text : Text} {ts : List Located}
    (h : tokensFrom p text = .ok ts) :
    ∀ t ∈ ts, ∀ written long, t.token = .number written long → written ≠ [] := by
  intro t ht written long hnumber
  have hlexed := tokensFrom_isLexed h t ht
  rw [hnumber] at hlexed
  obtain ⟨c, rest, rfl, -⟩ := hlexed
  exact List.cons_ne_nil c rest

end SqlModels.Sql
