import SqlModels.Proofs.Sql.Retyped
import SqlModels.Proofs.Sql.Numeric

/-!
The columns that the statements of a text declare, told by where their types stand among the tokens
of the text. A numeric type that gets an `UNSIGNED` makes a site of its column, so that all else is
read as before.
-/

namespace SqlModels.Sql

open SqlModels.Sql.Parser

/-- A column that the statements of a text declare, by the tokens of the text: those before its
type, those of the type as it is written, its `UNSIGNED` included, and those behind. The folding of
the tokens keeps the three parts apart. -/
structure Declared (ts : List Located) where
  before : List Located
  written : List Located
  behind : List Located
  parts : ts = before ++ written ++ behind
  folds : foldUnsigned ts = foldUnsigned before ++ (foldUnsigned written ++ foldUnsigned behind)
  /-- The tokens in front of the name, and the name. -/
  front : List Located
  name : Located
  named : foldUnsigned before = front ++ [name]
  column : Ident
  type : DataType
  reads : typedName (name :: (foldUnsigned written ++ foldUnsigned behind)) =
    .ok (column, type) (foldUnsigned behind)
  /-- What the statements are depends on what is read here. -/
  counts : ∃ typed : Parser (Ident × DataType),
    (∀ us, us ≠ name :: (foldUnsigned written ++ foldUnsigned behind) → typed us = typedName us) ∧
      statements typed (foldUnsigned ts) ≠ statements typedName (foldUnsigned ts)

/-- The words that name numeric types are none that rules look for in second place. -/
theorem Token.is_secondWord {t : Token} {k k' : Keyword} (ht : t.numericKeyword? = some k)
    (hk' : k' ∈ secondWords) : t.is k' = false := by
  have hnames : ∀ k ∈ numericKeywords, ∀ k' ∈ secondWords, k.name.toList ≠ k'.name.toList := by
    decide
  obtain ⟨hk, his⟩ := numericKeyword?_eq_some ht
  exact is_of_name_ne his (hnames k hk k' hk')

/-- That the five words which numeric types start with are the types of columns and nothing else. -/
def NumericWordsAreTypes (ts : List Located) : Prop :=
  ∀ before word behind, ts = before ++ word :: behind → word.token.numericKeyword? ≠ none →
    ∃ d : Declared ts, d.before = before

/-- The tokens of a numeric type without an `UNSIGNED`. -/
def IsNumericType (written : List Located) : Prop :=
  ∃ word arguments k type, written = word :: arguments ∧ word.token.numericKeyword? = some k ∧
    Arguments k arguments type

/-- A column in a list that is set beside itself. -/
def Site.same {ts rest : List Located} {column : Ident} {type : DataType}
    (reads : typedName ts = .ok (column, type) rest)
    (second : ∀ k ∈ secondWords, ∀ t ∈ ts[1]?, t.token.is k = false) : Site where
  left := ts
  right := ts
  guarded := True
  clear := trivial
  count_eq := rfl
  head_eq := rfl
  column := column
  type := type
  type' := type
  behind := rest
  behind' := rest
  reads := reads
  reads' := reads
  alike := .of_same rfl
  second k hk := ⟨second k hk, second k hk⟩
  modifiers h := ⟨_, _, h, .of_same rfl⟩

namespace Declared

variable {ts : List Located} (d : Declared ts)

/-- The tokens from the name of the column on, its `UNSIGNED` folded. -/
def start : List Located :=
  d.name :: (foldUnsigned d.written ++ foldUnsigned d.behind)

theorem fold_eq : foldUnsigned ts = d.front ++ d.start := by
  rw [d.folds, d.named, List.append_assoc]
  rfl

/-- The name and the type of a column, where this column has another type. -/
def reading (σ : DataType) : Parser (Ident × DataType) := fun us =>
  if us = d.start then .ok (d.column, σ) (foldUnsigned d.behind) else typedName us

/-- Statements that are read cross the site of every column that they declare. -/
theorem crossing {list : List Statement} {rest : List Located}
    (hrun : statements typedName (foldUnsigned ts) = .ok list rest) {x : Site}
    (hx : x.left = d.start) :
    Crossing x (x.Whole (ListHole (Statement.Hole x.column))) statements (foldUnsigned ts) list
      rest := by
  rcases Crosses.statements.crosses hrun with h | h
  · obtain ⟨typed, htyped, hne⟩ := d.counts
    have hsame := h typed fun us _ _ hus => htyped us fun he => hus (he.trans hx.symm)
    exact absurd (hsame.trans hrun.symm) hne
  · exact h

end Declared

namespace Arguments

variable {k : Keyword} {arguments : List Located} {type : DataType} {o : Located}

/-- Arguments in parentheses end with the closing one. -/
theorem mem_rightParen (h : Arguments k (o :: arguments) type) (ho : o.token = .symbol .leftParen) :
    (∃ c ∈ arguments, c.token = .symbol .rightParen) ∧ ∀ t ∈ arguments, ∀ w, t.token ≠ .word w := by
  cases h with
  | doublePrecision hp => simp [ho, Token.is] at hp
  | digits _ _ hn hc | floatDigits _ hn hc =>
    obtain ⟨written, long, hn, -⟩ := hn
    simp [hn, hc]
  | decimals _ _ hn hm hd hc =>
    obtain ⟨written, long, hn, -⟩ := hn
    obtain ⟨written', long', hd, -⟩ := hd
    simp [hn, hm, hd, hc]

end Arguments

namespace Declared

variable {ts front rest : List Located} {word x : Located} {k kx : Keyword}

/-- What is read of the type of a column that starts with a type word and has no `UNSIGNED`. -/
theorem numericRule_ok (d : Declared ts) (hword : word.token.numericKeyword? = some k)
    {us : List Located} (hstart : d.start = d.name :: word :: us) :
    ∃ base arguments behind, us = arguments ++ behind ∧ Arguments k arguments base ∧
      (arguments = [] → Bare k behind) ∧
        bracketsUpTo (behind.countP fun t => !t.token.is .PRECISION) base behind =
          .ok d.type (foldUnsigned d.behind) := by
  obtain ⟨t, vs, he, -, htype⟩ := typedName_eq_ok.1 d.reads
  obtain ⟨rfl, rfl⟩ := List.cons.inj (hstart.symm.trans he)
  obtain ⟨base, behind, hbase, hbrackets⟩ := dataType_eq_ok.1 htype
  rw [baseType_numeric hword] at hbase
  obtain ⟨arguments, hus, harguments, hbare⟩ :=
    Parser.numericRule_ok (Token.numericKeyword?_eq_some hword).1 hbase
  exact ⟨base, arguments, behind, hus, harguments, hbare, hbrackets⟩

/-- Behind the type of a column nothing stands that no column goes on with. -/
theorem not_open (d : Declared ts) {list : List Statement} {rest : List Located}
    (hrun : statements typedName (foldUnsigned ts) = .ok list rest)
    (hword : word.token.numericKeyword? = some k) {us : List Located}
    (hstart : d.start = d.name :: word :: us) :
    ∀ t ∈ (foldUnsigned d.behind).head?,
      t.token ≠ .symbol .leftParen ∧ t.token ≠ .symbol .period := by
  have hsecond : ∀ k' ∈ secondWords, ∀ t ∈ d.start[1]?, t.token.is k' = false := by
    intro k' hk' t ht
    rw [hstart] at ht
    obtain rfl := Option.some.inj ht
    exact Token.is_secondWord hword hk'
  obtain ⟨S, ⟨-, hopen⟩, -⟩ :=
    (d.crossing hrun (x := .same d.reads hsecond) rfl).hole
  intro t ht
  obtain ⟨vs, hbehind⟩ := List.head?_eq_some_iff.1 ht
  exact not_or.1 fun h => hopen ⟨t, vs, hbehind, h⟩

/-- What follows the arguments of a type does not open a group. -/
theorem behind_not_open (d : Declared ts) {base : DataType} {us : List Located}
    (hopen : ∀ t ∈ (foldUnsigned d.behind).head?,
      t.token ≠ .symbol .leftParen ∧ t.token ≠ .symbol .period)
    (hbrackets : bracketsUpTo (us.countP fun t => !t.token.is .PRECISION) base us =
      .ok d.type (foldUnsigned d.behind)) :
    ∀ o ∈ us.head?, o.token ≠ .symbol .leftParen := by
  intro o ho hparen
  rcases bracketsUpTo_ok hbrackets with ⟨-, hrest, -⟩ | ⟨t, ws, rfl, hbracket, -⟩
  · exact (hopen o (hrest ▸ ho)).1 hparen
  · obtain rfl := Option.some.inj ho
    rw [hparen] at hbracket
    cases hbracket

/-- A type word without an `UNSIGNED` opens no group that reaches to another type word. -/
theorem not_opensGroup (d : Declared ts) {list : List Statement} {rest behind : List Located}
    (hrun : statements typedName (foldUnsigned ts) = .ok list rest)
    (hts : ts = d.before ++ word :: (front ++ x :: behind)) (hgapless : Gapless ts)
    (hword : word.token.numericKeyword? = some k)
    (hx : x.token.numericKeyword? = some kx)
    (hsplit : Located.splitUnsigned? k (front ++ x :: behind) = none) : ¬OpensGroup k front := by
  have hfold : foldUnsigned d.written ++ foldUnsigned d.behind =
      word :: foldUnsigned (front ++ x :: behind) := by
    rw [← foldUnsigned_signed hword hsplit]
    exact foldUnsigned_cancel (hts ▸ hgapless) ((congrArg foldUnsigned hts).symm.trans d.folds)
  have hstart : d.start = d.name :: word :: foldUnsigned (front ++ x :: behind) :=
    congrArg (d.name :: ·) hfold
  obtain ⟨base, arguments, us, hus, harguments, hbare, hbrackets⟩ := d.numericRule_ok hword hstart
  have hbehind := d.behind_not_open (d.not_open hrun hword hstart) hbrackets
  intro hopens
  cases hopens with
  | @plain _ o group ho hgroup =>
    have hother : o.token.numericKeyword? = none := by rw [ho]; rfl
    rw [List.cons_append, foldUnsigned_other hother] at hus
    cases arguments with
    | nil => exact hbehind o (congrArg List.head? hus).symm ho
    | cons a arguments =>
      obtain ⟨rfl, hus₁⟩ := List.cons.inj hus
      obtain ⟨⟨c, hc, hclose⟩, hwords⟩ := harguments.mem_rightParen ho
      have hbegins := prefix_of_foldUnsigned hx hwords hus₁
      exact hgroup c (hbegins.subset hc) hclose
  | @precision p o group hp ho hgroup =>
    have hother : o.token.numericKeyword? = none := by rw [ho]; rfl
    have hprecision : p.token.numericKeyword? = none := Token.numericKeyword?_precision hp
    rw [List.cons_append, foldUnsigned_other hprecision, List.cons_append,
      foldUnsigned_other hother] at hus
    cases harguments with
    | double =>
      obtain ⟨-, hnotPrecision⟩ := hbare rfl p (by rw [← List.nil_append us, ← hus]; rfl)
      simp [hp] at hnotPrecision
    | doublePrecision => exact hbehind o (congrArg List.head? (List.cons.inj hus).2).symm ho
    | decimal hk => simp [decimalWords] at hk
    | digits hk => simp [decimalWords] at hk
    | decimals hk => simp [decimalWords] at hk

end Declared

section Signed

variable {α : Type} {ts front written behind : List Located} {name : Located}

/-- Whether a parser reads tokens. -/
def Parser.accepts (p : Parser α) (ts : List Located) : Bool :=
  match p ts with
  | .ok _ _ => true
  | .error _ _ => false

/-- The name and the type of a column, but not of the one that starts here. -/
def Parser.typedNameBut (start : List Located) : Parser (Ident × DataType) := fun us =>
  if us = start then .error .abort us else typedName us

/-- A column declared by tokens that hold no `UNSIGNED`. -/
def Declared.signed (hts : ts = front ++ name :: (written ++ behind)) (hgapless : Gapless ts)
    (hsigned : ∀ t ∈ ts, t.token.is .UNSIGNED = false) {column : Ident} {type : DataType}
    (hreads : typedName (name :: (written ++ behind)) = .ok (column, type) behind)
    {list : List Statement} {rest : List Located} (hrun : statements typedName ts = .ok list rest)
    (hrejects : (statements (typedNameBut (name :: (written ++ behind)))).accepts ts = false) :
    Declared ts :=
  have hself {us : List Located} (hus : us ⊆ ts) : foldUnsigned us = us :=
    foldUnsigned_of_signed (fun t ht => hgapless t (hus ht)) fun t ht => hsigned t (hus ht)
  have hbefore : foldUnsigned (front ++ [name]) = front ++ [name] :=
    hself fun t ht => by simp only [hts, List.mem_append, List.mem_cons] at ht ⊢; tauto
  have hwritten : foldUnsigned written = written := hself fun t ht => by simp [hts, ht]
  have hbehind : foldUnsigned behind = behind := hself fun t ht => by simp [hts, ht]
  { before := front ++ [name]
    written := written
    behind := behind
    parts := by simp [hts]
    folds := by rw [hself (List.Subset.refl ts), hbefore, hwritten, hbehind, hts]; simp
    front := front
    name := name
    named := hbefore
    column := column
    type := type
    reads := by rw [hwritten, hbehind]; exact hreads
    counts := by
      rw [hwritten, hbehind, hself (List.Subset.refl ts)]
      refine ⟨typedNameBut (name :: (written ++ behind)), fun us hus => if_neg hus, ?_⟩
      intro h
      rw [Parser.accepts, h, hrun] at hrejects
      exact nomatch hrejects }

/-- Where one column has a numeric type and no other token names one, such words are types. -/
theorem Declared.numericWordsAreTypes (d : Declared ts) {word : Located} {arguments : List Located}
    (hwritten : d.written = word :: arguments)
    (hbefore : ∀ t ∈ d.before, t.token.numericKeyword? = none)
    (hbehind : ∀ t ∈ arguments ++ d.behind, t.token.numericKeyword? = none) :
    NumericWordsAreTypes ts := by
  intro before word' behind hts hword'
  have hparts : d.before ++ word :: (arguments ++ d.behind) = before ++ word' :: behind := by
    rw [← hts]
    conv_rhs => rw [d.parts, hwritten]
    simp
  have hother {us : List Located} (hus : ∀ t ∈ us, t.token.numericKeyword? = none) : word' ∉ us :=
    fun h => hword' (hus word' h)
  exact ⟨d, ((List.append_cons_inj_of_notMem (hother hbefore) (hother hbehind)).1 hparts).1⟩

end Signed

end SqlModels.Sql
