import SqlModels.Proofs.Schema.Retype
import SqlModels.Proofs.Sql.Insertion

/-!
An `UNSIGNED` behind a numeric type makes the column unsigned, and changes nothing else that is
read.
-/

namespace SqlModels

namespace Sql

variable {text : Text} {ts : List Located} {list : List Statement}

/-- The statements of a text are those of its tokens without gaps. -/
theorem parse_eq_ok (htokens : tokens text = .ok ts) : parse text = .ok list ↔
    ∃ rest, Parser.statements Parser.typedName (foldUnsigned (significant ts)) = .ok list rest := by
  have hfold : (foldUnsigned ts).filter (fun t => !t.token.isGap) = foldUnsigned (significant ts) :=
    foldUnsigned_significant ts
  have hpure : tokens text = pure ts := htokens
  simp only [parse, hpure, pure_bind, hfold]
  cases Parser.statements Parser.typedName (foldUnsigned (significant ts)) with
  | ok list' rest =>
    show Except.ok list' = .ok list ↔ _
    simp
  | error fault rest => simp

end Sql

namespace Schema

variable {text : Text} {schema : Schema}

theorem read_eq_ok : read text = .ok schema ↔
    ∃ list, Sql.parse text = .ok list ∧ ofStatements list = .ok schema := by
  unfold read
  cases Sql.parse text with
  | error fault => simp
  | ok list => cases h : ofStatements list <;> simp [Except.mapError, h]

/-- The schema of the statements that tokens without gaps make, where the names and types of columns
are read in the given way. -/
def ofTokens (typed : Sql.Parser (Sql.Ident × Sql.DataType)) (ts : List Sql.Located) :
    Option Schema :=
  match Sql.Parser.statements typed ts with
  | .ok list _ => (ofStatements list).toOption
  | .error _ _ => none

theorem ofTokens_eq_some {typed : Sql.Parser (Sql.Ident × Sql.DataType)} {ts : List Sql.Located} :
    ofTokens typed ts = some schema ↔ ∃ list rest, Sql.Parser.statements typed ts = .ok list rest ∧
      ofStatements list = .ok schema := by
  unfold ofTokens
  cases Sql.Parser.statements typed ts with
  | error fault rest => simp
  | ok list rest => cases h : ofStatements list <;> simp [Except.toOption, h]

theorem read_eq_ofTokens {ts : List Sql.Located} (htokens : Sql.tokens text = .ok ts) :
    read text = .ok schema ↔ ofTokens Sql.Parser.typedName
      (Sql.foldUnsigned (Sql.significant ts)) = some schema := by
  simp only [read_eq_ok, ofTokens_eq_some, Sql.parse_eq_ok htokens]
  tauto

/-- A place for a column in a schema. -/
structure Place where
  tablesBefore : List Table
  table : String
  columnsBefore : List Column
  columnsBehind : List Column
  primaryKey : List String
  tablesBehind : List Table

/-- The schema with a column in its place. -/
def Place.fill (p : Place) (c : Column) : Schema :=
  ⟨p.tablesBefore ++ ⟨p.table, p.columnsBefore ++ c :: p.columnsBehind, p.primaryKey⟩ ::
    p.tablesBehind⟩

theorem Hole.place {s : Sql.DataType → Schema} (h : Hole s) :
    ∃ (p : Place) (c : Column), s = fun σ => p.fill (c.retype σ) := by
  obtain ⟨_, ⟨tablesBefore, _, tablesBehind, ⟨table, _, primaryKey, hcolumns, rfl⟩, rfl⟩, rfl⟩ := h
  obtain ⟨columnsBefore, _, columnsBehind, ⟨c, rfl⟩, rfl⟩ := hcolumns
  exact ⟨⟨tablesBefore, table, columnsBefore, columnsBehind, primaryKey, tablesBehind⟩, c, rfl⟩

end Schema

/-- The schema of the tokens if this column had another type. -/
def Sql.Declared.schema {ts : List Sql.Located} (d : Sql.Declared ts) (σ : Sql.DataType) :
    Option Schema :=
  Schema.ofTokens (d.reading σ) (Sql.foldUnsigned ts)

/-- That the second schema is the first with this column unsigned, where the column is in it. Which
column of the schema it is shows in what becomes of other types. -/
def Sql.Declared.Unsigns {ts : List Sql.Located} (d : Sql.Declared ts) (schema schema' : Schema) :
    Prop :=
  (schema' = schema ∧ ∀ σ, d.schema σ = some schema) ∨
    ∃ (p : Schema.Place) (c : Column), schema = p.fill c ∧ c.options.unsigned = false ∧
      schema' = p.fill { c with options := { c.options with unsigned := true } } ∧
        ∀ σ, d.schema σ = some (p.fill (c.retype σ))

namespace Schema

open Sql (Located Declared IsNumericType NumericWordsAreTypes Gapless Unambiguous tokens significant
  foldUnsigned)

variable {text text' : Text} {ts ts' : List Located} {schema : Schema}

/-- The text with an `UNSIGNED` behind the numeric type of a column is read as the text without it,
but for that column, which is unsigned, where the schema has it. -/
theorem read_unsigned (htokens : tokens text = .ok ts) (hread : read text = .ok schema)
    (d : Declared (significant ts)) (htype : IsNumericType d.written)
    (honly : NumericWordsAreTypes (significant ts)) (hclear : Unambiguous d.front d.start)
    (htokens' : tokens text' = .ok ts') {u : Located} (hu : u.token.is .UNSIGNED)
    (hinserted : (significant ts').map Located.token =
      (d.before ++ (d.written ++ u :: d.behind)).map Located.token) :
    ∃ schema', read text' = .ok schema' ∧ d.Unsigns schema schema' := by
  obtain ⟨list, rest, hrun, hschema⟩ := ofTokens_eq_some.1 ((read_eq_ofTokens htokens).1 hread)
  obtain ⟨word, arguments, k, type, hwritten, hword, harguments⟩ := htype
  have hnumbers : ∀ t ∈ significant ts, ∀ written long, t.token = .number written long →
      written ≠ [] :=
    fun t ht => Sql.tokensFrom_number htokens t (List.mem_of_mem_filter ht)
  obtain ⟨S, custom, rest', hS, hlist', hσ, hrun', hcustom, hsigned⟩ := d.insert_unsigned hwritten
    hword harguments (Sql.gapless_significant ts) hclear honly hnumbers hrun hu hinserted
  obtain ⟨result, hresult, hall⟩ := ofStatements_hole hS (hlist'.symm ▸ hschema)
  have hresult₀ : result d.type = schema :=
    Except.ok.inj ((hall d.type).symm.trans (hlist'.symm ▸ hschema))
  have hread' : read text' = .ok (result custom) :=
    (read_eq_ofTokens htokens').2 (ofTokens_eq_some.2 ⟨S custom, rest', hrun', hall custom⟩)
  have hd (σ : Sql.DataType) : d.schema σ = some (result σ) :=
    ofTokens_eq_some.2 ⟨S σ, rest, hσ σ, hall σ⟩
  refine ⟨result custom, hread', ?_⟩
  rcases hresult with ⟨s, rfl⟩ | hhole
  · exact .inl ⟨hresult₀, fun σ => hresult₀ ▸ hd σ⟩
  · obtain ⟨p, c, rfl⟩ := hhole.place
    refine .inr ⟨p, c.retype d.type, hresult₀.symm, hsigned, ?_, hd⟩
    simp [Column.retype, hcustom]

/-- A bare word on the first line. -/
def wordAt (column : Nat) (value : String) : Located :=
  ⟨.word ⟨value, false⟩, ⟨1, column⟩⟩

def symbolAt (column : Nat) (s : Sql.Symbol) : Located :=
  ⟨.symbol s, ⟨1, column⟩⟩

def numberAt (column : Nat) (digits : String) : Located :=
  ⟨.number digits.toList false, ⟨1, column⟩⟩

theorem exists_tokens {text : Text} {us : List Located}
    (h : (tokens text).toOption.map significant = some us) :
    ∃ ts, tokens text = .ok ts ∧ significant ts = us := by
  cases htokens : tokens text with
  | error fault => simp [htokens, Except.toOption] at h
  | ok ts => exact ⟨ts, rfl, by simpa [htokens, Except.toOption] using h⟩

/-- No parenthesis is ambiguous where no query may start behind one. -/
theorem unambiguous_of_tails {front behind : List Located}
    (h : ∀ us ∈ (front ++ behind).tails, us.head?.map Located.token = some (.symbol .leftParen) →
      ∃ t ∈ us[1]?, t.token.startsQuery = false) : Unambiguous front behind := by
  rintro t us ⟨pre, rfl⟩ ht
  have htail : t :: us ++ behind <:+ pre ++ t :: us ++ behind :=
    ⟨pre, (List.append_assoc ..).symm⟩
  obtain ⟨u, hu, hstarts⟩ := h _ ((List.mem_tails _ _).2 htail) (by simp [ht])
  cases hus : us ++ behind with
  | nil => simp [hus] at hu
  | cons v vs =>
    obtain rfl : v = u := by simpa [hus] using hu
    exact Sql.not_ambiguous hstarts vs

section Sample

open Sql.Parser

/-- A column that a text without an `UNSIGNED` declares. -/
theorem exists_declared {front written behind : List Located} {name : Located}
    (htokens : (tokens text).toOption.map significant = some (front ++ [name] ++ written ++ behind))
    (hsigned : ∀ t ∈ front ++ [name] ++ written ++ behind, t.token.is .UNSIGNED = false)
    (hschema : ofTokens typedName (front ++ [name] ++ written ++ behind) = some schema)
    {column : Sql.Ident} {type : Sql.DataType}
    (hreads : typedName (name :: (written ++ behind)) = .ok (column, type) behind)
    (hrejects : (statements (typedNameBut (name :: (written ++ behind)))).accepts
      (front ++ [name] ++ written ++ behind) = false) :
    ∃ (ts : List Located) (d : Declared (significant ts)), tokens text = .ok ts ∧
      read text = .ok schema ∧
        foldUnsigned (significant ts) = front ++ [name] ++ written ++ behind ∧
        d.before = front ++ [name] ∧ d.written = written ∧ d.behind = behind := by
  obtain ⟨ts, htokens, hts⟩ := exists_tokens htokens
  rw [← hts] at hsigned hschema hrejects
  have hgapless := Sql.gapless_significant ts
  have hfold : foldUnsigned (significant ts) = significant ts :=
    Sql.foldUnsigned_of_signed hgapless hsigned
  obtain ⟨list, rest, hrun, -⟩ := ofTokens_eq_some.1 hschema
  have hparts : significant ts = front ++ name :: (written ++ behind) := by simp [hts]
  exact ⟨ts, .signed hparts hgapless hsigned hreads hrun hrejects, htokens,
    (read_eq_ofTokens htokens).2 (hfold.symm ▸ hschema), hfold.trans hts, rfl, rfl, rfl⟩

/-- A decimal in a text whose tokens are otherwise of no interest. -/
theorem read_unsigned_decimal :
    let text := "CREATE TABLE t(a DECIMAL(10,2))".toList
    let text' := "CREATE TABLE t(a DECIMAL(10,2)/**/unsigned)".toList
    let schema (unsigned : Bool) : Schema :=
      ⟨[⟨"t", [⟨"a", .decimal 10 2, { unsigned := unsigned }⟩], []⟩]⟩
    ∃ (ts ts' : List Located) (u : Located) (d : Declared (significant ts)),
      tokens text = .ok ts ∧ read text = .ok (schema false) ∧ IsNumericType d.written ∧
        NumericWordsAreTypes (significant ts) ∧ Unambiguous d.front d.start ∧
        tokens text' = .ok ts' ∧ u.token.is .UNSIGNED ∧ (significant ts').map Located.token =
          (d.before ++ (d.written ++ u :: d.behind)).map Located.token ∧
        ∃ schema', read text' = .ok schema' ∧ d.Unsigns (schema false) schema' := by
  intro text text' schema
  let front := [wordAt 1 "CREATE", wordAt 8 "TABLE", wordAt 14 "t", symbolAt 15 .leftParen]
  let name := wordAt 16 "a"
  let word := wordAt 18 "DECIMAL"
  let arguments := [symbolAt 25 .leftParen, numberAt 26 "10", symbolAt 28 .comma, numberAt 29 "2",
    symbolAt 30 .rightParen]
  let behind := [symbolAt 31 .rightParen]
  let u := wordAt 35 "unsigned"
  have hreads : typedName (name :: (word :: arguments ++ behind)) =
      .ok (⟨"a", none⟩, .decimal .decimal (.precisionAndScale 10 2)) behind := rfl
  obtain ⟨ts, d, htokens, hread, hfold, hbefore, hwritten, hbehind⟩ :
      ∃ (ts : List Located) (d : Declared (significant ts)), tokens text = .ok ts ∧
        read text = .ok (schema false) ∧
        foldUnsigned (significant ts) = front ++ [name] ++ word :: arguments ++ behind ∧
        d.before = front ++ [name] ∧ d.written = word :: arguments ∧ d.behind = behind :=
    exists_declared (by decide +kernel) (by decide) (by decide +kernel) hreads (by decide +kernel)
  obtain ⟨ts', htokens', hts'⟩ : ∃ ts', tokens text' = .ok ts' ∧ significant ts' =
      front ++ [name] ++ (word :: arguments ++ u :: [symbolAt 43 .rightParen]) :=
    exists_tokens (by decide +kernel)
  have htype : IsNumericType d.written :=
    ⟨word, arguments, .DECIMAL, .decimal .decimal (.precisionAndScale 10 2), hwritten, by decide,
      .decimals (by decide) rfl ⟨_, _, rfl, rfl⟩ rfl ⟨_, _, rfl, rfl⟩ rfl⟩
  have honly : NumericWordsAreTypes (significant ts) :=
    d.numericWordsAreTypes hwritten (hbefore ▸ by decide) (hbehind ▸ by decide)
  have hclear : Unambiguous d.front d.start := by
    refine unambiguous_of_tails ?_
    rw [← d.fold_eq, hfold]
    decide
  have hinserted : (significant ts').map Located.token =
      (d.before ++ (d.written ++ u :: d.behind)).map Located.token := by
    rw [hts', hbefore, hwritten, hbehind]
    rfl
  exact ⟨ts, ts', u, d, htokens, hread, htype, honly, hclear, htokens', by decide, hinserted,
    read_unsigned htokens hread d htype honly hclear htokens' (by decide) hinserted⟩

/-- A table called `SELECT` is joined in parentheses, which are tried as a query first. The query
reaches over the column, and ends before the text does where the type is `UNSIGNED_DOUBLE`. -/
theorem read_unsigned_ambiguous :
    let text := ("CREATE TABLE t(CHECK((SELECT 1 FROM(SELECT a JOIN FROM(UPDATE DIV SET)))=1)," ++
      "d DOUBLE PRECISION)").toList
    let text' := ("CREATE TABLE t(CHECK((SELECT 1 FROM(SELECT a JOIN FROM(UPDATE DIV SET)))=1)," ++
      "d DOUBLE PRECISION UNSIGNED)").toList
    ∃ (ts ts' : List Located) (u : Located) (schema : Schema) (d : Declared (significant ts)),
      tokens text = .ok ts ∧ read text = .ok schema ∧ IsNumericType d.written ∧
        NumericWordsAreTypes (significant ts) ∧ tokens text' = .ok ts' ∧ u.token.is .UNSIGNED ∧
        (significant ts').map Located.token =
          (d.before ++ (d.written ++ u :: d.behind)).map Located.token ∧
        ∀ schema', read text' ≠ .ok schema' := by
  intro text text'
  let front := [wordAt 1 "CREATE", wordAt 8 "TABLE", wordAt 14 "t", symbolAt 15 .leftParen,
    wordAt 16 "CHECK", symbolAt 21 .leftParen, symbolAt 22 .leftParen, wordAt 23 "SELECT",
    numberAt 30 "1", wordAt 32 "FROM", symbolAt 36 .leftParen, wordAt 37 "SELECT", wordAt 44 "a",
    wordAt 46 "JOIN", wordAt 51 "FROM", symbolAt 55 .leftParen, wordAt 56 "UPDATE", wordAt 63 "DIV",
    wordAt 67 "SET", symbolAt 70 .rightParen, symbolAt 71 .rightParen, symbolAt 72 .rightParen,
    symbolAt 73 .equal, numberAt 74 "1", symbolAt 75 .rightParen, symbolAt 76 .comma]
  let name := wordAt 77 "d"
  let word := wordAt 79 "DOUBLE"
  let arguments := [wordAt 86 "PRECISION"]
  let behind := [symbolAt 95 .rightParen]
  let u := wordAt 96 "UNSIGNED"
  let behind' := [symbolAt 104 .rightParen]
  let schema : Schema := ⟨[⟨"t", [⟨"d", .plain "double", {}⟩], []⟩]⟩
  have hother : ∀ t ∈ front ++ [name], t.token.numericKeyword? = none := by decide
  have harguments : Sql.Arguments .DOUBLE arguments (.plain .doublePrecision) :=
    .doublePrecision (by decide)
  have hreads : typedName (name :: (word :: arguments ++ behind)) =
      .ok (⟨"d", none⟩, .plain .doublePrecision) behind := rfl
  obtain ⟨ts, d, htokens, hread, -, hbefore, hwritten, hbehind⟩ :
      ∃ (ts : List Located) (d : Declared (significant ts)), tokens text = .ok ts ∧
        read text = .ok schema ∧
        foldUnsigned (significant ts) = front ++ [name] ++ word :: arguments ++ behind ∧
        d.before = front ++ [name] ∧ d.written = word :: arguments ∧ d.behind = behind :=
    exists_declared (by decide +kernel) (by decide) (by decide +kernel) hreads (by decide +kernel)
  obtain ⟨ts', htokens', hts'⟩ : ∃ ts', tokens text' = .ok ts' ∧ significant ts' =
      front ++ [name] ++ word :: (arguments ++ u :: behind') :=
    exists_tokens (by decide +kernel)
  have htype : IsNumericType d.written :=
    ⟨word, arguments, .DOUBLE, _, hwritten, by decide, harguments⟩
  have honly : NumericWordsAreTypes (significant ts) :=
    d.numericWordsAreTypes hwritten (hbefore ▸ hother) (hbehind ▸ by decide)
  have hinserted : (significant ts').map Located.token =
      (d.before ++ (d.written ++ u :: d.behind)).map Located.token := by
    rw [hts', hbefore, hwritten, hbehind]
    rfl
  refine ⟨ts, ts', u, schema, d, htokens, hread, htype, honly, htokens', by decide, hinserted, ?_⟩
  intro schema' hread'
  have hbehind' : foldUnsigned behind' = behind' := Sql.foldUnsigned_eq_self (by decide)
  have hfold' : foldUnsigned (significant ts') =
      front ++ [name] ++ ⟨Sql.unsignedWord .DOUBLE, word.place⟩ :: behind' := by
    have hsplit :
        Sql.Located.splitUnsigned? .DOUBLE (arguments ++ u :: behind') = some ([], behind') :=
      harguments.splitUnsigned? (by decide)
        (show ∀ t ∈ arguments ++ u :: behind', t.isGap = false by decide)
    rw [hts', Sql.foldUnsigned_append_other hother, Sql.foldUnsigned_unsigned (by decide) hsplit,
      hbehind']
    rfl
  obtain ⟨list', rest', hrun', -⟩ := ofTokens_eq_some.1 ((read_eq_ofTokens htokens').1 hread')
  have hrejects' : (statements typedName).accepts
      (front ++ [name] ++ ⟨Sql.unsignedWord .DOUBLE, word.place⟩ :: behind') = false := by
    decide +kernel
  rw [← hfold', accepts, hrun'] at hrejects'
  cases hrejects'

end Sample

end Schema

end SqlModels
