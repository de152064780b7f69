import SqlModels.Proofs.Schema.KeyColumns
import SqlModels.Proofs.Schema.Places
import SqlModels.Proofs.Sql.Signs

/-!
What the names in a schema are, and why a column is unsigned. A name that does not stand in the text
is one that the folding of unsigned types makes, wherever the word of the type stands: of a table
called `real` as well as of the type of a column.
-/

namespace SqlModels

namespace Sql

/-- A name that the folding makes, of a word that names a numeric type and has an `UNSIGNED`. -/
def Folds (ts : List Located) (name : String) : Prop :=
  ∃ before word behind k, ts = before ++ word :: behind ∧ word.token.numericKeyword? = some k ∧
    (Located.splitUnsigned? k behind).isSome ∧ name = unsignedMark ++ k.name

theorem Stands.of_folded {ts : List Located} {name : String} (hgapless : Gapless ts)
    (h : Stands (foldUnsigned ts) name) : Stands ts name ∨ Folds ts name := by
  obtain ⟨t, ht, i, hi, rfl⟩ := h
  rcases mem_foldUnsigned hgapless ht with hmem | ⟨before, word, behind, k, hts, hword, hsome, ht⟩
  · exact .inl ⟨t, hmem, i, hi, rfl⟩
  · rw [ht] at hi
    obtain rfl := Option.some.inj hi
    exact .inr ⟨before, word, behind, k, hts, hword, hsome, rfl⟩

end Sql

open Sql (Located Placed Stands HasSign UnsignedUpTo AtSign tokens significant foldUnsigned Folds)

variable {source ts : List Located} {text : Text} {schema : Schema}

section Names

theorem Sql.Statement.ReadIn.keeps {statement : Sql.Statement} (h : statement.ReadIn source) :
    statement.Keeps (Stands source) fun c => Stands source c.name := by
  cases statement with
  | createTable d => exact ⟨h.name, h.columns⟩
  | alterTable name ops =>
    intro op hop
    have hread := h op hop
    cases op with
    | renameColumn old new => exact fun _ _ => hread
    | addColumn _ | renameTable _ | changeColumn _ _ _ _ => exact hread
    | _ => trivial
  | _ => trivial

theorem Sql.CreateTable.ReadIn.undeclaredKeys {d : Sql.CreateTable} (h : d.ReadIn source) :
    ∀ key ∈ d.undeclaredKeys, Stands source key := by
  intro key hkey
  obtain ⟨c, hc, hkey⟩ := List.mem_flatMap.1 (List.mem_of_mem_filter hkey)
  have hread := h.constraints c hc
  cases c with
  | primaryKey columns => exact List.forall_mem_map.2 hread key hkey
  | _ => cases hkey

namespace Schema

/-- The names of tables and columns are those of declarations, and a key names columns or what a
definition lists. -/
theorem names_readIn {list : List Sql.Statement} (hlist : ofStatements list = .ok schema)
    (hread : ∀ statement ∈ list, statement.ReadIn source) :
    ∀ t ∈ schema.tables, ∀ name ∈ t.name :: t.names ++ t.primaryKey, Stands source name := by
  have hnames : ∀ t ∈ schema.tables,
      Stands source t.name ∧ ∀ name ∈ t.names, Stands source name := by
    intro t ht
    obtain ⟨u, hu, htu⟩ := (ofStatements_declaredAs hlist).exists_table t ht
    have hhas := DeclaredTable.replay_has (fun statement hstatement =>
      (hread statement hstatement).keeps) u hu
    refine ⟨htu.name ▸ hhas.name, ?_⟩
    rw [Table.names, htu.columns, List.map_map]
    exact List.forall_mem_map.2 hhas.columns
  obtain rfl : (empty.replayFrom 1 list).1 = schema := (Error.unlessAny_eq_ok_iff.1 hlist).2
  intro t ht
  obtain ⟨hname, hcolumns⟩ := hnames t ht
  rw [List.cons_append, List.forall_mem_cons, List.forall_mem_append]
  refine ⟨hname, hcolumns, fun key hkey => ?_⟩
  rcases replay_keysWithin list t ht key hkey with hcolumn | ⟨d, hd, hundeclared⟩
  · exact hcolumns key hcolumn
  · exact (hread _ hd).undeclaredKeys key hundeclared

end Schema

end Names

/-- That a column has the name and the type of its declaration, and is unsigned if the tokens of
this type say so, at their end or by the name of the type. They do where an `UNSIGNED` follows the
word of the type in the text itself, if this word is neither an argument of another one nor written
like the names that the folding makes, and the type is no array and has a name in one part. No
`UNSIGNED` is left behind the type. -/
structure Column.SignedAs (source : List Located) (d : DeclaredColumn Placed) (c : Column) :
    Prop where
  name : c.name = d.name
  type : c.type = (ColumnType.ofSql d.spec.type.type).1
  folded : ∃ first us, d.spec.type.start = first :: us ∧
    (c.options.unsigned = true ↔ UnsignedUpTo us d.spec.type.rest d.spec.type.type)
  stands : ∃ word behind, d.spec.type.StandsAt source word behind
  sign {word : Located} {behind : List Located} (h : d.spec.type.StandsAt source word behind)
    (hcovered : ¬Sql.Covered source word behind) (hbare : d.spec.type.type.isBare = true)
    (hmarked : word.token.isMarked = false) : c.options.unsigned = true ↔ HasSign word behind
  noneLeft : ¬AtSign d.spec.type.rest

theorem Column.signedAs {d : DeclaredColumn Placed} {c : Column} (hgapless : Sql.Gapless source)
    (hread : d.spec.type.ReadIn source) (hleft : ¬AtSign d.spec.type.rest) (hname : c.name = d.name)
    (htype : (c.type, c.options.unsigned) = ColumnType.ofSql d.spec.type.type) :
    c.SignedAs source d := by
  obtain ⟨hcolumn, hunsigned⟩ := Prod.mk.inj htype
  obtain ⟨word, behind, hstands⟩ := hread.stands
  obtain ⟨name, t, us, hstart, -, hdata⟩ := hread.reads hstands
  refine ⟨hname, hcolumn, ⟨name, t :: us, hstart, ?_⟩, hread.stands, ?_, hleft⟩
  · rw [hunsigned]
    exact Sql.dataType_unsigned hdata
  · intro word behind hstands hcovered hbare hmarked
    obtain ⟨_, t, us, -, hfrom, hdata⟩ := hread.reads hstands
    have hbehind : Sql.Gapless behind := fun u hu =>
      hgapless u (hstands.1.subset (List.mem_cons_of_mem word hu))
    rw [hunsigned]
    exact Sql.dataType_hasSign hbehind hfrom hcovered hdata hbare hmarked

namespace Schema

/-- Every name in the schema of a text stands in the text, or the folding makes it of a word that
has an `UNSIGNED`. Every column is unsigned as its own declaration says. -/
theorem read_written (htokens : tokens text = .ok ts) (hread : read text = .ok schema) :
    (∀ t ∈ schema.tables, ∀ name ∈ t.name :: t.names ++ t.primaryKey,
      Stands (significant ts) name ∨ Folds (significant ts) name) ∧
    ∃ placed rest, Sql.Parser.statements Sql.Parser.placedName (foldUnsigned (significant ts)) =
        .ok placed rest ∧
      List.Forall₂ (fun t u => u.name = t.name ∧
        List.Forall₂ (Column.SignedAs (significant ts)) t.columns u.columns)
        (DeclaredTable.replay placed) schema.tables := by
  obtain ⟨list, hparse, hlist⟩ := read_eq_ok.1 hread
  have hgapless := Sql.gapless_significant ts
  constructor
  · obtain ⟨rest, hrun⟩ := (Sql.parse_eq_ok htokens).1 hparse
    have hstatements := (Sql.Yields.composes_readIn.statements.yields List.suffix_rfl hrun).1
    exact fun t ht name hname =>
      (names_readIn hlist hstatements t ht name hname).of_folded hgapless
  · obtain ⟨placed, rest, hrun, -⟩ := Sql.parse_placed htokens hparse
    refine ⟨placed, rest, hrun, ?_⟩
    have hleft := List.forall_mem_flatMap.1 (Sql.statements_noneLeft.reads hrun)
    have hplaces : ∀ statement ∈ placed, ∀ spec ∈ statement.specs,
        spec.type.ReadIn (significant ts) ∧ ¬AtSign spec.type.rest :=
      fun statement hstatement spec hspec =>
        ⟨Sql.specs_readIn htokens hrun statement hstatement spec hspec,
          hleft statement hstatement spec hspec⟩
    exact (read_placed htokens hread hrun).forall_columns
      (P := fun p => p.ReadIn (significant ts) ∧ ¬AtSign p.rest)
      (DeclaredTable.replay_specs hplaces) fun d c hplace =>
        Column.signedAs hgapless hplace.1 hplace.2

section Sample

/-- A column without an `UNSIGNED`, and one with an `UNSIGNED` that is folded. -/
theorem read_written_signs :
    let text := "CREATE TABLE t (a INT, b REAL UNSIGNED);".toList
    let a : Column := ⟨"a", .integer 4, {}⟩
    let b : Column := ⟨"b", .plain "double", { unsigned := true }⟩
    ∃ (ts : List Located) (c d : DeclaredColumn Placed), tokens text = .ok ts ∧
      read text = .ok ⟨[⟨"t", [a, b], []⟩]⟩ ∧
      (∀ name ∈ ["t", "a", "b"], Stands (significant ts) name ∨ Folds (significant ts) name) ∧
      (a.SignedAs (significant ts) c ∧ ∃ behind,
        c.spec.type.StandsAt (significant ts) (wordAt 19 "INT") behind ∧
          ¬HasSign (wordAt 19 "INT") behind) ∧
      b.SignedAs (significant ts) d ∧ ∃ behind,
        d.spec.type.StandsAt (significant ts) (wordAt 26 "REAL") behind ∧
          HasSign (wordAt 26 "REAL") behind := by
  intro text a b
  let front := [wordAt 1 "CREATE", wordAt 8 "TABLE", wordAt 14 "t", symbolAt 16 .leftParen,
    wordAt 17 "a"]
  let between := [symbolAt 22 .comma, wordAt 24 "b"]
  let behind := [symbolAt 39 .rightParen, symbolAt 40 .semicolon]
  let unsigned : Located := ⟨Sql.unsignedWord .REAL, ⟨1, 26⟩⟩
  obtain ⟨ts, htokens, hts⟩ : ∃ ts, tokens text = .ok ts ∧ significant ts =
      front ++ wordAt 19 "INT" :: (between ++ wordAt 26 "REAL" :: wordAt 31 "UNSIGNED" :: behind) :=
    exists_tokens (by decide +kernel)
  have hsplit : Located.splitUnsigned? .REAL (wordAt 31 "UNSIGNED" :: behind) =
      some ([], behind) := by
    decide
  have hfold : foldUnsigned (significant ts) =
      front ++ wordAt 19 "INT" :: (between ++ unsigned :: behind) := by
    rw [hts, Sql.foldUnsigned_append_other (by decide), Sql.foldUnsigned_other (by decide),
      Sql.foldUnsigned_append_other (by decide), Sql.foldUnsigned_unsigned (by decide) hsplit,
      Sql.foldUnsigned_eq_self (by decide)]
    rfl
  have hread : read text = .ok ⟨[⟨"t", [a, b], []⟩]⟩ := by
    rw [read_eq_ofTokens htokens, hfold]
    decide +kernel
  obtain ⟨hnames, placed, rest, hrun, hcolumns⟩ := read_written htokens hread
  obtain ⟨t, tables, ⟨-, ht⟩, htables, hreplay⟩ := List.forall₂_cons_right_iff.1 hcolumns
  obtain ⟨c, more, hc, hmore, hct⟩ := List.forall₂_cons_right_iff.1 ht
  obtain ⟨d, further, hd, hfurther, hdt⟩ := List.forall₂_cons_right_iff.1 hmore
  have hspecs : (match Sql.Parser.statements Sql.Parser.placedName
        (foldUnsigned (significant ts)) with
      | .ok list _ => (DeclaredTable.replay list).map fun t =>
          t.columns.map fun c => (c.spec.type.start, c.spec.type.type.isBare)
      | .error _ _ => []) =
      [[(wordAt 17 "a" :: wordAt 19 "INT" :: (between ++ unsigned :: behind), true),
        (wordAt 24 "b" :: unsigned :: behind, true)]] := by
    rw [hfold]
    decide +kernel
  simp only [hrun, hreplay, hct, hdt, List.map_cons, List.cons.injEq, Prod.mk.injEq] at hspecs
  obtain ⟨⟨⟨hstart, hbare⟩, ⟨hstart', hbare'⟩, -⟩, -⟩ := hspecs
  have hinteger : c.spec.type.StandsAt (significant ts) (wordAt 19 "INT")
      (between ++ wordAt 26 "REAL" :: wordAt 31 "UNSIGNED" :: behind) :=
    ⟨hts ▸ List.suffix_append front _, _, _, _, hstart, rfl⟩
  have hreal : significant ts = (front ++ wordAt 19 "INT" :: between) ++
      wordAt 26 "REAL" :: wordAt 31 "UNSIGNED" :: behind := hts
  have hreals : d.spec.type.StandsAt (significant ts) (wordAt 26 "REAL")
      (wordAt 31 "UNSIGNED" :: behind) :=
    ⟨hreal ▸ List.suffix_append _ _, _, _, _, hstart', rfl⟩
  refine ⟨ts, c, d, htokens, hread, hnames _ List.mem_cons_self, ⟨hc, _, hinteger, ?_⟩,
    hd, _, hreals, ?_⟩
  · rw [← hc.sign hinteger (hts ▸ Sql.not_covered (by decide)) hbare (by decide)]
    exact Bool.false_ne_true
  · rw [← hd.sign hreals (hreal ▸ Sql.not_covered (by decide)) hbare' (by decide)]

/-- A table with the name of a numeric type. -/
def realTable : Text :=
  "CREATE TABLE real (a DECIMAL(10,2) UNSIGNED);".toList

/-- The word of the table is taken for that of a type, since the `UNSIGNED` of the column stands
behind the first closing parenthesis. -/
theorem exists_realTable : ∃ ts, tokens realTable = .ok ts ∧
    significant ts = [wordAt 1 "CREATE", wordAt 8 "TABLE", wordAt 14 "real", symbolAt 19 .leftParen,
      wordAt 20 "a", wordAt 22 "DECIMAL", symbolAt 29 .leftParen, numberAt 30 "10",
      symbolAt 32 .comma, numberAt 33 "2", symbolAt 34 .rightParen, wordAt 36 "UNSIGNED",
      symbolAt 44 .rightParen, symbolAt 45 .semicolon] ∧
    read realTable = .ok ⟨[⟨"UNSIGNED_REAL", [⟨"a", .decimal 10 2, {}⟩], []⟩]⟩ := by
  let front := [wordAt 1 "CREATE", wordAt 8 "TABLE"]
  let between := [symbolAt 19 .leftParen, wordAt 20 "a", wordAt 22 "DECIMAL",
    symbolAt 29 .leftParen, numberAt 30 "10", symbolAt 32 .comma, numberAt 33 "2",
    symbolAt 34 .rightParen]
  let behind := [symbolAt 44 .rightParen, symbolAt 45 .semicolon]
  obtain ⟨ts, htokens, hts⟩ : ∃ ts, tokens realTable = .ok ts ∧ significant ts =
      front ++ wordAt 14 "real" :: (between ++ wordAt 36 "UNSIGNED" :: behind) :=
    exists_tokens (by decide +kernel)
  have hsplit : Located.splitUnsigned? .REAL (between ++ wordAt 36 "UNSIGNED" :: behind) =
      some (between, behind) := by
    decide
  have hfold : foldUnsigned (significant ts) =
      front ++ ⟨Sql.unsignedWord .REAL, ⟨1, 14⟩⟩ :: (between ++ behind) := by
    rw [hts, Sql.foldUnsigned_append_other (by decide),
      Sql.foldUnsigned_unsigned (by decide) hsplit, Sql.foldUnsigned_eq_self (by decide)]
    rfl
  refine ⟨ts, htokens, hts, (read_eq_ofTokens htokens).2 ?_⟩
  rw [hfold]
  decide +kernel

/-- The table has a name that stands nowhere in the text, and its column is not unsigned though an
`UNSIGNED` follows the type. -/
theorem read_unwritten : ∃ ts, tokens realTable = .ok ts ∧
    read realTable =
      .ok ⟨[⟨"UNSIGNED_REAL", [⟨"a", .decimal 10 2, { unsigned := false }⟩], []⟩]⟩ ∧
    ¬Stands (significant ts) "UNSIGNED_REAL" := by
  obtain ⟨ts, htokens, hts, hread⟩ := exists_realTable
  refine ⟨ts, htokens, hread, ?_⟩
  rintro ⟨t, ht, i, hi, hname⟩
  have hother : ∀ t ∈ significant ts, ∀ i ∈ Sql.Parser.identOf? t.token,
      i.value ≠ "UNSIGNED_REAL" := by
    rw [hts]
    decide
  exact hother t ht i hi hname

end Sample

end Schema

end SqlModels
