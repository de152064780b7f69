import SqlModels.Model.Mapping
import SqlModels.Proofs.Schema.Places
import SqlModels.Proofs.Sql.Sizes

/-!
The sizes of decimals in a schema. Each column has those of its own declaration, which are what
stands behind the word of the type there, or else the `UNSIGNED` of that has hidden what stands
there.
-/

namespace SqlModels

open Sql (Located Placed DecimalRead tokens significant foldUnsigned decimalWords)

variable {text : Text} {ts source : List Located} {statements : List Sql.Statement}

/-- That a type stands at one place of a list, and has the sizes behind its word if that is the word
of a decimal. -/
structure Sql.Placed.SizedIn (source : List Located) (p : Placed) : Prop where
  stands : ∃ word behind, p.StandsAt source word behind
  sizes {word : Located} {behind : List Located} (h : p.StandsAt source word behind) :
    ∀ k kind, (k, kind) ∈ decimalWords → word.token.numericKeyword? = some k →
      DecimalRead k behind p.type

/-- That a column has the name and the type of its declaration, and the sizes that stand there. -/
structure Column.SizedAs (source : List Located) (d : DeclaredColumn Placed) (c : Column) :
    Prop where
  name : c.name = d.name
  type : (c.type, c.options.unsigned) = ColumnType.ofSql d.spec.type.type
  sized : d.spec.type.SizedIn source
  storage : ∀ p s, c.type = .decimal p s → ∀ policy,
    (AttributeType.ofColumnType policy c.type c.options.unsigned).map AttributeType.storage =
      .ok ("DECIMAL(" ++ toString p ++ ", " ++ toString s ++ ")" ++
        if c.options.unsigned then ".UNSIGNED" else "")

theorem Sql.Placed.ReadIn.sizedIn {p : Placed} (hgapless : Sql.Gapless source)
    (hnumbers : ∀ t ∈ source, ∀ written long, t.token = .number written long → written ≠ [])
    (h : p.ReadIn source) : p.SizedIn source where
  stands := h.stands
  sizes {word behind} hstands k kind hk hword := by
    obtain ⟨name, t, us, -, hfrom, hread⟩ := h.reads hstands
    have hbehind : behind ⊆ source := fun u hu =>
      hstands.1.subset (List.mem_cons_of_mem word hu)
    exact Sql.dataType_decimal hfrom (fun u hu => hgapless u (hbehind hu))
      (fun u hu => hnumbers u (hbehind hu)) hword hk hread

namespace Schema

/-- Every decimal that a text declares has the sizes that stand behind its word, unless it has an
`UNSIGNED` and they are loose. Every column of an accepted text has the type of its own declaration,
with these sizes, and its storage type shows them. -/
theorem decimals_as_declared (htokens : tokens text = .ok ts)
    (hparse : Sql.parse text = .ok statements) : ∃ placed rest,
      Sql.Parser.statements Sql.Parser.placedName (foldUnsigned (significant ts)) =
        .ok placed rest ∧
      placed.map (Sql.Statement.map Placed.type) = statements ∧
      (∀ statement ∈ placed, ∀ spec ∈ statement.specs, spec.type.SizedIn (significant ts)) ∧
      ∀ schema, read text = .ok schema →
        List.Forall₂ (fun t u => u.name = t.name ∧
          List.Forall₂ (Column.SizedAs (significant ts)) t.columns u.columns)
          (DeclaredTable.replay placed) schema.tables := by
  obtain ⟨placed, rest, hrun, hstatements⟩ := Sql.parse_placed htokens hparse
  have hsized : ∀ statement ∈ placed, ∀ spec ∈ statement.specs,
      spec.type.SizedIn (significant ts) := by
    intro statement hstatement spec hspec
    refine (Sql.specs_readIn htokens hrun statement hstatement spec hspec).sizedIn
      (Sql.gapless_significant ts) fun t ht => ?_
    exact Sql.tokensFrom_number htokens t (List.mem_of_mem_filter ht)
  refine ⟨placed, rest, hrun, hstatements, hsized, fun schema hread => ?_⟩
  refine (read_placed htokens hread hrun).forall_columns (DeclaredTable.replay_specs hsized) ?_
  intro d c hsizes hname htype
  refine ⟨hname, htype, hsizes, fun p s hdecimal policy => ?_⟩
  rw [hdecimal]
  rfl

section Sample

/-- A decimal with its sizes, and one that has an `UNSIGNED` too, each at its own word. -/
theorem decimals_as_declared_signs :
    let text := "CREATE TABLE t (a DECIMAL(10,2), b NUMERIC(7) UNSIGNED);".toList
    let a : Column := ⟨"a", .decimal 10 2, {}⟩
    let b : Column := ⟨"b", .decimal 7 0, { unsigned := true }⟩
    ∃ (ts : List Located) (c d : DeclaredColumn Placed), tokens text = .ok ts ∧
      read text = .ok ⟨[⟨"t", [a, b], []⟩]⟩ ∧
      (a.SizedAs (significant ts) c ∧
        ∃ behind, c.spec.type.StandsAt (significant ts) (wordAt 19 "DECIMAL") behind) ∧
      b.SizedAs (significant ts) d ∧
        ∃ behind, d.spec.type.StandsAt (significant ts) (wordAt 36 "NUMERIC") behind := by
  intro text a b
  let front := [wordAt 1 "CREATE", wordAt 8 "TABLE", wordAt 14 "t", symbolAt 16 .leftParen,
    wordAt 17 "a"]
  let size := [symbolAt 26 .leftParen, numberAt 27 "10", symbolAt 29 .comma, numberAt 30 "2",
    symbolAt 31 .rightParen, symbolAt 32 .comma, wordAt 34 "b"]
  let between := [symbolAt 43 .leftParen, numberAt 44 "7", symbolAt 45 .rightParen]
  let behind := [symbolAt 55 .rightParen, symbolAt 56 .semicolon]
  let unsigned : Located := ⟨Sql.unsignedWord .NUMERIC, ⟨1, 36⟩⟩
  obtain ⟨ts, htokens, hts⟩ : ∃ ts, tokens text = .ok ts ∧ significant ts =
      front ++ wordAt 19 "DECIMAL" ::
        (size ++ wordAt 36 "NUMERIC" :: (between ++ wordAt 47 "UNSIGNED" :: behind)) :=
    exists_tokens (by decide +kernel)
  have hsigned : Located.splitUnsigned? .DECIMAL
      (size ++ wordAt 36 "NUMERIC" :: (between ++ wordAt 47 "UNSIGNED" :: behind)) = none := by
    decide
  have hunsigned : Located.splitUnsigned? .NUMERIC (between ++ wordAt 47 "UNSIGNED" :: behind) =
      some (between, behind) := by
    decide
  have hfold : foldUnsigned (significant ts) =
      front ++ wordAt 19 "DECIMAL" :: (size ++ unsigned :: (between ++ behind)) := by
    rw [hts, Sql.foldUnsigned_append_other (by decide), Sql.foldUnsigned_signed (by decide) hsigned,
      Sql.foldUnsigned_append_other (by decide),
      Sql.foldUnsigned_unsigned (by decide) hunsigned, Sql.foldUnsigned_eq_self (by decide)]
    rfl
  have hread : read text = .ok ⟨[⟨"t", [a, b], []⟩]⟩ := by
    rw [read_eq_ofTokens htokens, hfold]
    decide +kernel
  obtain ⟨statements, hparse, -⟩ := read_eq_ok.1 hread
  obtain ⟨placed, rest, hrun, -, -, hcolumns⟩ := decimals_as_declared htokens hparse
  obtain ⟨t, tables, ⟨-, ht⟩, htables, hreplay⟩ :=
    List.forall₂_cons_right_iff.1 (hcolumns _ hread)
  obtain ⟨c, more, hc, hmore, hct⟩ := List.forall₂_cons_right_iff.1 ht
  obtain ⟨d, none, hd, hnone, hdt⟩ := List.forall₂_cons_right_iff.1 hmore
  have hstarts : (match Sql.Parser.statements Sql.Parser.placedName
        (foldUnsigned (significant ts)) with
      | .ok list _ => (DeclaredTable.replay list).map fun t => t.columns.map (·.spec.type.start)
      | .error _ _ => []) =
      [[wordAt 17 "a" :: wordAt 19 "DECIMAL" :: (size ++ unsigned :: (between ++ behind)),
        wordAt 34 "b" :: unsigned :: (between ++ behind)]] := by
    rw [hfold]
    decide +kernel
  simp only [hrun, hreplay, hct, hdt, List.map_cons, List.cons.injEq] at hstarts
  obtain ⟨⟨hstart, hstart', -⟩, -⟩ := hstarts
  have hnumeric : wordAt 36 "NUMERIC" :: (between ++ wordAt 47 "UNSIGNED" :: behind) <:+
      significant ts := by
    rw [hts]
    exact List.suffix_append_of_suffix ((List.suffix_append size _).trans (List.suffix_cons _ _))
  exact ⟨ts, c, d, htokens, hread, ⟨hc, _, hts ▸ List.suffix_append front _, _, _, _, hstart, rfl⟩,
    hd, _, hnumeric, _, _, _, hstart', rfl⟩

/-- A size that is too large for any decimal is one for a decimal with an `UNSIGNED`, which is read
as if it had no size. -/
theorem decimal_size_ignored :
    let digits := "99999999999999999999"
    let text (sign : String) :=
      ("CREATE TABLE t (a DECIMAL(" ++ digits ++ ")" ++ sign ++ ");").toList
    (∃ ts, tokens (text " UNSIGNED") = .ok ts ∧ numberAt 27 digits ∈ significant ts) ∧
      (∀ value, ¬(numberAt 27 digits).token.Spells value) ∧
      read (text " UNSIGNED") =
        .ok ⟨[⟨"t", [⟨"a", .decimal 10 0, { unsigned := true }⟩], []⟩]⟩ ∧
      ∀ schema, read (text "") ≠ .ok schema := by
  intro digits text
  let front := [wordAt 1 "CREATE", wordAt 8 "TABLE", wordAt 14 "t", symbolAt 16 .leftParen,
    wordAt 17 "a"]
  let between := [symbolAt 26 .leftParen, numberAt 27 digits, symbolAt 47 .rightParen]
  let behind := [symbolAt 57 .rightParen, symbolAt 58 .semicolon]
  obtain ⟨ts, htokens, hts⟩ : ∃ ts, tokens (text " UNSIGNED") = .ok ts ∧ significant ts =
      front ++ wordAt 19 "DECIMAL" :: (between ++ wordAt 49 "UNSIGNED" :: behind) :=
    exists_tokens (by decide +kernel)
  have hunsigned : Located.splitUnsigned? .DECIMAL (between ++ wordAt 49 "UNSIGNED" :: behind) =
      some (between, behind) := by
    decide
  have hfold : foldUnsigned (significant ts) =
      front ++ ⟨Sql.unsignedWord .DECIMAL, ⟨1, 19⟩⟩ :: (between ++ behind) := by
    rw [hts, Sql.foldUnsigned_append_other (by decide),
      Sql.foldUnsigned_unsigned (by decide) hunsigned, Sql.foldUnsigned_eq_self (by decide)]
    rfl
  refine ⟨⟨ts, htokens, by simp [hts, between]⟩, ?_, ?_, fun schema hread => ?_⟩
  · rintro value ⟨written, long, hnumber, hvalue⟩
    obtain ⟨rfl, -⟩ := Sql.Token.number.inj hnumber
    have hlarge : (Sql.Parser.readInteger digits.toList 0 digits.toList).toOption = none := by
      decide +kernel
    rw [hvalue] at hlarge
    cases hlarge
  · rw [read_eq_ofTokens htokens, hfold]
    decide +kernel
  · let behind := [symbolAt 48 .rightParen, symbolAt 49 .semicolon]
    obtain ⟨ts', htokens', hts'⟩ : ∃ ts, tokens (text "") = .ok ts ∧
        significant ts = front ++ wordAt 19 "DECIMAL" :: (between ++ behind) :=
      exists_tokens (by decide +kernel)
    have hfold' : foldUnsigned (significant ts') = significant ts' :=
      Sql.foldUnsigned_of_signed (Sql.gapless_significant ts') (hts' ▸ by decide)
    have hnone : ofTokens Sql.Parser.typedName (foldUnsigned (significant ts')) = none := by
      rw [hfold', hts']
      decide +kernel
    cases hnone.symm.trans ((read_eq_ofTokens htokens').1 hread)

end Sample

end Schema

end SqlModels
