import SqlModels.Proofs.Schema.Unsigned
import SqlModels.Proofs.Sql.Defaults

/-!
The kinds of default values in a schema. The expression that a column has as its default is told
from the text of that expression alone, and always as what it is.
-/

namespace SqlModels

namespace Sql

open SqlModels.Sql.Parser

/-- The expressions that are declared as the default of a column, one for each option that does. -/
def ColumnSpec.defaults (spec : ColumnSpec) : List Expr :=
  spec.options.filterMap ColumnOption.default?

def Statement.defaults (statement : Statement) : List Expr :=
  statement.specs.flatMap ColumnSpec.defaults

namespace Yields

variable {source : List Located} (hsource : ∀ t ∈ source, t.token.IsLexed)

include hsource

theorem columnDef_defaults : Yields source (Parser.columnDef Parser.typedName) fun d =>
    ∀ e ∈ d.spec.defaults, e.Told := by
  refine .bind typedName fun ⟨column, type⟩ _ => .skip fun _ => ?_
  have hrest : Yields source (remaining >>= fun count => Parser.optionsUpTo count >>=
      fun options => Pure.pure (⟨column, type, options⟩ : ColumnDef)) fun d =>
        ∀ e ∈ d.spec.defaults, e.Told :=
    .skip fun count => .bind (optionsUpTo hsource count) fun options hoptions => .pure hoptions
  exact .ite (.skip fun _ => hrest) hrest

theorem changeOp_defaults : Yields source (Parser.changeOp Parser.typedName) fun op =>
    ∀ spec ∈ op.specs, ∀ e ∈ spec.defaults, e.Told := by
  refine .skip fun _ => .skip fun old => .bind typedName fun ⟨new, type⟩ _ => .skip fun count => ?_
  refine .bind (bareOptionsUpTo hsource count) fun options hoptions => .pure ?_
  exact List.forall_mem_singleton.2 hoptions

/-- Every default that statements declare is told from its text. -/
theorem statements_defaults : Yields source (Parser.statements Parser.typedName) fun list =>
    ∀ statement ∈ list, ∀ e ∈ statement.defaults, e.Told := by
  have hspecs := composes_specs (columnDef_defaults hsource) (changeOp_defaults hsource)
  exact hspecs.statements.mono fun list hlist statement hstatement =>
    List.forall_mem_flatMap.2 (hlist statement hstatement)

end Yields

/-- The folding of a text leaves no tokens but such as are read in texts. -/
theorem foldUnsigned_isLexed {text : Text} {ts : List Located} (h : tokens text = .ok ts) :
    ∀ t ∈ foldUnsigned (significant ts), t.token.IsLexed := by
  have hunsigned : ∀ k ∈ numericKeywords, (unsignedMark ++ k.name).toList ≠ [] ∧
      (unsignedMark ++ k.name).toList.all isWordPart = true := by
    decide
  intro t ht
  rcases mem_foldUnsigned (gapless_significant ts) ht with hmem | ⟨_, _, _, k, _, hword, _, htoken⟩
  · exact tokensFrom_isLexed h t (List.mem_of_mem_filter hmem)
  · obtain ⟨hne, hall⟩ := hunsigned k (Token.numericKeyword?_eq_some hword).1
    exact htoken ▸ Word.isLexed_of_all hne hall

end Sql

namespace Schema

open Sql (Expr foldUnsigned significant tokens)

variable {text : Text} {statements : List Sql.Statement}

/-- Whatever expression a text declares as a default, its default value is the current moment for
that function alone and the empty string for empty strings alone. Any other expression is its own
literal, and among them all strings that are not empty. -/
theorem default_kinds (hparse : Sql.parse text = .ok statements) :
    ∀ e ∈ statements.flatMap Sql.Statement.defaults,
      (DefaultValue.ofLiteral (defaultLiteral e) = .now ↔ e.IsNow) ∧
      (DefaultValue.ofLiteral (defaultLiteral e) = .emptyString ↔ e.IsEmptyString) ∧
      (¬e.IsNow → ¬e.IsEmptyString →
        DefaultValue.ofLiteral (defaultLiteral e) = .literal (defaultLiteral e)) ∧
      ∀ kind content, e = .quoted kind content →
        DefaultValue.ofLiteral (defaultLiteral e) ≠ .now ∧
        (content ≠ [] → DefaultValue.ofLiteral (defaultLiteral e) ≠ .emptyString) := by
  obtain ⟨ts, htokens⟩ : ∃ ts, tokens text = .ok ts := by
    cases htokens : tokens text with
    | ok ts => exact ⟨ts, rfl⟩
    | error fault =>
      rw [Sql.parse, htokens] at hparse
      cases hparse
  obtain ⟨rest, hrun⟩ := (Sql.parse_eq_ok htokens).1 hparse
  have hlexed := Sql.foldUnsigned_isLexed htokens
  intro e he
  obtain ⟨statement, hstatement, he⟩ := List.mem_flatMap.1 he
  have htold : e.Told := ((Sql.Yields.statements_defaults hlexed).yields List.suffix_rfl hrun).1
    statement hstatement e he
  refine ⟨htold.now_iff, htold.emptyString_iff, htold.literal, ?_⟩
  rintro kind content rfl
  constructor
  · intro hnow
    cases htold.now_iff.1 hnow
  · intro hcontent hempty
    cases htold.emptyString_iff.1 hempty <;> exact hcontent rfl

/-- A string that spells the current moment is a literal. -/
theorem default_kinds_spelled :
    let text := ("CREATE TABLE t (a TEXT DEFAULT 'CURRENT_TIMESTAMP', " ++
      "b DATETIME DEFAULT Current_Timestamp(), c TEXT DEFAULT '');").toList
    let spelled : Expr := .quoted .single "CURRENT_TIMESTAMP".toList
    let now : Expr := .call [⟨"Current_Timestamp", none⟩] false [] []
    let empty : Expr := .quoted .single []
    ∃ statements, Sql.parse text = .ok statements ∧
      statements.flatMap Sql.Statement.defaults = [spelled, now, empty] ∧
      DefaultValue.ofLiteral (defaultLiteral spelled) = .literal (defaultLiteral spelled) ∧
      DefaultValue.ofLiteral (defaultLiteral now) = .now ∧
      DefaultValue.ofLiteral (defaultLiteral empty) = .emptyString := by
  intro text spelled now empty
  let us := [wordAt 1 "CREATE", wordAt 8 "TABLE", wordAt 14 "t", symbolAt 16 .leftParen,
    wordAt 17 "a", wordAt 19 "TEXT", wordAt 24 "DEFAULT",
    ⟨.quoted .single "CURRENT_TIMESTAMP".toList, ⟨1, 32⟩⟩, symbolAt 51 .comma, wordAt 53 "b",
    wordAt 55 "DATETIME", wordAt 64 "DEFAULT", wordAt 72 "Current_Timestamp",
    symbolAt 89 .leftParen, symbolAt 90 .rightParen, symbolAt 91 .comma, wordAt 93 "c",
    wordAt 95 "TEXT", wordAt 100 "DEFAULT", ⟨.quoted .single [], ⟨1, 108⟩⟩,
    symbolAt 110 .rightParen, symbolAt 111 .semicolon]
  obtain ⟨ts, htokens, hts⟩ : ∃ ts, tokens text = .ok ts ∧ significant ts = us :=
    exists_tokens (by decide +kernel)
  have hfold : foldUnsigned (significant ts) = us := by
    rw [hts, Sql.foldUnsigned_eq_self (by decide)]
  obtain ⟨statements, rest, hrun, hdefaults⟩ : ∃ statements rest,
      Sql.Parser.statements Sql.Parser.typedName us = .ok statements rest ∧
        statements.flatMap Sql.Statement.defaults = [spelled, now, empty] :=
    ⟨_, _, rfl, rfl⟩
  have hparse : Sql.parse text = .ok statements := (Sql.parse_eq_ok htokens).2 ⟨rest, hfold ▸ hrun⟩
  obtain ⟨-, -, hspelled, -⟩ := default_kinds hparse spelled (by simp [hdefaults])
  obtain ⟨hnow, -⟩ := default_kinds hparse now (by simp [hdefaults])
  obtain ⟨-, hempty, -⟩ := default_kinds hparse empty (by simp [hdefaults])
  have hnotNow : ¬(Expr.quoted .single "CURRENT_TIMESTAMP".toList).IsNow := by
    rintro ⟨⟩
  have hnotEmpty : ¬(Expr.quoted .single "CURRENT_TIMESTAMP".toList).IsEmptyString := by
    rintro ⟨⟩
  refine ⟨statements, hparse, hdefaults, hspelled hnotNow hnotEmpty, ?_, hempty.2 .single⟩
  exact hnow.2 (.call ⟨rfl, by decide⟩)

end Schema

end SqlModels
