import SqlModels.Proofs.Schema.Origin
import SqlModels.Proofs.Schema.Unsigned
import SqlModels.Proofs.Sql.Unfolding

/-!
Where the columns of a schema are declared: each of them by what is read at one place of the text.
-/

namespace SqlModels

open Sql (Located Placed FoldedFrom foldUnsigned significant tokens)

variable {text : Text} {ts rest source : List Located} {placed : List (Sql.Statement Placed)}

namespace Sql

theorem inOrder_significant (h : tokens text = .ok ts) : InOrder (significant ts) :=
  List.Pairwise.sublist List.filter_sublist (tokensFrom_inOrder h)

/-- That a type is read in folded tokens, where one word of the list itself stands. -/
structure Placed.ReadIn (source : List Located) (p : Placed) : Prop where
  stands : ∃ word behind, p.StandsAt source word behind
  reads {word behind} (h : p.StandsAt source word behind) : ∃ name t us,
    p.start = name :: t :: us ∧ FoldedFrom source t us word behind ∧
      Parser.dataType (t :: us) = .ok p.type p.rest

theorem Placed.readIn {p : Placed} {column : Ident} (hgapless : Gapless source)
    (horder : InOrder source) (hstart : p.start <:+ foldUnsigned source)
    (hread : Parser.typedName p.start = .ok (column, p.type) p.rest) : p.ReadIn source := by
  obtain ⟨name, us, hname, -, htype⟩ := Parser.typedName_eq_ok.1 hread
  cases us with
  | nil =>
    obtain ⟨base, behind, hbase, -⟩ := Parser.dataType_eq_ok.1 htype
    cases hbase
  | cons t us =>
    have hus : t :: us <:+ foldUnsigned source := (hname ▸ List.suffix_cons name _).trans hstart
    obtain ⟨word, behind, hword, hfrom⟩ := exists_foldedFrom hgapless hus
    have hstands : p.StandsAt source word behind :=
      ⟨hword, name, t, us, hname, hfrom.place.symm⟩
    refine ⟨⟨word, behind, hstands⟩, fun h => ⟨name, t, us, hname, ?_, htype⟩⟩
    obtain ⟨rfl, rfl⟩ := hstands.unique horder h
    exact hfrom

theorem specs_readIn (htokens : tokens text = .ok ts)
    (hrun : Parser.statements Parser.placedName (foldUnsigned (significant ts)) = .ok placed rest) :
    ∀ statement ∈ placed, ∀ spec ∈ statement.specs, spec.type.ReadIn (significant ts) := by
  intro statement hstatement spec hspec
  have hspecs := (Yields.specs_placed.yields List.suffix_rfl hrun).1
  obtain ⟨hstart, column, hread⟩ := hspecs statement hstatement spec hspec
  exact Placed.readIn (gapless_significant ts) (inOrder_significant htokens) hstart hread

/-- The statements of a text with the places of what they declare. -/
theorem parse_placed {list : List Statement} (htokens : tokens text = .ok ts)
    (hparse : parse text = .ok list) : ∃ placed rest,
      Parser.statements Parser.placedName (foldUnsigned (significant ts)) = .ok placed rest ∧
        placed.map (Statement.map Placed.type) = list := by
  obtain ⟨rest, hrun⟩ := (parse_eq_ok htokens).1 hparse
  obtain ⟨placed, hplaced, hlist⟩ := Parser.exists_placed hrun
  exact ⟨placed, rest, hplaced, hlist⟩

end Sql

theorem Sql.ColumnSpec.column_ofSql (spec : Sql.ColumnSpec) (name : String) :
    ((spec.column name).type, (spec.column name).options.unsigned) =
      ColumnType.ofSql spec.type := by
  rw [Sql.ColumnSpec.column, Column.declare_eq]

namespace Schema

variable {schema : Schema} {tables : List (DeclaredTable Placed)} {P : Placed → Prop}
  {R : DeclaredColumn Placed → Column → Prop}

/-- What is known of declarations and their places tells of the columns. -/
theorem DeclaredAs.forall_columns
    (h : schema.DeclaredAs (tables.map (DeclaredTable.map Placed.type)))
    (hP : ∀ t ∈ tables, ∀ c ∈ t.columns, P c.spec.type)
    (hR : ∀ d c, P d.spec.type → c.name = d.name →
      (c.type, c.options.unsigned) = ColumnType.ofSql d.spec.type.type → R d c) :
    List.Forall₂ (fun t u => u.name = t.name ∧ List.Forall₂ R t.columns u.columns) tables
      schema.tables := by
  have hdeclared :
      List.Forall₂ (fun t u => Table.DeclaredAs u (t.map Placed.type)) tables schema.tables :=
    (List.forall₂_map_right_iff.1 h).flip
  have hboth := (List.forall₂_and_left _ _).2 ⟨hP, hdeclared⟩
  refine hboth.imp fun t u ⟨hplaces, htable⟩ => ⟨htable.name, ?_⟩
  rw [htable.columns, DeclaredTable.map, List.map_map, List.forall₂_map_right_iff,
    List.forall₂_same]
  exact fun d hd => hR d _ (hplaces d hd) rfl (Sql.ColumnSpec.column_ofSql _ d.name)

/-- The columns of a schema are declared at the places where the text is read. -/
theorem read_placed (htokens : tokens text = .ok ts) (hread : read text = .ok schema)
    (hrun : Sql.Parser.statements Sql.Parser.placedName (foldUnsigned (significant ts)) =
      .ok placed rest) :
    schema.DeclaredAs ((DeclaredTable.replay placed).map (DeclaredTable.map Placed.type)) := by
  obtain ⟨list, hlist, hschema⟩ := read_eq_ok.1 hread
  obtain ⟨placed', rest', hrun', rfl⟩ := Sql.parse_placed htokens hlist
  obtain ⟨rfl, -⟩ := EStateM.Result.ok.inj (hrun.symm.trans hrun')
  rw [← DeclaredTable.replay_map]
  exact ofStatements_declaredAs hschema

end Schema

end SqlModels
