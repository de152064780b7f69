import Mathlib.Data.List.Basic
import SqlModels.Proofs.Sql.Results
import SqlModels.Sql.Parser.Statement

/-!
Places of declarations. The grammar hands on what it is told of the type of a column without looking
at it, so that each type can be read together with the place where it stands, and all else is read
as ever.
-/

namespace SqlModels.Sql

open SqlModels.Sql.Parser

/-- What a declaration says about a column behind its name. -/
structure ColumnSpec (τ : Type := DataType) where
  type : τ
  options : List ColumnOption

variable {τ υ : Type}

def ColumnDef.spec (d : ColumnDef τ) : ColumnSpec τ :=
  ⟨d.type, d.options⟩

/-- The columns that an operation declares. -/
def AlterOp.specs : AlterOp τ → List (ColumnSpec τ)
  | .addColumn d => [d.spec]
  | .changeColumn _ _ type options => [⟨type, options⟩]
  | _ => []

/-- The columns that a statement declares. -/
def Statement.specs : Statement τ → List (ColumnSpec τ)
  | .createTable d => d.columns.map ColumnDef.spec
  | .alterTable _ ops => ops.flatMap AlterOp.specs
  | _ => []

variable (g : τ → υ)

def ColumnDef.map (d : ColumnDef τ) : ColumnDef υ :=
  ⟨d.name, g d.type, d.options⟩

def AlterOp.map : AlterOp τ → AlterOp υ
  | .addConstraint c => .addConstraint c
  | .addColumn d => .addColumn (d.map g)
  | .renameTable name => .renameTable name
  | .renameColumn old new => .renameColumn old new
  | .changeColumn old new type options => .changeColumn old new (g type) options
  | .dropColumn name ifExists => .dropColumn name ifExists
  | .dropPrimaryKey => .dropPrimaryKey
  | .dropConstraint name => .dropConstraint name
  | .alterColumn name => .alterColumn name
  | .swapWith name => .swapWith name
  | .addPartitions => .addPartitions
  | .dropPartitions => .dropPartitions
  | .renamePartitions => .renamePartitions

def CreateTable.map (d : CreateTable τ) : CreateTable υ :=
  ⟨d.name, d.ifNotExists, d.columns.map (ColumnDef.map g), d.constraints⟩

def Statement.map : Statement τ → Statement υ
  | .createTable d => .createTable (d.map g)
  | .alterTable name ops => .alterTable name (ops.map (AlterOp.map g))
  | .dropTables ifExists names => .dropTables ifExists names
  | .other => .other

namespace Parser

/-- Reads the type of a column and tells what `g` makes of it. -/
def through (typed : Parser (Ident × τ)) : Parser (Ident × υ) :=
  (fun named => (named.1, g named.2)) <$> typed

section Through

variable (typed : Parser (Ident × τ))

theorem map_ite {α β : Type} (f : α → β) (c : Prop) [Decidable c] (p q : Parser α) :
    f <$> (if c then p else q) = if c then f <$> p else f <$> q :=
  apply_ite (f <$> ·) c p q

theorem map_expected {α β : Type} (f : α → β) (wanted : Expectation) :
    f <$> (expected wanted : Parser α) = expected wanted := rfl

theorem map_unexpected {α β : Type} (f : α → β) (wanted : Expectation) (t : Option Located) :
    f <$> (unexpected wanted t : Parser α) = unexpected wanted t := rfl

theorem columnDef_through : columnDef (through g typed) = ColumnDef.map g <$> columnDef typed := by
  simp [columnDef, through, ColumnDef.map, map_ite]

theorem tableItem_through :
    tableItem (through g typed) = Sum.map (ColumnDef.map g) id <$> tableItem typed := by
  simp only [tableItem, columnDef_through, map_bind]
  refine bind_congr fun found => ?_
  cases found with
  | some c => rfl
  | none =>
    simp only [map_bind]
    refine bind_congr fun next => ?_
    split <;> simp [map_unexpected]

theorem tableItemsUpTo_through (count : Nat) : tableItemsUpTo (through g typed) count =
    List.map (Sum.map (ColumnDef.map g) id) <$> tableItemsUpTo typed count := by
  induction count with
  | zero => rfl
  | succ count ih => simp [tableItemsUpTo, tableItem_through, ih, map_ite, map_expected]

theorem tableItems_through : tableItems (through g typed) =
    List.map (Sum.map (ColumnDef.map g) id) <$> tableItems typed := by
  simp [tableItems, tableItemsUpTo_through, map_ite]

theorem ofItems_map (table : Name) (ifNotExists : Bool)
    (items : List (ColumnDef τ ⊕ TableConstraint)) :
    CreateTable.ofItems table ifNotExists (items.map (Sum.map (ColumnDef.map g) id)) =
      (CreateTable.ofItems table ifNotExists items).map g := by
  simp [CreateTable.ofItems, CreateTable.map, List.filterMap_map, List.map_filterMap]

theorem createTable_through :
    createTable (through g typed) = CreateTable.map g <$> createTable typed := by
  simp [createTable, tableItems_through, map_ite, ofItems_map]

theorem createExternalTable_through :
    createExternalTable (through g typed) = CreateTable.map g <$> createExternalTable typed := by
  simp [createExternalTable, tableItems_through, ofItems_map]

theorem addOp_through : addOp (through g typed) = AlterOp.map g <$> addOp typed := by
  simp only [addOp, map_bind, columnDef_through]
  refine bind_congr fun found => ?_
  cases found with
  | some c => rfl
  | none => simp [map_ite, AlterOp.map]

theorem renameOp_map : (renameOp : Parser (AlterOp υ)) = AlterOp.map g <$> renameOp := by
  simp [renameOp, map_ite, AlterOp.map]

theorem dropOp_map : (dropOp : Parser (AlterOp υ)) = AlterOp.map g <$> dropOp := by
  simp [dropOp, map_ite, AlterOp.map]

theorem renamePartitionsOp_map :
    (renamePartitionsOp : Parser (AlterOp υ)) = AlterOp.map g <$> renamePartitionsOp := by
  simp [renamePartitionsOp, AlterOp.map]

theorem changeOp_through : changeOp (through g typed) = AlterOp.map g <$> changeOp typed := by
  simp [changeOp, through, AlterOp.map]

theorem alterColumnOp_map :
    (alterColumnOp : Parser (AlterOp υ)) = AlterOp.map g <$> alterColumnOp := by
  simp [alterColumnOp, map_ite, AlterOp.map, map_expected]

theorem alterOp_through : alterOp (through g typed) = AlterOp.map g <$> alterOp typed := by
  simp [alterOp, addOp_through, changeOp_through, map_ite, map_expected, AlterOp.map,
    renameOp_map g, dropOp_map g, renamePartitionsOp_map g, alterColumnOp_map g]

theorem commaSeparated_map {α β : Type} (f : α → β) (item : Parser α) :
    commaSeparated (f <$> item) = List.map f <$> commaSeparated item := by
  have hcount (count : Nat) :
      commaSeparatedUpTo (f <$> item) count = List.map f <$> commaSeparatedUpTo item count := by
    induction count with
    | zero => simp [commaSeparatedUpTo]
    | succ count ih => simp [commaSeparatedUpTo, ih, map_ite]
  simp [commaSeparated, hcount]

theorem alterStatement_through :
    alterStatement (through g typed) = Statement.map g <$> alterStatement typed := by
  simp [alterStatement, alterOp_through, commaSeparated_map, map_ite, map_expected, Statement.map]

theorem createStatement_through :
    createStatement (through g typed) = Statement.map g <$> createStatement typed := by
  simp [createStatement, createTable_through, createExternalTable_through, map_ite, map_expected,
    Statement.map]

theorem dropStatement_map :
    (dropStatement : Parser (Statement υ)) = Statement.map g <$> dropStatement := by
  simp [dropStatement, map_ite, Statement.map, map_expected]

theorem setStatement_map :
    (setStatement : Parser (Statement υ)) = Statement.map g <$> setStatement := by
  simp [setStatement, map_ite, Statement.map]

theorem truncateStatement_map :
    (truncateStatement : Parser (Statement υ)) = Statement.map g <$> truncateStatement := by
  simp [truncateStatement, map_ite, Statement.map]

theorem statement_through :
    statement (through g typed) = Statement.map g <$> statement typed := by
  simp [statement, createStatement_through, alterStatement_through, dropStatement_map g,
    setStatement_map g, truncateStatement_map g, map_ite, map_expected, Statement.map]

/-- Whatever is told of types, the same statements are read. -/
theorem statements_through :
    statements (through g typed) = List.map (Statement.map g) <$> statements typed := by
  have hcount (count : Nat) (delimited : Bool) : statementsUpTo (through g typed) count delimited =
      List.map (Statement.map g) <$> statementsUpTo typed count delimited := by
    induction count generalizing delimited with
    | zero => rfl
    | succ count ih =>
      simp only [statementsUpTo, map_bind, statement_through]
      refine bind_congr fun _ => bind_congr fun next => ?_
      split
      · rfl
      · simp [map_ite, map_expected, ih]
  simp [statements, hcount]

end Through

end Parser

/-- The type of a column, and where it is read. -/
structure Placed where
  /-- The tokens from the name of the column on. -/
  start : List Located
  type : DataType
  /-- The tokens behind the type. -/
  rest : List Located

namespace Parser

/-- The name of a column and its type, with their place. -/
def placedName : Parser (Ident × Placed) := fun ts =>
  match typedName ts with
  | .ok (column, type) rest => .ok (column, ⟨ts, type, rest⟩) rest
  | .error e rest => .error e rest

theorem placedName_eq_ok {ts rest : List Located} {column : Ident} {p : Placed} :
    placedName ts = .ok (column, p) rest ↔
      typedName ts = .ok (column, p.type) rest ∧ p.start = ts ∧ p.rest = rest := by
  obtain ⟨start, type, behind⟩ := p
  cases h : typedName ts with
  | ok named rest' =>
    obtain ⟨column', type'⟩ := named
    simp only [placedName, h, EStateM.Result.ok.injEq, Prod.mk.injEq, Placed.mk.injEq]
    constructor
    · rintro ⟨⟨rfl, rfl, rfl, rfl⟩, rfl⟩
      exact ⟨⟨⟨rfl, rfl⟩, rfl⟩, rfl, rfl⟩
    · rintro ⟨⟨⟨rfl, rfl⟩, rfl⟩, rfl, rfl⟩
      exact ⟨⟨rfl, rfl, rfl, rfl⟩, rfl⟩
  | error e rest' => simp [placedName, h]

theorem through_placedName : through Placed.type placedName = typedName := by
  funext ts
  cases h : typedName ts with
  | ok named rest =>
    have hplaced : placedName ts = .ok (named.1, ⟨ts, named.2, rest⟩) rest :=
      placedName_eq_ok.2 ⟨h, rfl, rfl⟩
    exact map_eq_ok.2 ⟨_, hplaced, rfl⟩
  | error e rest => simp [through, Functor.map, EStateM.map, placedName, h]

/-- Every reading of statements is one with places. -/
theorem exists_placed {ts rest : List Located} {list : List Statement}
    (h : statements typedName ts = .ok list rest) :
    ∃ placed, statements placedName ts = .ok placed rest ∧
      placed.map (Statement.map Placed.type) = list := by
  rw [← through_placedName, statements_through] at h
  exact map_eq_ok.1 h

end Parser

end SqlModels.Sql
