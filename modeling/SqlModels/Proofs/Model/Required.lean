import SqlModels.Model.Render
import SqlModels.Proofs.Model.Rejection
import SqlModels.Proofs.Schema.Options
import SqlModels.Proofs.Schema.Origin

/-!
Required attributes. Whether an attribute of a primary key is required is up to its declaration, as
it is for every other one: the key does not rule out null values, though the definition of the
column leaves it to the key to do so.
-/

namespace SqlModels

namespace Sql.ColumnSpec

/-- Whether a declaration rules out null values: of several options about them the last one
counts. -/
def isNotNull (spec : ColumnSpec) : Bool :=
  (spec.options.filterMap ColumnOption.nullable?).getLast? == some false

/-- Whether a declaration leaves it to nobody else to supply a value: it has no default, and rows
are not numbered by the column. -/
def isUnfilled (spec : ColumnSpec) : Bool :=
  spec.options.all fun option => option.default?.isNone && !option.isAutoIncrement

theorem nullable_column (spec : ColumnSpec) (name : String) :
    (spec.column name).options.nullable = !spec.isNotNull := by
  rw [column, Column.declare_eq, isNotNull]
  cases (spec.options.filterMap ColumnOption.nullable?).getLast? with
  | none => rfl
  | some value => cases value <;> rfl

theorem isUnfilled_eq (spec : ColumnSpec) (name : String) : spec.isUnfilled =
    ((spec.column name).options.default.isNone && !(spec.column name).options.autoIncrement) := by
  rw [column, Column.declare_eq, isUnfilled, Option.isNone_map]
  induction spec.options with
  | nil => rfl
  | cons option rest ih =>
    rw [List.all_cons, ih, getLast?_filterMap_cons, List.any_cons]
    cases (rest.filterMap ColumnOption.default?).getLast? <;>
      cases option.default? <;> cases option.isAutoIncrement <;> simp

end Sql.ColumnSpec

/-- That an attribute has the name of a declared column, and is required exactly if the declaration
rules out null values and leaves the value to nobody else. Its lines say so. That a key never is
null has no part in this, though it is why the definition of a key column does not forbid null
values. -/
structure Attribute.RequiredAs (c : DeclaredColumn) (a : Attribute) : Prop where
  name : a.name = c.name
  isRequired : a.isRequired = (c.spec.isNotNull && c.spec.isUnfilled)
  interfaceLine : a.interfaceLine = Text.ofPieces
    ["  ", c.name, if c.spec.isNotNull && c.spec.isUnfilled then "" else "?", ": ",
      a.valueType.name, ";\n"]
  classLine : a.classLine = Text.ofPieces
    ["  public ", c.name, if c.spec.isNotNull && c.spec.isUnfilled then "!" else "", ": ",
      a.valueType.name, ";\n"]
  allowNullLine : a.primaryKey = true → a.allowNullLine = []

namespace Model

variable {policy : TypePolicy} {statements : List Sql.Statement} {schema : Schema}
  {models : List Model}

theorem requiredAs_of_shows {t : Table} {c : DeclaredColumn} {a : Attribute}
    (h : a.Shows policy t c.column) : a.RequiredAs c := by
  have hname : a.name = c.name := h.name
  have hrequired : a.isRequired = (c.spec.isNotNull && c.spec.isUnfilled) := by
    rw [Attribute.isRequired, h.allowNull, h.autoIncrement, h.default, Option.isNone_map,
      DeclaredColumn.column, Sql.ColumnSpec.nullable_column, Bool.not_not,
      c.spec.isUnfilled_eq c.name, Bool.and_assoc]
  refine ⟨hname, hrequired, ?_, ?_, fun hkey => ?_⟩
  · rw [Attribute.interfaceLine, hrequired, hname]
  · rw [Attribute.classLine, hrequired, hname]
  · rw [Attribute.allowNullLine, hkey]
    rfl

theorem requiredAs_of_declared {tables : List Table} {declared : List DeclaredTable}
    (hdeclared : List.Forall₂ Table.DeclaredAs tables declared)
    (hshows : List.Forall₂ (Shows policy) tables models) :
    List.Forall₂ (fun t m => m.name = t.name ∧
      List.Forall₂ Attribute.RequiredAs t.columns m.attributes) declared models := by
  induction hdeclared generalizing models with
  | nil =>
    cases hshows
    exact .nil
  | cons htable _ ih =>
    obtain ⟨m, ms, hm, hms, rfl⟩ := List.forall₂_cons_left_iff.1 hshows
    refine .cons ⟨hm.name.trans htable.name, ?_⟩ (ih hms)
    have hattributes := htable.columns ▸ hm.attributes
    exact (List.forall₂_map_left_iff.1 hattributes).imp fun c a => requiredAs_of_shows

/-- Every attribute of every model is as required as the declaration of its own column makes it,
whether or not that is a key. -/
theorem required_as_declared (hschema : Schema.ofStatements statements = .ok schema)
    (hmodels : ofTables policy schema.tables = .ok models) :
    List.Forall₂ (fun t m => m.name = t.name ∧
        List.Forall₂ Attribute.RequiredAs t.columns m.attributes)
      (DeclaredTable.replay statements) models :=
  requiredAs_of_declared (Schema.ofStatements_declaredAs hschema)
    (ofTables_eq_ok_iff_shows.1 hmodels)

/-- Two columns of one key, of which `b` is declared NOT NULL. -/
theorem required_as_declared_keys :
    let integer : Sql.DataType := .integer .int none false
    let n : Sql.Name := [⟨"t", none⟩]
    let statements : List Sql.Statement := [
      .createTable ⟨n, false, [⟨⟨"a", none⟩, integer, []⟩, ⟨⟨"b", none⟩, integer, [.notNull]⟩], []⟩,
      .alterTable n [.renameColumn ⟨"a", none⟩ ⟨"c", none⟩,
        .addConstraint (.primaryKey [⟨"b", none⟩, ⟨"c", none⟩])]]
    let c : Attribute := ⟨"c", "INTEGER()", .number, true, false, none, true⟩
    let b : Attribute := ⟨"b", "INTEGER()", .number, false, false, none, true⟩
    ∃ schema, Schema.ofStatements statements = .ok schema ∧
      ofTables {} schema.tables = .ok [⟨"t", [c, b]⟩] ∧
      c.RequiredAs ⟨"c", integer, []⟩ ∧ b.RequiredAs ⟨"b", integer, [.notNull]⟩ := by
  intro integer n statements c b
  obtain ⟨schema, hschema, hmodels⟩ : ∃ schema, Schema.ofStatements statements = .ok schema ∧
      ofTables {} schema.tables = .ok [⟨"t", [c, b]⟩] :=
    ⟨_, rfl, rfl⟩
  refine ⟨schema, hschema, hmodels, ?_⟩
  have hreplay : DeclaredTable.replay statements =
      [⟨"t", [⟨"c", integer, []⟩, ⟨"b", integer, [.notNull]⟩]⟩] := rfl
  obtain ⟨⟨-, hattributes⟩, -⟩ :=
    List.forall₂_cons.1 (hreplay ▸ required_as_declared hschema hmodels)
  obtain ⟨hc, hrest⟩ := List.forall₂_cons.1 hattributes
  exact ⟨hc, (List.forall₂_cons.1 hrest).1⟩

/-- A key without a default that is not numbered by the database, and is not required. -/
theorem key_not_required :
    let d : Sql.CreateTable := ⟨[⟨"t", none⟩], false,
      [⟨⟨"a", none⟩, .integer .int none false, [.primaryKey]⟩], []⟩
    let a : Attribute := ⟨"a", "INTEGER()", .number, true, false, none, true⟩
    (Schema.ofStatements [.createTable d]).map (ofTables {} ·.tables) = .ok (.ok [⟨"t", [a]⟩]) ∧
      a.primaryKey = true ∧ a.defaultValue = none ∧ a.autoIncrement = false ∧
      a.isRequired = false ∧ a.interfaceLine = "  a?: number;\n".toList ∧
      a.classLine = "  public a: number;\n".toList :=
  ⟨rfl, rfl, rfl, rfl, rfl, rfl, rfl⟩

end Model

end SqlModels
