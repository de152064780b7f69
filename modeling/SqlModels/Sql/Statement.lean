import SqlModels.Sql.Expr

/-!
Statements that declare, change and drop tables, with `τ` for what they say of the types of columns.
-/

namespace SqlModels.Sql

inductive ColumnOption
  | null
  | notNull
  | default (value : Expr)
  | primaryKey
  | unique
  | comment (text : Text)
  | characterSet (name : Name)
  | references (table : Name) (columns : List Ident)
  | check (condition : Expr)
  | onUpdate (value : Expr)
  | generated (value : Expr) (stored : Bool)
  | identity
  /-- An option that is kept as the tokens it is made of. -/
  | dialectSpecific (tokens : List Token)

structure ColumnDef (τ : Type := DataType) where
  name : Ident
  type : τ
  options : List ColumnOption

inductive TableConstraint
  | primaryKey (columns : List Ident)
  | unique (columns : List Ident)
  | foreignKey (columns : List Ident) (table : Name) (referred : List Ident)
  | check (condition : Expr)
  | index (columns : List Ident)
  | fulltext (columns : List Ident)

inductive AlterOp (τ : Type := DataType)
  | addConstraint (constraint : TableConstraint)
  | addColumn (column : ColumnDef τ)
  | renameTable (name : Name)
  | renameColumn (old new : Ident)
  | changeColumn (old new : Ident) (type : τ) (options : List ColumnOption)
  | dropColumn (name : Ident) (ifExists : Bool)
  | dropPrimaryKey
  | dropConstraint (name : Ident)
  | alterColumn (name : Ident)
  | swapWith (name : Name)
  | addPartitions
  | dropPartitions
  | renamePartitions

structure CreateTable (τ : Type := DataType) where
  name : Name
  ifNotExists : Bool
  columns : List (ColumnDef τ)
  constraints : List TableConstraint

/-- A new table with columns and constraints in one list. -/
def CreateTable.ofItems {τ : Type} (name : Name) (ifNotExists : Bool)
    (items : List (ColumnDef τ ⊕ TableConstraint)) : CreateTable τ :=
  ⟨name, ifNotExists, items.filterMap Sum.getLeft?, items.filterMap Sum.getRight?⟩

inductive Statement (τ : Type := DataType)
  | createTable (table : CreateTable τ)
  | alterTable (name : Name) (ops : List (AlterOp τ))
  | dropTables (ifExists : Bool) (names : List Name)
  | other

end SqlModels.Sql
