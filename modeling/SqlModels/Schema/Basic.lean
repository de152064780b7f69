import SqlModels.Text.Basic

namespace SqlModels

/-- The type of a column: a tag for the family of the type, and the sizes that were declared. -/
structure ColumnType where
  datatype : String
  /-- The bytes of an integer. -/
  width : Option Nat := none
  length : Option Nat := none
  digits : Option Nat := none
  decimals : Option Nat := none
  deriving DecidableEq

structure ColumnOptions where
  nullable : Bool := true
  /-- The default as a literal of the generated code. -/
  default : Option Text := none
  autoIncrement : Bool := false
  unsigned : Bool := false
  deriving DecidableEq

structure Column where
  name : String
  type : ColumnType
  options : ColumnOptions
  deriving DecidableEq

structure Table where
  name : String
  columns : List Column
  primaryKey : List String
  deriving DecidableEq

/-- The tables of a schema in the order of their creation. -/
structure Schema where
  tables : List Table
  deriving DecidableEq

namespace Schema

def empty : Schema := ⟨[]⟩

def contains (s : Schema) (name : String) : Bool :=
  s.tables.any (·.name == name)

end Schema

end SqlModels
