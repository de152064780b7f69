import SqlModels.Text.Basic

namespace SqlModels.Sql

structure Ident where
  value : String
  quote : Option Char
  deriving DecidableEq

/-- The identifier as it is printed: in its quote, inner quotes doubled. -/
def Ident.text (i : Ident) : Text :=
  match i.quote with
  | none => i.value.toList
  | some q => Text.between q i.value.toList

/-- A name with its qualifiers, outermost first. -/
abbrev Name := List Ident

namespace Name

def last (n : Name) : String :=
  match n.getLast? with
  | some i => i.value
  | none => ""

def text (n : Name) : Text :=
  Text.joinWith ['.'] (n.map Ident.text)

end Name

end SqlModels.Sql
