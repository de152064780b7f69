import SqlModels.Error
import SqlModels.Schema.Column

/-!
Replaying statements: each one changes the schema its predecessors have left. Changes are made in
place, so a statement that fails keeps what it has done before the failing part, and the statements
behind it are replayed as well.
-/

namespace SqlModels

namespace Table

/-- A change of a table in place. Where it fails, the table stays as it is by then. -/
abbrev Change (α : Type) := EStateM Error Table α

def columnIndex (name : String) : Change Nat := do
  match (← get).columns.findIdx? (·.name == name) with
  | some i => return i
  | none => throw (.unknownColumn name)

/-- Appends a column, and its name to the key if it is declared a primary key. -/
def addColumn (t : Table) (d : Sql.ColumnDef) : Table :=
  let (column, primary) := Column.declare d.name.value d.type d.options
  { t with
    columns := t.columns ++ [column]
    primaryKey := if primary then t.primaryKey ++ [column.name] else t.primaryKey }

def renameKey (t : Table) (old new : String) : Table :=
  { t with primaryKey := t.primaryKey.map fun key => if key = old then new else key }

/-- Appends a name to the key unless it is there. -/
def addKey (t : Table) (name : String) : Table :=
  if t.primaryKey.contains name then t else { t with primaryKey := t.primaryKey ++ [name] }

def renameColumn (old new : String) : Change Unit := do
  let i ← columnIndex old
  modify (·.renameKey old new)
  modify fun t => { t with columns := t.columns.modify i fun c => { c with name := new } }

/-- Puts a new column in the place of an old one. The key follows the name, and takes the new
name if that is declared a primary key. -/
def changeColumn (old new : String) (type : Sql.DataType) (options : List Sql.ColumnOption) :
    Change Unit := do
  let i ← columnIndex old
  let (column, primary) := Column.declare new type options
  modify (·.renameKey old new)
  if primary then modify (·.addKey new)
  modify fun t => { t with columns := t.columns.set i column }

def dropColumn (name : String) : Change Unit := do
  let i ← columnIndex name
  modify fun t => { t with columns := t.columns.eraseIdx i }
  modify fun t => { t with primaryKey := t.primaryKey.filter (· ≠ name) }

/-- Refuses the first of the names that is no column. -/
def checkColumns : List String → Change Unit
  | [] => return
  | name :: rest => do
    let _ ← columnIndex name
    checkColumns rest

def setPrimaryKey (names : List String) : Change Unit := do
  checkColumns names
  modify fun t => { t with primaryKey := names }

def alter : Sql.AlterOp → Change Unit
  | .addColumn d => modify (·.addColumn d)
  | .renameColumn old new => renameColumn old.value new.value
  | .changeColumn old new type options => changeColumn old.value new.value type options
  | .dropPrimaryKey => modify fun t => { t with primaryKey := [] }
  | .dropColumn name _ => dropColumn name.value
  | .addConstraint (.primaryKey columns) => setPrimaryKey (columns.map Sql.Ident.value)
  | .addConstraint _ => return
  | _ => throw (.unimplemented "this kind of ALTER TABLE operation")

def keyOf : Sql.TableConstraint → List String
  | .primaryKey columns => columns.map Sql.Ident.value
  | _ => []

/-- The table of a definition; the keys of its constraints follow those of its columns. -/
def ofDefinition (d : Sql.CreateTable) : Table :=
  let bare := d.columns.foldl addColumn ⟨d.name.last, [], []⟩
  { bare with primaryKey := bare.primaryKey ++ d.constraints.flatMap keyOf }

def changeFirst (name : String) (change : Change Unit) :
    List Table → EStateM.Result Error (List Table) Unit
  | [] => .error (.unknownTable name) []
  | t :: rest =>
    if t.name = name then
      match change.run t with
      | .ok () changed => .ok () (changed :: rest)
      | .error e changed => .error e (changed :: rest)
    else
      match changeFirst name change rest with
      | .ok () changed => .ok () (t :: changed)
      | .error e changed => .error e (t :: changed)

end Table

namespace Schema

abbrev Change (α : Type) := EStateM Error Schema α

def update (name : String) (change : Table.Change Unit) : Change Unit := fun s =>
  match Table.changeFirst name change s.tables with
  | .ok () tables => .ok () ⟨tables⟩
  | .error e tables => .error e ⟨tables⟩

def rename (name newName : String) : Change Unit := do
  if (← get).contains newName then throw (.duplicateTable newName)
  else update name (modify fun t => { t with name := newName })

/-- One operation on the table of a name; it yields the name of the table behind it. -/
def alterOne (name : String) : Sql.AlterOp → Change String
  | .renameTable newName => do
    rename name newName.last
    return newName.last
  | op => do
    update name (Table.alter op)
    return name

/-- Operations on the table of a name, up to the first that fails. -/
def alterAll (name : String) : List Sql.AlterOp → Change Unit
  | [] => return
  | op :: rest => do
    let current ← alterOne name op
    alterAll current rest

/-- Drops the table of a name; a missing one is an error unless `ifExists`. -/
def dropOne (ifExists : Bool) (name : String) : Change Unit := do
  if (← get).contains name then
    modify fun s => ⟨s.tables.filter (·.name ≠ name)⟩
  else if ifExists then return
  else throw (.unknownTable name)

def dropAll (ifExists : Bool) : List String → Change Unit
  | [] => return
  | name :: rest => do
    dropOne ifExists name
    dropAll ifExists rest

/-- Appends a new table; one of its name must not exist, unless the definition allows for that. -/
def create (d : Sql.CreateTable) : Change Unit := do
  if (← get).contains d.name.last then
    if d.ifNotExists then return else throw (.duplicateTable d.name.last)
  else modify fun s => ⟨s.tables ++ [Table.ofDefinition d]⟩

def step : Sql.Statement → Change Unit
  | .createTable d => create d
  | .alterTable name ops => alterAll name.last ops
  | .dropTables ifExists names => dropAll ifExists (names.map Sql.Name.last)
  | .other => return

/-- The schema behind a list of statements, and the errors of those that fail; the first statement
has the number `index`. -/
def replayFrom (s : Schema) (index : Nat) : List Sql.Statement → Schema × List Error
  | [] => (s, [])
  | statement :: rest =>
    match (step statement).run s with
    | .ok () next => next.replayFrom (index + 1) rest
    | .error e next =>
      let (final, errors) := next.replayFrom (index + 1) rest
      (final, .inStatement index e :: errors)

/-- The schema that statements build up from nothing. -/
def ofStatements (statements : List Sql.Statement) : Except Error Schema :=
  let (final, errors) := empty.replayFrom 1 statements
  Error.unlessAny errors final

def rejection : Sql.Fault → Rejection
  | .abort => .abort
  | .tooDeep => .error .tooDeep
  | fault => .error (.malformed fault.message)

def read (text : Text) : Except Rejection Schema :=
  match Sql.parse text with
  | .error fault => .error (rejection fault)
  | .ok statements => (ofStatements statements).mapError .error

end Schema

end SqlModels
