import SqlModels.Files.Fault
import SqlModels.Region.Basic

namespace SqlModels

inductive Error
  | multiple (errors : List Error)
  | malformed (message : String)
  | tooDeep
  | inStatement (index : Nat) (inner : Error)
  | inColumn (table column : String) (inner : Error)
  | unsupportedType (datatype : String)
  | unimplemented (what : String)
  | unknownTable (name : String)
  | duplicateTable (name : String)
  | unknownColumn (name : String)
  | pathCollision (table path : String)
  | inRegion (path : String) (inner : RegionError)
  | file (action path : String) (fault : FileFault)

namespace Error

mutual

def message : Error → String
  | .multiple errors => "multiple:\n" ++ "\n".intercalate (numbered 1 errors)
  | .malformed text => "sql parser error: " ++ text
  | .tooDeep => "sql parser error: recursion limit exceeded"
  | .inStatement index inner => "in statement number " ++ toString index ++ ": " ++ inner.message
  | .inColumn table column inner =>
    "in column '" ++ table ++ "." ++ column ++ "': " ++ inner.message
  | .unsupportedType datatype => "unsupported sql data type '" ++ datatype ++ "'"
  | .unimplemented what => "unimplemented " ++ what
  | .unknownTable name => "table '" ++ name ++ "' doesn't exist"
  | .duplicateTable name => "table '" ++ name ++ "' already exists"
  | .unknownColumn name => "column '" ++ name ++ "' doesn't exist"
  | .pathCollision table path => "model of table '" ++ table ++ "' would overwrite '" ++ path ++ "'"
  | .inRegion path inner => "in '" ++ path ++ "': " ++ inner.message
  | .file action path _ => action ++ " '" ++ path ++ "'"

def numbered (first : Nat) : List Error → List String
  | [] => []
  | e :: rest => ("\t" ++ toString first ++ ". " ++ e.message) :: numbered (first + 1) rest

end

/-- One error for a list of them; none for the empty list. -/
def ofList? : List Error → Option Error
  | [] => none
  | [e] => some e
  | errors => some (.multiple errors)

def unlessAny {α : Type} (errors : List Error) (value : α) : Except Error α :=
  match ofList? errors with
  | some e => .error e
  | none => .ok value

theorem ofList?_eq_none_iff {errors : List Error} : ofList? errors = none ↔ errors = [] := by
  unfold ofList?
  split <;> simp_all

theorem unlessAny_eq_ok_iff {α : Type} {errors : List Error} {value result : α} :
    unlessAny errors value = .ok result ↔ errors = [] ∧ value = result := by
  rw [unlessAny, ← ofList?_eq_none_iff]
  cases ofList? errors <;> simp

/-- Errors leave nothing of the value. -/
theorem unlessAny_of_ne_nil {α : Type} {errors : List Error} (h : errors ≠ []) (value other : α) :
    unlessAny errors value = unlessAny errors other := by
  cases hlist : ofList? errors with
  | none => exact absurd (ofList?_eq_none_iff.1 hlist) h
  | some e => simp only [unlessAny, hlist]

/-- Whether the error tells of malformed text, below any number of statements. -/
def isMalformed : Error → Bool
  | .malformed _ => true
  | .inStatement _ inner => inner.isMalformed
  | _ => false

def shownLines : Nat := 4

/-- The message shown when a schema cannot be read. Messages on malformed text are cut to their
first lines. -/
def diagnostic (e : Error) : String :=
  if e.isMalformed then
    String.ofList (Text.joinWith ['\n'] ((Text.lines e.message.toList).take shownLines))
  else e.message

def fault? : Error → Option FileFault
  | .file _ _ fault => some fault
  | _ => none

end Error

/-- Why a text yields no schema: an error, or an unrecoverable failure without a message. -/
inductive Rejection
  | error (e : Error)
  | abort

end SqlModels
