import SqlModels.Files.Store
import SqlModels.Model.Render

/-!
Writing the models of a schema: one index file and a file for each model. A new file is written
whole; of an existing one only the marked regions are replaced. Every file is attempted, and
failures are reported together.
-/

namespace SqlModels

inductive Outcome
  | created | updated | unchanged
  deriving DecidableEq

inductive Event
  | note (n : RegionNote)
  | created (path : String)
  | updated (path : String)

def Event.isWarning : Event → Bool
  | .note _ => true
  | _ => false

def Event.line : Event → String
  | .note n => "WARN " ++ n.text
  | .created path => "INFO created path=" ++ path
  | .updated path => "INFO updated path=" ++ path

/-- A file to be written: fresh bodies for its regions if it exists, the whole text if not. -/
structure Target where
  path : String
  regions : List Region
  fragments : Fragments
  full : Text

namespace Target

def index (dir : String) (models : List Model) : Target :=
  ⟨Path.join dir "index.ts", Region.ofIndex, Index.fragments models, Index.file models⟩

def model (dir : String) (m : Model) : Target :=
  ⟨Path.join dir (m.name ++ ".ts"), Region.ofModel, m.fragments, m.file⟩

/-- The files of models below a directory: the index, then one for each model. -/
def all (dir : String) (models : List Model) : List Target :=
  index dir models :: models.map (model dir)

def newMode : Nat := 0o644

end Target

structure Revision where
  notes : List RegionNote
  /-- The new text, or nothing if the text stays as it is. -/
  result : Except Error (Option Text)

def Target.revise (t : Target) (existing : Text) : Revision :=
  let merged := merge t.regions t.fragments existing
  ⟨merged.notes,
    match merged.result with
    | .error e => .error (.inRegion t.path e)
    | .ok text => .ok (if text = existing then none else some text)⟩

structure Attempt where
  store : Store
  events : List Event
  result : Except Error Outcome

namespace Target

def replace (t : Target) (s : Store) (text : Text) (mode : Nat) (notes : List RegionNote)
    (event : Event) (outcome : Outcome) : Attempt :=
  match s.replaceFile t.path text mode with
  | .ok written => ⟨written, notes.map .note ++ [event], .ok outcome⟩
  | .error e => ⟨s, notes.map .note, .error e⟩

/-- Writes a target. A new file gets the usual mode, and an updated one keeps its own. -/
def write (t : Target) (s : Store) : Attempt :=
  if s.exists? t.path then
    match s.readText t.path with
    | .error fault => ⟨s, [], .error (.file "reading" t.path fault)⟩
    | .ok existing =>
      let revision := t.revise existing
      match revision.result with
      | .error e => ⟨s, revision.notes.map .note, .error e⟩
      | .ok none => ⟨s, revision.notes.map .note, .ok .unchanged⟩
      | .ok (some text) =>
        t.replace s text (s.modeOf t.path newMode) revision.notes (.updated t.path) .updated
  else t.replace s t.full newMode [] (.created t.path) .created

end Target

structure Summary where
  created : Nat := 0
  updated : Nat := 0
  unchanged : Nat := 0
  deriving DecidableEq

namespace Summary

def record (s : Summary) : Outcome → Summary
  | .created => { s with created := s.created + 1 }
  | .updated => { s with updated := s.updated + 1 }
  | .unchanged => { s with unchanged := s.unchanged + 1 }

def errorOf? : Except Error Outcome → Option Error
  | .error e => some e
  | .ok _ => none

def ofResults (results : List (Except Error Outcome)) : Except Error Summary :=
  Error.unlessAny (results.filterMap errorOf?)
    ((results.filterMap Except.toOption).foldl record {})

end Summary

/-- The index of models must not be the file of one of them, letter case aside. -/
def checkPaths (dir : String) (models : List Model) : Except Error Unit :=
  let index := (Target.index dir models).path
  let colliding := models.filter fun m =>
    Text.eqIgnoringCase (Target.model dir m).path.toList index.toList
  Error.unlessAny (colliding.map fun m => .pathCollision m.name index) ()

structure Pass where
  store : Store
  events : List Event
  results : List (Except Error Outcome)

/-- Writes targets one after another, whatever becomes of them. -/
def Target.writeAll (s : Store) : List Target → Pass
  | [] => ⟨s, [], []⟩
  | t :: rest =>
    let attempt := t.write s
    let pass := writeAll attempt.store rest
    ⟨pass.store, attempt.events ++ pass.events, attempt.result :: pass.results⟩

structure Generation where
  store : Store
  events : List Event
  result : Except Error Summary

/-- Writes models below a directory, unless one of them would overwrite the index. -/
def generate (s : Store) (dir : String) (models : List Model) : Generation :=
  match checkPaths dir models with
  | .error e => ⟨s, [], .error e⟩
  | .ok () =>
    let pass := Target.writeAll s (Target.all dir models)
    ⟨pass.store, pass.events, Summary.ofResults pass.results⟩

def Store.makeOutput (s : Store) (dir : String) : Store × Option Error :=
  match s.makeDirectories dir with
  | (made, none) => (made, none)
  | (made, some fault) => (made, some (.file "creating directory" dir fault))

end SqlModels
