import SqlModels.CommandLine

namespace SqlModels.Main

def faultOf : IO.Error → FileFault
  | .noFileOrDirectory _ _ _ => .notFound
  | .alreadyExists _ _ _ => .alreadyExists
  | .inappropriateType _ code _ => if code = 20 then .notADirectory else .isADirectory
  | e => .other (toString e)

def guarded {α : Type} (action : IO α) : IO (Except FileFault α) := do
  try return .ok (← action)
  catch e => return .error (faultOf e)

def readText (path : String) : IO (Except FileFault Text) := do
  match ← guarded (IO.FS.readBinFile path) with
  | .error fault => return .error fault
  | .ok bytes =>
    match Content.ofBytes bytes with
    | .text t => return .ok t
    | .binary _ => return .error .invalidText

/-- Puts a new file in place as a whole, readable for everyone. -/
def createFile (path : String) (text : Text) : IO Unit := do
  let draft := path ++ ".new"
  IO.FS.writeFile draft (String.ofList text)
  let reading : IO.AccessRight := ⟨true, false, false⟩
  IO.setAccessRights draft ⟨⟨true, true, false⟩, reading, reading⟩
  IO.FS.rename draft path

def write (t : Target) : IO (List Event × Except Error Outcome) := do
  if ← (System.mkFilePath [t.path]).pathExists then
    match ← readText t.path with
    | .error fault => return ([], .error (.file "reading" t.path fault))
    | .ok existing =>
      let revision := t.revise existing
      let notes := revision.notes.map Event.note
      match revision.result with
      | .error e => return (notes, .error e)
      | .ok none => return (notes, .ok .unchanged)
      | .ok (some text) =>
        match ← guarded (IO.FS.writeFile t.path (String.ofList text)) with
        | .error fault => return (notes, .error (.file "replacing" t.path fault))
        | .ok () => return (notes ++ [.updated t.path], .ok .updated)
  else
    match ← guarded (createFile t.path t.full) with
    | .error fault =>
      return ([], .error (.file "creating temporary file in" (Path.directory t.path) fault))
    | .ok () => return ([.created t.path], .ok .created)

def log (verbosity : Nat) (events : List Event) : IO Unit :=
  for e in events do
    if e.isWarning || 0 < verbosity then IO.eprintln e.line

def generate (o : Options) (models : List Model) : IO (Except Error Summary) := do
  match checkPaths o.output models with
  | .error e => return .error e
  | .ok () =>
    let mut results := []
    for t in Target.all o.output models do
      let (events, result) ← write t
      log o.verbosity events
      results := results ++ [result]
    return Summary.ofResults results

def run (o : Options) : IO Report := do
  match ← readText o.source with
  | .error fault => return .unreadable o.source fault
  | .ok text =>
    match ← guarded (IO.FS.createDirAll o.output) with
    | .error fault => return .ofError "" (.file "creating directory" o.output fault)
    | .ok () =>
      match Model.ofText o.policy text with
      | .error report => return report
      | .ok models => return .ofResult o.output (← generate o models)

end SqlModels.Main

open SqlModels in
def main (arguments : List String) : IO UInt32 := do
  let report ← match Invocation.ofArguments arguments with
    | .run options => Main.run options
    | .help => pure { exit := .success, output := helpText }
    | .version => pure { exit := .success, output := versionText }
    | .invalid => pure { exit := .usage, failure := some helpText }
  IO.print report.output
  if let some line := report.failure then IO.eprint line
  return report.exit.number.toUInt32
