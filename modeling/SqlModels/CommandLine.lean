import SqlModels.Files.Generation
import SqlModels.Model.Mapping
import SqlModels.Schema.Replay

namespace SqlModels

structure Options where
  source : String
  output : String
  decimalAsNumber : Bool
  verbosity : Nat

inductive Invocation
  | run (options : Options)
  | help
  | version
  | invalid

namespace Invocation

structure Pending where
  source : Option String := none
  output : Option String := none
  decimalAsNumber : Bool := false
  verbosity : Nat := 0

/-- A further path: first the schema, then the directory. Paths are not empty. -/
def Pending.addPath? (p : Pending) (path : String) : Option Pending :=
  if path = "" then none
  else match p.source, p.output with
    | none, _ => some { p with source := some path }
    | some _, none => some { p with output := some path }
    | some _, some _ => none

def Pending.finish (p : Pending) : Invocation :=
  match p.source, p.output with
  | some source, some output => .run ⟨source, output, p.decimalAsNumber, p.verbosity⟩
  | _, _ => .invalid

inductive Flag
  | verbose | help | version | decimalAsNumber | unknown

def flagOfLetter (c : Char) : Flag :=
  if c = 'v' then .verbose
  else if c = 'h' then .help
  else if c = 'V' then .version
  else .unknown

def flagOfWord (word : String) : Flag :=
  if word = "--verbose" then .verbose
  else if word = "--help" then .help
  else if word = "--version" then .version
  else if word = "--decimal-as-number" then .decimalAsNumber
  else .unknown

/-- The arguments behind one flag, or the invocation it leads to at once. -/
def Pending.addFlag (p : Pending) : Flag → Except Invocation Pending
  | .verbose => .ok { p with verbosity := p.verbosity + 1 }
  | .help => .error .help
  | .version => .error .version
  | .decimalAsNumber =>
    if p.decimalAsNumber then .error .invalid else .ok { p with decimalAsNumber := true }
  | .unknown => .error .invalid

def Pending.addLetters (p : Pending) : List Char → Except Invocation Pending
  | [] => .ok p
  | c :: rest =>
    match p.addFlag (flagOfLetter c) with
    | .ok next => next.addLetters rest
    | .error i => .error i

def Pending.addPaths (p : Pending) : List String → Invocation
  | [] => p.finish
  | path :: rest =>
    match p.addPath? path with
    | some next => next.addPaths rest
    | none => .invalid

/-- One argument that is not the mark behind which all are paths. -/
def Pending.addArgument (p : Pending) (argument : String) : Except Invocation Pending :=
  match argument.toList with
  | '-' :: '-' :: _ => p.addFlag (flagOfWord argument)
  | '-' :: c :: rest => p.addLetters (c :: rest)
  | _ =>
    match p.addPath? argument with
    | some next => .ok next
    | none => .error .invalid

def Pending.addArguments (p : Pending) : List String → Invocation
  | [] => p.finish
  | argument :: rest =>
    if argument = "--" then p.addPaths rest
    else match p.addArgument argument with
      | .ok next => next.addArguments rest
      | .error i => i

def ofArguments (arguments : List String) : Invocation :=
  Pending.addArguments {} arguments

end Invocation

def versionText : String := "sql2sequelize 0.1.0\n"

def helpText : String :=
  "Generate Sequelize TypeScript models from a MySQL schema file\n\n" ++
  "Usage: sql2sequelize [OPTIONS] <DB> <OUTPUT>\n\n" ++
  "Arguments:\n" ++
  "  <DB>      SQL file with the CREATE TABLE statements\n" ++
  "  <OUTPUT>  Directory the models are written to, created if missing\n\n" ++
  "Options:\n" ++
  "      --decimal-as-number  Type DECIMAL attributes as \x60number\x60 instead of " ++
  "\x60string\x60\n" ++
  "  -v, --verbose...         Log more, repeat for debug output\n" ++
  "  -h, --help               Print help\n" ++
  "  -V, --version            Print version\n"

inductive ExitCode
  | success | failure | usage | aborted
  deriving DecidableEq

def ExitCode.number : ExitCode → Nat
  | .success => 0 | .failure => 1 | .usage => 2 | .aborted => 101

structure Report where
  exit : ExitCode
  output : String := ""
  failure : Option String := none

namespace Report

def failureLine (activity message : String) (fault : Option FileFault) : String :=
  "Error: " ++ activity ++ message ++
    (match fault with
      | some f => ": " ++ f.message
      | none => "") ++ "\n"

def ofError (activity : String) (e : Error) : Report :=
  { exit := .failure, failure := some (failureLine activity e.message e.fault?) }

def unreadable (path : String) (fault : FileFault) : Report :=
  { exit := .failure, failure := some (failureLine "reading " path (some fault)) }

def ofRejection : Rejection → Report
  | .error e => { exit := .failure, output := e.diagnostic ++ "\n" }
  | .abort => { exit := .aborted }

end Report

def Model.ofText (policy : TypePolicy) (text : Text) : Except Report (List Model) :=
  match Schema.read text with
  | .error r => .error (.ofRejection r)
  | .ok schema =>
    match Model.ofTables policy schema.tables with
    | .error e => .error (.ofError "mapping column types: " e)
    | .ok models => .ok models

def Report.ofResult (dir : String) : Except Error Summary → Report
  | .ok _ => { exit := .success }
  | .error e => .ofError ("writing models to " ++ dir ++ ": ") e

def Options.policy (o : Options) : TypePolicy :=
  { decimalAsString := !o.decimalAsNumber }

structure Run where
  store : Store
  events : List Event
  report : Report

/-- Generates the models of a schema file. The output directory is made before the schema is looked
at, and no file is touched before all models are known. -/
def Options.run (o : Options) (s : Store) : Run :=
  match s.readText o.source with
  | .error fault => ⟨s, [], .unreadable o.source fault⟩
  | .ok text =>
    match s.makeOutput o.output with
    | (made, some e) => ⟨made, [], .ofError "" e⟩
    | (made, none) =>
      match Model.ofText o.policy text with
      | .error report => ⟨made, [], report⟩
      | .ok models =>
        let generation := generate made o.output models
        ⟨generation.store, generation.events, .ofResult o.output generation.result⟩

def runArguments (arguments : List String) (s : Store) : Run :=
  match Invocation.ofArguments arguments with
  | .run options => options.run s
  | .help => ⟨s, [], { exit := .success, output := helpText }⟩
  | .version => ⟨s, [], { exit := .success, output := versionText }⟩
  | .invalid => ⟨s, [], { exit := .usage }⟩

end SqlModels
