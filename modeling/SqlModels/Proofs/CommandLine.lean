import SqlModels.CommandLine
import SqlModels.Proofs.Files.Directories
import SqlModels.Proofs.Files.Generation

/-!
Runs that are refused. Whatever stage refuses a schema, the run fails before it has touched a file:
all that may be new is the output directory, with the directories above it that were missing.
-/

namespace SqlModels

variable {s : Store} {o : Options} {models : List Model}

/-- The schema file of the options is refused: it cannot be read, its text is no schema, a column
has a type without a model, or a model would take the place of the index. -/
inductive Options.Rejects (o : Options) (s : Store) : Prop
  | unreadable {fault : FileFault} (hread : s.readText o.source = .error fault)
  | unparsed {text : Text} {e : Error} (hread : s.readText o.source = .ok text)
    (hparse : Schema.read text = .error (.error e))
  | unmapped {text : Text} {schema : Schema} {e : Error} (hread : s.readText o.source = .ok text)
    (hparse : Schema.read text = .ok schema)
    (hmap : Model.ofTables o.policy schema.tables = .error e)
  | colliding {text : Text} {schema : Schema} {models : List Model} {e : Error}
    (hread : s.readText o.source = .ok text) (hparse : Schema.read text = .ok schema)
    (hmap : Model.ofTables o.policy schema.tables = .ok models)
    (hcheck : checkPaths o.output models = .error e)

namespace Model

variable {policy : TypePolicy} {text : Text} {schema : Schema}

theorem ofText_unparsed {r : Rejection} (hparse : Schema.read text = .error r) :
    ofText policy text = .error (.ofRejection r) := by
  rw [ofText, hparse]

theorem ofText_unmapped {e : Error} (hparse : Schema.read text = .ok schema)
    (hmap : ofTables policy schema.tables = .error e) :
    ofText policy text = .error (.ofError "mapping column types: " e) := by
  simp only [ofText, hparse, hmap]

theorem ofText_ok (hparse : Schema.read text = .ok schema)
    (hmap : ofTables policy schema.tables = .ok models) : ofText policy text = .ok models := by
  simp only [ofText, hparse, hmap]

end Model

namespace Options

theorem run_unreadable {fault : FileFault} (hread : s.readText o.source = .error fault) :
    o.run s = ⟨s, [], .unreadable o.source fault⟩ := by
  rw [run, hread]

/-- A readable schema file without models leaves the store with its output directory. -/
theorem run_without_models {text : Text} {report : Report}
    (hread : s.readText o.source = .ok text) (hmodels : Model.ofText o.policy text = .error report)
    (hexit : report.exit = .failure) :
    (o.run s).store = (s.makeOutput o.output).1 ∧ (o.run s).report.exit = .failure := by
  rw [run, hread]
  cases hmade : s.makeOutput o.output with
  | mk made e => cases e <;> simp [hmodels, hexit, Report.ofError]

/-- Models that collide with the index leave the store with its output directory. -/
theorem run_colliding {text : Text} {e : Error} (hread : s.readText o.source = .ok text)
    (hmodels : Model.ofText o.policy text = .ok models)
    (hcheck : checkPaths o.output models = .error e) :
    (o.run s).store = (s.makeOutput o.output).1 ∧ (o.run s).report.exit = .failure := by
  rw [run, hread]
  cases hmade : s.makeOutput o.output with
  | mk made e => cases e <;> simp [hmodels, generate, hcheck, Report.ofResult, Report.ofError]

theorem run_rejected (h : o.Rejects s) :
    s.Grows o.output (o.run s).store ∧ (o.run s).report.exit = .failure := by
  cases h with
  | unreadable hread =>
    rw [run_unreadable hread]
    exact ⟨.refl s o.output, rfl⟩
  | unparsed hread hparse =>
    obtain ⟨hstore, hexit⟩ := run_without_models hread (Model.ofText_unparsed hparse) rfl
    exact ⟨hstore ▸ s.makeOutput_grows o.output, hexit⟩
  | unmapped hread hparse hmap =>
    obtain ⟨hstore, hexit⟩ := run_without_models hread (Model.ofText_unmapped hparse hmap) rfl
    exact ⟨hstore ▸ s.makeOutput_grows o.output, hexit⟩
  | colliding hread hparse hmap hcheck =>
    have hmodels := Model.ofText_ok hparse hmap
    obtain ⟨hstore, hexit⟩ := run_colliding hread hmodels hcheck
    exact ⟨hstore ▸ s.makeOutput_grows o.output, hexit⟩

end Options

/-- A run that refuses a schema fails and touches no file. -/
theorem runArguments_rejected {arguments : List String}
    (harguments : Invocation.ofArguments arguments = .run o) (h : o.Rejects s) :
    let after := runArguments arguments s
    after.report.exit.number = 1 ∧
      (∀ p content mode, after.store.node? p = some (.file content mode) ↔
        s.node? p = some (.file content mode)) ∧
      s.Grows o.output after.store ∧
      (∀ fault, s.readText o.source = .error fault → after.store = s) ∧
      ∀ models, (∀ m ∈ models, '/' ∉ m.name.toList) →
        ((∃ e, checkPaths o.output models = .error e) ↔
          ∃ m ∈ models, Text.eqIgnoringCase m.name.toList "index".toList = true) := by
  intro after
  have hrun : after = o.run s := by simp only [after, runArguments, harguments]
  obtain ⟨hgrows, hexit⟩ := Options.run_rejected h
  rw [hrun]
  refine ⟨by rw [hexit]; rfl, fun p content mode => hgrows.file_iff, hgrows, ?_, ?_⟩
  · intro fault hread
    rw [Options.run_unreadable hread]
  · exact fun models hslash => checkPaths_error_iff o.output hslash

theorem Schema.read_of_toOption {text : Text} {schema : Schema}
    (h : (read text).toOption = some schema) : read text = .ok schema := by
  cases hread : read text with
  | error r => simp [hread, Except.toOption] at h
  | ok other => simpa [hread, Except.toOption] using h

/-- A store with one file, in the working directory. -/
def schemaStore (text : Text) : Store :=
  ⟨["work"], [(["work"], .directory), (["work", "schema.sql"], .file (.text text) 0o600)]⟩

theorem readText_schemaStore (text : Text) :
    (schemaStore text).readText "schema.sql" = .ok text := rfl

/-- The only table is called as the index, and the output directory is not there yet. -/
theorem runArguments_rejected_index :
    let text := "CREATE TABLE Index (id INT)".toList
    let s := schemaStore text
    let arguments := ["-v", "schema.sql", "--", "models/db"]
    let o : Options := ⟨"schema.sql", "models/db", false, 1⟩
    let after := runArguments arguments s
    Invocation.ofArguments arguments = .run o ∧ o.Rejects s ∧ after.report.exit.number = 1 ∧
      s.Grows "models/db" after.store := by
  intro text s arguments o after
  let schema : Schema := ⟨[⟨"Index", [⟨"id", { datatype := "int", width := some 4 }, {}⟩], []⟩]⟩
  let models : List Model := [⟨"Index", [⟨"id", "INTEGER()", .number, true, false, none, false⟩]⟩]
  have harguments : Invocation.ofArguments arguments = .run o := rfl
  have hread : s.readText o.source = .ok text := readText_schemaStore text
  have hparse : Schema.read text = .ok schema := Schema.read_of_toOption (by decide +kernel)
  have hmap : Model.ofTables o.policy schema.tables = .ok models := rfl
  obtain ⟨e, hcheck⟩ : ∃ e, checkPaths o.output models = .error e :=
    (checkPaths_error_iff "models/db" (by decide)).2 ⟨_, List.mem_cons_self, by decide⟩
  have hrejects : o.Rejects s := .colliding hread hparse hmap hcheck
  have h := runArguments_rejected harguments hrejects
  exact ⟨harguments, hrejects, h.1, h.2.2.1⟩

end SqlModels
