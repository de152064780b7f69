import SqlModels.Schema.Replay

/-!
Statements as sequences of parts, each of which is one operation on one table. A part is carried out
as a whole or refused, and one that is refused changes nothing.
-/

namespace SqlModels

namespace Sql

/-- The name that a table has behind an operation. -/
def AlterOp.nameBehind {τ : Type} (name : Name) : AlterOp τ → Name
  | .renameTable newName => newName
  | _ => name

/-- One statement for each operation, on the name the table has by then. -/
def AlterOp.statements (name : Name) : List AlterOp → List Statement
  | [] => []
  | op :: rest => .alterTable name [op] :: statements (op.nameBehind name) rest

/-- The statements on one operation or one name that a statement stands for. -/
def Statement.parts : Statement → List Statement
  | .alterTable name ops => AlterOp.statements name ops
  | .dropTables ifExists names => names.map fun name => .dropTables ifExists [name]
  | statement => [statement]

/-- The columns an operation looks up in its table. -/
def AlterOp.lookups : AlterOp → List String
  | .renameColumn old _ | .changeColumn old _ _ _ => [old.value]
  | .dropColumn name _ => [name.value]
  | .addConstraint constraint => Table.keyOf constraint
  | _ => []

/-- Whether there is a rule for an operation. -/
def AlterOp.isHandled : AlterOp → Bool
  | .dropConstraint _ | .alterColumn _ | .swapWith _ => false
  | .addPartitions | .dropPartitions | .renamePartitions => false
  | _ => true

end Sql

namespace Table

/-- Whether a table has a column of the given name. -/
def hasColumn (t : Table) (name : String) : Bool :=
  t.columns.any (·.name == name)

/-- Why an operation on a table is refused. -/
inductive Refuses (t : Table) (op : Sql.AlterOp) : Error → Prop
  | unknownColumn (name : String) : op.lookups.find? (fun c => !t.hasColumn c) = some name →
      Refuses t op (.unknownColumn name)
  | unhandled : op.isHandled = false →
      Refuses t op (.unimplemented "this kind of ALTER TABLE operation")

variable {t after : Table} {e : Error}

theorem columnIndex_cases (t : Table) (name : String) :
    (t.hasColumn name = true ∧ ∃ i, t.columns.findIdx? (·.name == name) = some i ∧
        (columnIndex name).run t = .ok i t) ∨
      (t.hasColumn name = false ∧ (columnIndex name).run t = .error (.unknownColumn name) t) := by
  unfold columnIndex hasColumn
  cases h : t.columns.findIdx? (·.name == name) with
  | none =>
    refine .inr ⟨?_, by simp [h]; rfl⟩
    rw [List.any_eq_false]
    exact fun c hc => by simpa using List.findIdx?_eq_none_iff.1 h c hc
  | some i =>
    refine .inl ⟨?_, i, rfl, by simp [h]⟩
    obtain ⟨hi, hname, -⟩ := List.findIdx?_eq_some_iff_getElem.1 h
    exact List.any_eq_true.2 ⟨_, List.getElem_mem hi, hname⟩

/-- A change behind a lookup that cannot fail itself. -/
theorem lookup_error_iff {name : String} {change : Nat → Change Unit}
    (hchange : ∀ i, (change i).run t ≠ .error e after) :
    (columnIndex name >>= change).run t = .error e after ↔
      after = t ∧ ∃ missing, [name].find? (fun c => !t.hasColumn c) = some missing ∧
        e = .unknownColumn missing := by
  rcases columnIndex_cases t name with ⟨hc, i, -, hi⟩ | ⟨hc, hi⟩
  · simp [hi, hchange i, hc]
  · simp [hi, hc, eq_comm, and_comm]

theorem checkColumns_run (t : Table) (names : List String) : (checkColumns names).run t =
    match names.find? (fun c => !t.hasColumn c) with
    | some name => .error (.unknownColumn name) t
    | none => .ok () t := by
  induction names with
  | nil => rfl
  | cons name rest ih =>
    rcases columnIndex_cases t name with ⟨hc, i, -, hi⟩ | ⟨hc, hi⟩
    · simp [checkColumns, hi, hc, ih]
    · simp [checkColumns, hi, hc]

theorem setPrimaryKey_error_iff (names : List String) :
    (setPrimaryKey names).run t = .error e after ↔
      after = t ∧ ∃ missing, names.find? (fun c => !t.hasColumn c) = some missing ∧
        e = .unknownColumn missing := by
  simp only [setPrimaryKey, EStateM.run_bind, checkColumns_run]
  cases names.find? (fun c => !t.hasColumn c) with
  | none => simp
  | some missing => simp [eq_comm, and_comm]

theorem refuses_iff (op : Sql.AlterOp) : t.Refuses op e ↔
    (∃ missing, op.lookups.find? (fun c => !t.hasColumn c) = some missing ∧
      e = .unknownColumn missing) ∨
    (op.isHandled = false ∧ e = .unimplemented "this kind of ALTER TABLE operation") := by
  constructor
  · rintro (⟨missing, h⟩ | h)
    · exact .inl ⟨missing, h, rfl⟩
    · exact .inr ⟨h, rfl⟩
  · rintro (⟨missing, h, rfl⟩ | ⟨h, rfl⟩)
    · exact .unknownColumn missing h
    · exact .unhandled h

/-- An operation that is refused leaves the table as it was. -/
theorem alter_error_iff (op : Sql.AlterOp) (hop : ∀ newName, op ≠ .renameTable newName) :
    (alter op).run t = .error e after ↔ after = t ∧ t.Refuses op e := by
  rw [refuses_iff]
  cases op with
  | renameColumn old new =>
    rw [alter, renameColumn, lookup_error_iff (by simp)]
    simp [Sql.AlterOp.lookups, Sql.AlterOp.isHandled]
  | changeColumn old new type options =>
    rw [alter, changeColumn, lookup_error_iff (fun i => by dsimp only; split <;> simp)]
    simp [Sql.AlterOp.lookups, Sql.AlterOp.isHandled]
  | dropColumn name ifExists =>
    rw [alter, dropColumn, lookup_error_iff (by simp)]
    simp [Sql.AlterOp.lookups, Sql.AlterOp.isHandled]
  | addConstraint constraint =>
    cases constraint with
    | primaryKey columns =>
      rw [alter, setPrimaryKey_error_iff]
      simp [Sql.AlterOp.lookups, keyOf, Sql.AlterOp.isHandled]
    | _ => simp [alter, Sql.AlterOp.lookups, keyOf, Sql.AlterOp.isHandled]
  | addColumn | dropPrimaryKey =>
    simp [alter, Sql.AlterOp.lookups, Sql.AlterOp.isHandled]
  | renameTable newName => exact absurd rfl (hop newName)
  | _ => simp [alter, Sql.AlterOp.lookups, Sql.AlterOp.isHandled, eq_comm, and_comm]

section First

variable {name : String} {change : Change Unit} {before rest : List Table}

theorem changeFirst_of_missing (h : ∀ b ∈ before, b.name ≠ name) :
    changeFirst name change before = .error (.unknownTable name) before := by
  induction before with
  | nil => rfl
  | cons b before ih =>
    rw [List.forall_mem_cons] at h
    rw [changeFirst, if_neg h.1, ih h.2]

theorem changeFirst_of_first (h : ∀ b ∈ before, b.name ≠ name) (ht : t.name = name) :
    changeFirst name change (before ++ t :: rest) =
      match change.run t with
      | .ok () changed => .ok () (before ++ changed :: rest)
      | .error e changed => .error e (before ++ changed :: rest) := by
  induction before with
  | nil =>
    rw [List.nil_append, changeFirst, if_pos ht]
    rfl
  | cons b before ih =>
    rw [List.forall_mem_cons] at h
    rw [List.cons_append, changeFirst, if_neg h.1, ih h.2]
    cases change.run t <;> rfl

end First

end Table

namespace Schema

/-- Why a part of a statement is refused. -/
inductive Refuses (s : Schema) : Sql.Statement → Error → Prop
  | existing (d : Sql.CreateTable) : s.contains d.name.last = true → d.ifNotExists = false →
      Refuses s (.createTable d) (.duplicateTable d.name.last)
  | existingTarget (name newName : Sql.Name) : s.contains newName.last = true →
      Refuses s (.alterTable name [.renameTable newName]) (.duplicateTable newName.last)
  | unknown (name : Sql.Name) (op : Sql.AlterOp) :
      (∀ newName, op = .renameTable newName → s.contains newName.last = false) →
      s.contains name.last = false →
      Refuses s (.alterTable name [op]) (.unknownTable name.last)
  | operation (name : Sql.Name) (op : Sql.AlterOp) (t : Table) (e : Error) :
      (∀ newName, op ≠ .renameTable newName) →
      s.tables.find? (·.name == name.last) = some t → t.Refuses op e →
      Refuses s (.alterTable name [op]) e
  | missing (name : Sql.Name) : s.contains name.last = false →
      Refuses s (.dropTables false [name]) (.unknownTable name.last)

variable {s after : Schema} {e : Error} {name : String}

theorem contains_eq_false_iff : s.contains name = false ↔ ∀ t ∈ s.tables, t.name ≠ name := by
  simp [contains]

theorem update_run (name : String) (change : Table.Change Unit) (s : Schema) :
    (update name change).run s = match Table.changeFirst name change s.tables with
      | .ok () tables => .ok () ⟨tables⟩
      | .error e tables => .error e ⟨tables⟩ := rfl

/-- A change that keeps the table where it fails keeps the whole schema there. -/
theorem update_error_iff {change : Table.Change Unit}
    (hchange : ∀ t e changed, change.run t = .error e changed → changed = t) :
    (update name change).run s = .error e after ↔ after = s ∧
      ((s.contains name = false ∧ e = .unknownTable name) ∨
        ∃ t, s.tables.find? (·.name == name) = some t ∧ change.run t = .error e t) := by
  rw [update_run]
  cases hfind : s.tables.find? (·.name == name) with
  | none =>
    have hmissing : ∀ t ∈ s.tables, t.name ≠ name := by simpa using hfind
    have hsame : (⟨s.tables⟩ : Schema) = s := rfl
    rw [Table.changeFirst_of_missing hmissing]
    simp [contains_eq_false_iff.2 hmissing, hsame, @eq_comm _ after, @eq_comm _ e, and_comm]
  | some t =>
    obtain ⟨ht, before, rest, htables, hbefore⟩ := List.find?_eq_some_iff_append.1 hfind
    have hname : t.name = name := by simpa using ht
    have hcontains : s.contains name = true := by simp [contains, htables, hname]
    rw [htables, Table.changeFirst_of_first (by simpa using hbefore) hname]
    cases hc : change.run t with
    | ok _ changed => simp [hcontains, hc]
    | error e' changed =>
      obtain rfl := hchange t e' changed hc
      simp [hcontains, hc, ← htables, @eq_comm _ after, and_comm]

theorem alterOne_bind {α : Type} (name : Sql.Name) (op : Sql.AlterOp)
    (next : String → Change α) : (alterOne name.last op >>= next) =
      (step (.alterTable name [op]) >>= fun _ => next (op.nameBehind name).last) := by
  cases op <;> simp [step, alterAll, alterOne, Sql.AlterOp.nameBehind]

/-- Operations are statements one after another, each on the name its predecessor leaves. -/
theorem alterAll_eq_forM (name : Sql.Name) (ops : List Sql.AlterOp) :
    alterAll name.last ops = (Sql.AlterOp.statements name ops).forM step := by
  induction ops generalizing name with
  | nil => rfl
  | cons op rest ih =>
    rw [alterAll, alterOne_bind, ih]
    rfl

theorem dropAll_eq_forM (ifExists : Bool) (names : List Sql.Name) :
    dropAll ifExists (names.map Sql.Name.last) =
      (names.map fun name => Sql.Statement.dropTables ifExists [name]).forM step := by
  induction names with
  | nil => rfl
  | cons name rest ih =>
    rw [List.map_cons, dropAll, ih]
    simp [step, dropAll]

theorem create_error_iff (d : Sql.CreateTable) :
    (step (.createTable d)).run s = .error e after ↔
      after = s ∧ s.Refuses (.createTable d) e := by
  have hrefuses : s.Refuses (.createTable d) e ↔
      s.contains d.name.last = true ∧ d.ifNotExists = false ∧ e = .duplicateTable d.name.last :=
    ⟨by rintro ⟨⟩; exact ⟨‹_›, ‹_›, rfl⟩, by rintro ⟨h, h', rfl⟩; exact .existing d h h'⟩
  rw [hrefuses]
  cases hc : s.contains d.name.last <;> cases hn : d.ifNotExists <;>
    simp [step, create, hc, hn, @eq_comm _ after, @eq_comm _ e, and_comm]

theorem drop_error_iff (ifExists : Bool) (name : Sql.Name) :
    (step (.dropTables ifExists [name])).run s = .error e after ↔
      after = s ∧ s.Refuses (.dropTables ifExists [name]) e := by
  have hrefuses : s.Refuses (.dropTables ifExists [name]) e ↔
      s.contains name.last = false ∧ ifExists = false ∧ e = .unknownTable name.last :=
    ⟨by rintro ⟨⟩; exact ⟨‹_›, rfl, rfl⟩, by rintro ⟨h, rfl, rfl⟩; exact .missing name h⟩
  rw [hrefuses]
  cases hc : s.contains name.last <;> cases ifExists <;>
    simp [step, dropAll, dropOne, hc, @eq_comm _ after, @eq_comm _ e, and_comm]

theorem step_rename (name newName : Sql.Name) :
    step (.alterTable name [.renameTable newName]) = rename name.last newName.last := by
  simp [step, alterAll, alterOne]

theorem step_operation (name : Sql.Name) {op : Sql.AlterOp}
    (hop : ∀ newName, op ≠ .renameTable newName) :
    step (.alterTable name [op]) = update name.last (Table.alter op) := by
  cases op with
  | renameTable newName => exact absurd rfl (hop newName)
  | _ => simp [step, alterAll, alterOne]

theorem rename_error_iff (newName : String) : (rename name newName).run s = .error e after ↔
    after = s ∧ ((s.contains newName = true ∧ e = .duplicateTable newName) ∨
      (s.contains newName = false ∧ s.contains name = false ∧ e = .unknownTable name)) := by
  cases hnew : s.contains newName with
  | true => simp [rename, hnew, @eq_comm _ after, @eq_comm _ e, and_comm]
  | false =>
    have hupdate : (update name (modify fun t => { t with name := newName })).run s =
        .error e after ↔ _ := update_error_iff (by simp)
    simpa [rename, hnew] using hupdate

theorem alter_error_iff (name : Sql.Name) (op : Sql.AlterOp) :
    (step (.alterTable name [op])).run s = .error e after ↔
      after = s ∧ s.Refuses (.alterTable name [op]) e := by
  -- a new name for the table is the one operation that other tables can stand in the way of
  by_cases hop : ∃ newName, op = .renameTable newName
  · obtain ⟨newName, rfl⟩ := hop
    rw [step_rename, rename_error_iff]
    refine and_congr_right fun _ => ⟨?_, ?_⟩
    · rintro (⟨h, rfl⟩ | ⟨hnew, h, rfl⟩)
      · exact .existingTarget name newName h
      · exact .unknown name _ (by rintro _ ⟨⟩; exact hnew) h
    · intro hrefuses
      cases hrefuses with
      | existingTarget _ _ h => exact .inl ⟨h, rfl⟩
      | unknown _ _ hnew h => exact .inr ⟨hnew newName rfl, h, rfl⟩
      | operation _ _ _ _ hop => exact absurd rfl (hop newName)
  · rw [not_exists] at hop
    rw [step_operation name hop,
      update_error_iff fun t e changed h => ((Table.alter_error_iff op hop).1 h).1]
    refine and_congr_right fun _ => ⟨?_, ?_⟩
    · rintro (⟨h, rfl⟩ | ⟨t, ht, h⟩)
      · exact .unknown name op (fun newName h => absurd h (hop newName)) h
      · exact .operation name op t e hop ht ((Table.alter_error_iff op hop).1 h).2
    · intro hrefuses
      cases hrefuses with
      | existingTarget _ newName => exact absurd rfl (hop newName)
      | unknown _ _ _ h => exact .inl ⟨h, rfl⟩
      | operation _ _ t _ _ ht h =>
        exact .inr ⟨t, ht, (Table.alter_error_iff op hop).2 ⟨rfl, h⟩⟩

theorem mem_statements {part : Sql.Statement} {name : Sql.Name} {ops : List Sql.AlterOp}
    (h : part ∈ Sql.AlterOp.statements name ops) :
    ∃ name, ∃ op ∈ ops, part = .alterTable name [op] := by
  induction ops generalizing name with
  | nil => cases h
  | cons op rest ih =>
    rcases List.mem_cons.1 h with rfl | h
    · exact ⟨name, op, List.mem_cons_self, rfl⟩
    · obtain ⟨name, op, hop, rfl⟩ := ih h
      exact ⟨name, op, List.mem_cons_of_mem _ hop, rfl⟩

theorem part_error_iff {statement part : Sql.Statement} (h : part ∈ statement.parts) :
    (step part).run s = .error e after ↔ after = s ∧ s.Refuses part e := by
  cases statement with
  | createTable d =>
    obtain rfl := List.mem_singleton.1 h
    exact create_error_iff d
  | alterTable name ops =>
    obtain ⟨name, op, -, rfl⟩ := mem_statements h
    exact alter_error_iff name op
  | dropTables ifExists names =>
    obtain ⟨name, -, rfl⟩ := List.mem_map.1 h
    exact drop_error_iff ifExists name
  | other =>
    obtain rfl := List.mem_singleton.1 h
    exact ⟨nofun, fun hrefuses => nomatch hrefuses.2⟩

theorem step_eq_forM (statement : Sql.Statement) : step statement = statement.parts.forM step := by
  cases statement with
  | alterTable name ops => exact alterAll_eq_forM name ops
  | dropTables ifExists names => exact dropAll_eq_forM ifExists names
  | createTable _ | other => simp [Sql.Statement.parts]

/-- Statements are all their parts one after another. -/
theorem run_eq_forM (statements : List Sql.Statement) :
    statements.forM step = (statements.flatMap Sql.Statement.parts).forM step := by
  induction statements with
  | nil => rfl
  | cons statement rest ih =>
    simp only [List.forM_eq_forM] at ih ⊢
    rw [List.forM_cons, List.flatMap_cons, List.forM_append, ← ih, step_eq_forM]
    rfl

/-- A replay without errors is a run in which no statement fails. -/
theorem replayFrom_run (statements : List Sql.Statement) (s : Schema) (index : Nat) :
    match (statements.forM step).run s with
    | .ok () after => s.replayFrom index statements = (after, [])
    | .error _ _ => (s.replayFrom index statements).2 ≠ [] := by
  induction statements generalizing s index with
  | nil => rfl
  | cons statement rest ih =>
    simp only [List.forM_eq_forM, List.forM_cons, EStateM.run_bind, replayFrom] at ih ⊢
    cases (step statement).run s with
    | ok _ next => exact ih next (index + 1)
    | error e next => exact List.cons_ne_nil _ _

theorem ofStatements_run (statements : List Sql.Statement) :
    match (statements.forM step).run empty with
    | .ok () after => ofStatements statements = .ok after
    | .error _ _ => ∃ e, ofStatements statements = .error e := by
  have hreplay := replayFrom_run statements empty 1
  cases hrun : (statements.forM step).run empty with
  | ok _ after =>
    simp only [hrun] at hreplay ⊢
    simp [ofStatements, hreplay, Error.unlessAny_eq_ok_iff]
  | error e after =>
    simp only [hrun] at hreplay ⊢
    cases h : ofStatements statements with
    | error e => exact ⟨e, rfl⟩
    | ok final => exact absurd (Error.unlessAny_eq_ok_iff.1 h).1 hreplay

/-- A statement is its parts one after another, up to the first that fails. A part fails for the
reasons listed, and then leaves the schema as it was. -/
theorem statement_in_parts (statement : Sql.Statement) :
    step statement = statement.parts.forM step ∧
      ∀ part ∈ statement.parts, ∀ s e after,
        (step part).run s = .error e after ↔ after = s ∧ s.Refuses part e :=
  ⟨step_eq_forM statement, fun _ hpart _ _ _ => part_error_iff hpart⟩

/-- The second part names the table as the first has left it. -/
theorem statement_in_parts_renamed :
    let column : Sql.Ident := ⟨"x", none⟩
    let statement : Sql.Statement := .alterTable [⟨"t", none⟩]
      [.renameTable [⟨"u", none⟩], .dropColumn column true]
    let part : Sql.Statement := .alterTable [⟨"u", none⟩] [.dropColumn column true]
    let s : Schema := ⟨[⟨"u", [], []⟩]⟩
    part ∈ statement.parts ∧ s.Refuses part (.unknownColumn "x") ∧
      (step part).run s = .error (.unknownColumn "x") s := by
  intro column statement part s
  have hpart : part ∈ statement.parts := by simp [statement, part, Sql.Statement.parts,
    Sql.AlterOp.statements, Sql.AlterOp.nameBehind]
  have hrefuses : s.Refuses part (.unknownColumn "x") :=
    .operation _ _ ⟨"u", [], []⟩ _ nofun rfl (.unknownColumn "x" rfl)
  exact ⟨hpart, hrefuses, ((statement_in_parts statement).2 part hpart s _ s).2 ⟨rfl, hrefuses⟩⟩

end Schema

end SqlModels
