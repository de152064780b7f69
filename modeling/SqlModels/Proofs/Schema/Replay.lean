import SqlModels.Proofs.Schema.Keyed

/-!
What a replay of statements keeps. A statement is carried out part by part and table by table, and a
part that is refused changes nothing.
-/

namespace SqlModels

namespace Table

variable {t after : Table} {name : String}

theorem lookup_index {change : Nat → Change Unit}
    (h : (columnIndex name >>= change).run t = .ok () after) :
    ∃ i, t.columns.findIdx? (·.name == name) = some i ∧ (change i).run t = .ok () after := by
  rw [EStateM.run_bind] at h
  rcases columnIndex_cases t name with ⟨-, i, hi, hrun⟩ | ⟨-, hrun⟩
  · exact ⟨i, hi, by simpa only [hrun] using h⟩
  · simp [hrun] at h

/-- The column that a change behind a lookup is about. -/
theorem lookup_ok {change : Nat → Change Unit}
    (h : (columnIndex name >>= change).run t = .ok () after) :
    ∃ before c rest, t.columns = before ++ c :: rest ∧ c.name = name ∧
      (change before.length).run t = .ok () after := by
  obtain ⟨i, hi, hchange⟩ := lookup_index h
  obtain ⟨hlt, hname, -⟩ := List.findIdx?_eq_some_iff_getElem.1 hi
  have hlength : (t.columns.take i).length = i := List.length_take_of_le (Nat.le_of_lt hlt)
  refine ⟨t.columns.take i, t.columns[i], t.columns.drop (i + 1), by simp, by simpa using hname, ?_⟩
  rwa [hlength]

section Spec

variable {old new : String}

theorem renameColumn_ok (hrun : (renameColumn old new).run t = .ok () after) :
    ∃ before c rest, t.columns = before ++ c :: rest ∧ c.name = old ∧
      after = ⟨t.name, before ++ { c with name := new } :: rest,
        t.primaryKey.map (renamed old new)⟩ := by
  obtain ⟨before, c, rest, hcolumns, hold, hchange⟩ := lookup_ok hrun
  refine ⟨before, c, rest, hcolumns, hold, ?_⟩
  simpa [renameKey_eq, hcolumns, List.modify_eq_take_cons_drop, eq_comm] using hchange

theorem changeColumn_ok {type : Sql.DataType} {options : List Sql.ColumnOption}
    (hrun : (changeColumn old new type options).run t = .ok () after) :
    ∃ before c rest, t.columns = before ++ c :: rest ∧ c.name = old ∧
      let declared := KeyedColumn.ofDeclaration new type options
      after = ⟨t.name, before ++ declared.column :: rest,
        changedKey (t.primaryKey.map (renamed old new)) new declared.isKey⟩ := by
  obtain ⟨before, c, rest, hcolumns, hold, hchange⟩ := lookup_ok hrun
  refine ⟨before, c, rest, hcolumns, hold, ?_⟩
  cases hprimary : (Column.declare new type options).2 <;>
    simpa [changedKey, KeyedColumn.ofDeclaration, hprimary, addKey_eq, renameKey_eq, hcolumns,
      eq_comm] using hchange

theorem dropColumn_ok (hrun : (dropColumn name).run t = .ok () after) :
    ∃ before c rest, t.columns = before ++ c :: rest ∧ c.name = name ∧
      after = ⟨t.name, before ++ rest, t.primaryKey.filter (· ≠ name)⟩ := by
  obtain ⟨before, c, rest, hcolumns, hname, hchange⟩ := lookup_ok hrun
  have herase : t.columns.eraseIdx before.length = before ++ rest := by
    rw [hcolumns, List.eraseIdx_append_of_length_le (Nat.le_refl _)]
    simp
  exact ⟨before, c, rest, hcolumns, hname, by simpa [herase, eq_comm] using hchange⟩

theorem setPrimaryKey_ok {keys : List String}
    (hrun : (setPrimaryKey keys).run t = .ok () after) :
    (∀ key ∈ keys, t.hasColumn key = true) ∧ after = { t with primaryKey := keys } := by
  simp only [setPrimaryKey, EStateM.run_bind, checkColumns_run] at hrun
  cases hfind : keys.find? (fun c => !t.hasColumn c) with
  | some missing => simp [hfind] at hrun
  | none =>
    refine ⟨fun key hkey => ?_, by simpa [hfind, eq_comm] using hrun⟩
    simpa using List.find?_eq_none.1 hfind key hkey

end Spec

/-- What an operation makes of a table, where it is not refused. -/
inductive Alters (t : Table) : Sql.AlterOp → Table → Prop
  | addColumn (d : Sql.ColumnDef) : Alters t (.addColumn d) (t.addColumn d)
  | renameColumn {old new : Sql.Ident} {before rest : List Column} {c : Column}
      (hcolumns : t.columns = before ++ c :: rest) (hold : c.name = old.value) :
      Alters t (.renameColumn old new) ⟨t.name, before ++ { c with name := new.value } :: rest,
        t.primaryKey.map (renamed old.value new.value)⟩
  | changeColumn {old new : Sql.Ident} {type : Sql.DataType} {options : List Sql.ColumnOption}
      {before rest : List Column} {c : Column} {declared : KeyedColumn}
      (hcolumns : t.columns = before ++ c :: rest) (hold : c.name = old.value)
      (hdeclared : declared = .ofDeclaration new.value type options) :
      Alters t (.changeColumn old new type options) ⟨t.name, before ++ declared.column :: rest,
        changedKey (t.primaryKey.map (renamed old.value new.value)) new.value declared.isKey⟩
  | dropColumn {name : Sql.Ident} {ifExists : Bool} {before rest : List Column} {c : Column}
      (hcolumns : t.columns = before ++ c :: rest) (hname : c.name = name.value) :
      Alters t (.dropColumn name ifExists)
        ⟨t.name, before ++ rest, t.primaryKey.filter (· ≠ name.value)⟩
  | dropPrimaryKey : Alters t .dropPrimaryKey { t with primaryKey := [] }
  | setPrimaryKey {columns : List Sql.Ident}
      (hcolumns : ∀ key ∈ columns.map Sql.Ident.value, t.hasColumn key = true) :
      Alters t (.addConstraint (.primaryKey columns))
        { t with primaryKey := columns.map Sql.Ident.value }
  | otherConstraint (constraint : Sql.TableConstraint) : Alters t (.addConstraint constraint) t

theorem alter_ok {op : Sql.AlterOp} (hrun : (alter op).run t = .ok () after) :
    t.Alters op after := by
  cases op with
  | addColumn d =>
    obtain rfl : t.addColumn d = after := by simpa [alter] using hrun
    exact .addColumn d
  | renameColumn old new =>
    obtain ⟨before, c, rest, hcolumns, hold, rfl⟩ := renameColumn_ok hrun
    exact .renameColumn hcolumns hold
  | changeColumn old new type options =>
    obtain ⟨before, c, rest, hcolumns, hold, rfl⟩ := changeColumn_ok hrun
    exact .changeColumn hcolumns hold rfl
  | dropColumn name ifExists =>
    obtain ⟨before, c, rest, hcolumns, hname, rfl⟩ := dropColumn_ok hrun
    exact .dropColumn hcolumns hname
  | dropPrimaryKey =>
    obtain rfl : { t with primaryKey := [] } = after := by simpa [alter] using hrun
    exact .dropPrimaryKey
  | addConstraint constraint =>
    cases constraint with
    | primaryKey columns =>
      obtain ⟨hcolumns, rfl⟩ := setPrimaryKey_ok hrun
      exact .setPrimaryKey hcolumns
    | _ =>
      obtain rfl : t = after := by simpa [alter] using hrun
      exact .otherConstraint _
  | _ => simp [alter] at hrun

theorem changeFirst_cons_eq_ok {change : Change Unit} {rest tables : List Table} :
    changeFirst name change (t :: rest) = .ok () tables ↔
      (t.name = name ∧ ∃ changed, change.run t = .ok () changed ∧ changed :: rest = tables) ∨
        (t.name ≠ name ∧ ∃ changed, changeFirst name change rest = .ok () changed ∧
          t :: changed = tables) := by
  by_cases ht : t.name = name
  · cases hrun : change.run t <;> simp [changeFirst, ht, hrun]
  · cases hrest : changeFirst name change rest <;> simp [changeFirst, ht, hrest]

/-- Behind a change of the first table of a name, all tables but that one are as they were. -/
theorem mem_changeFirst {change : Change Unit} {tables changed : List Table}
    (hrun : changeFirst name change tables = .ok () changed) (hafter : after ∈ changed) :
    after ∈ tables ∨ ∃ t ∈ tables, change.run t = .ok () after := by
  induction tables generalizing changed with
  | nil => cases hrun
  | cons t rest ih =>
    rcases changeFirst_cons_eq_ok.1 hrun with ⟨-, new, hchange, rfl⟩ | ⟨-, new, hrest, rfl⟩
    · rcases List.mem_cons.1 hafter with rfl | hmem
      · exact .inr ⟨t, List.mem_cons_self, hchange⟩
      · exact .inl (List.mem_cons_of_mem t hmem)
    · rcases List.mem_cons.1 hafter with rfl | hmem
      · exact .inl List.mem_cons_self
      · rcases ih hrest hmem with hold | ⟨u, hu, hchange⟩
        · exact .inl (List.mem_cons_of_mem t hold)
        · exact .inr ⟨u, List.mem_cons_of_mem t hu, hchange⟩

end Table

namespace Schema

variable {s after : Schema}

/-- The schema behind a statement, whether or not that fails. -/
def behind (s : Schema) (statement : Sql.Statement) : Schema :=
  match (step statement).run s with
  | .ok () after => after
  | .error _ after => after

theorem replayFrom_schema (s : Schema) (index : Nat) (statements : List Sql.Statement) :
    (s.replayFrom index statements).1 = statements.foldl behind s := by
  induction statements generalizing s index with
  | nil => rfl
  | cons statement rest ih =>
    rw [replayFrom, List.foldl_cons, behind]
    cases (step statement).run s with
    | ok _ next => exact ih next (index + 1)
    | error e next => exact ih next (index + 1)

section Keeps

variable {P : Schema → Prop}

theorem forM_keeps {parts : List Sql.Statement}
    (hparts : ∀ part ∈ parts, ∀ s : Schema, P s → P (s.behind part)) (hs : P s) :
    match (parts.forM step).run s with
    | .ok () after => P after
    | .error _ after => P after := by
  induction parts generalizing s with
  | nil => exact hs
  | cons part rest ih =>
    obtain ⟨hpart, hrest⟩ := List.forall_mem_cons.1 hparts
    have hfirst := hpart s hs
    simp only [List.forM_eq_forM, List.forM_cons, EStateM.run_bind] at ih ⊢
    rw [behind] at hfirst
    cases hrun : (step part).run s with
    | ok _ next => exact ih hrest (by simpa only [hrun] using hfirst)
    | error e next => simpa only [hrun] using hfirst

/-- What all parts of statements keep when they are carried out is kept by the statements, for a
part that is refused changes nothing. -/
theorem replayFrom_keeps {statements : List Sql.Statement}
    (hparts : ∀ statement ∈ statements, ∀ part ∈ statement.parts, ∀ s after, P s →
      (step part).run s = .ok () after → P after)
    (hs : P s) (index : Nat) : P (s.replayFrom index statements).1 := by
  rw [replayFrom_schema]
  induction statements generalizing s with
  | nil => exact hs
  | cons statement rest ih =>
    obtain ⟨hfirst, hrest⟩ := List.forall_mem_cons.1 hparts
    have hpart : ∀ part ∈ statement.parts, ∀ s : Schema, P s → P (s.behind part) := by
      intro part hpart s hs
      rw [behind]
      cases hrun : (step part).run s with
      | ok _ after => exact hfirst part hpart s after hs hrun
      | error e after => exact ((part_error_iff hpart).1 hrun).1 ▸ hs
    have hrun := forM_keeps hpart hs
    rw [← step_eq_forM] at hrun
    refine ih hrest ?_
    rw [behind]
    cases h : (step statement).run s <;> simpa only [h] using hrun

end Keeps

/-- Behind a change of a table all others are as they were. -/
theorem mem_update {name : String} {change : Table.Change Unit} {u : Table}
    (hrun : (update name change).run s = .ok () after) (hu : u ∈ after.tables) :
    u ∈ s.tables ∨ ∃ t ∈ s.tables, change.run t = .ok () u := by
  rw [update_run] at hrun
  cases htables : Table.changeFirst name change s.tables with
  | error e tables => simp [htables] at hrun
  | ok _ tables =>
    obtain rfl : (⟨tables⟩ : Schema) = after := by simpa [htables] using hrun
    exact Table.mem_changeFirst htables hu

theorem rename_ok {name newName : String} (hrun : (rename name newName).run s = .ok () after) :
    s.contains newName = false ∧
      (update name (modify fun t => { t with name := newName })).run s = .ok () after := by
  cases hc : s.contains newName with
  | true => simp [rename, hc] at hrun
  | false => exact ⟨rfl, by simpa [rename, hc] using hrun⟩

theorem create_ok {d : Sql.CreateTable} (hrun : (step (.createTable d)).run s = .ok () after) :
    s.contains d.name.last = true ∧ after = s ∨
      s.contains d.name.last = false ∧ after = ⟨s.tables ++ [Table.ofDefinition d]⟩ := by
  cases hc : s.contains d.name.last with
  | true => cases hn : d.ifNotExists <;> simp_all [step, create]
  | false => exact .inr ⟨rfl, by simpa [step, create, hc, @eq_comm _ after] using hrun⟩

theorem drop_ok {ifExists : Bool} {name : Sql.Name}
    (hrun : (step (.dropTables ifExists [name])).run s = .ok () after) :
    after = ⟨s.tables.filter (·.name ≠ name.last)⟩ := by
  cases hc : s.contains name.last with
  | true => simpa [step, dropAll, dropOne, hc, @eq_comm _ after] using hrun
  | false =>
    have hsame : s.tables.filter (·.name ≠ name.last) = s.tables :=
      List.filter_eq_self.2 (by simpa using contains_eq_false_iff.1 hc)
    rw [hsame]
    cases ifExists with
    | true => simpa [step, dropAll, dropOne, hc, @eq_comm _ after] using hrun
    | false => simp [step, dropAll, dropOne, hc] at hrun

section Tables

variable {P : Table → Prop}

theorem update_forall {name : String} {change : Table.Change Unit} (hs : ∀ t ∈ s.tables, P t)
    (hchange : ∀ t changed, P t → change.run t = .ok () changed → P changed)
    (hrun : (update name change).run s = .ok () after) : ∀ t ∈ after.tables, P t := by
  intro u hu
  rcases mem_update hrun hu with hold | ⟨t, ht, hrun⟩
  · exact hs u hold
  · exact hchange t u (hs t ht) hrun

/-- What new tables have, and what tables keep under operations and under other names, all tables
have behind a part of a statement. -/
theorem part_forall {statement part : Sql.Statement} (hpart : part ∈ statement.parts)
    (hnew : ∀ d, statement = .createTable d → P (Table.ofDefinition d))
    (hname : ∀ name newName, part = .alterTable name [.renameTable newName] → ∀ t : Table, P t →
      P { t with name := newName.last })
    (hop : ∀ name op, part = .alterTable name [op] → ∀ t changed : Table, P t →
      (Table.alter op).run t = .ok () changed → P changed)
    (hs : ∀ t ∈ s.tables, P t) (hrun : (step part).run s = .ok () after) :
    ∀ t ∈ after.tables, P t := by
  cases statement with
  | createTable d =>
    obtain rfl := List.mem_singleton.1 hpart
    rcases create_ok hrun with ⟨-, rfl⟩ | ⟨-, rfl⟩
    · exact hs
    · exact List.forall_mem_append.2 ⟨hs, List.forall_mem_singleton.2 (hnew d rfl)⟩
  | alterTable name ops =>
    obtain ⟨name, op, -, rfl⟩ := mem_statements hpart
    by_cases hrename : ∃ newName, op = .renameTable newName
    · obtain ⟨newName, rfl⟩ := hrename
      rw [step_rename] at hrun
      refine update_forall hs (fun t changed ht hchange => ?_) (rename_ok hrun).2
      obtain rfl : { t with name := newName.last } = changed := by simpa using hchange
      exact hname name newName rfl t ht
    · rw [not_exists] at hrename
      rw [step_operation name hrename] at hrun
      exact update_forall hs (hop name op rfl) hrun
  | dropTables ifExists names =>
    obtain ⟨name, -, rfl⟩ := List.mem_map.1 hpart
    rw [drop_ok hrun]
    exact fun t ht => hs t (List.mem_of_mem_filter ht)
  | other =>
    obtain rfl := List.mem_singleton.1 hpart
    obtain rfl : s = after := by simpa [step] using hrun
    exact hs

end Tables

end Schema

end SqlModels
