import SqlModels.Proofs.Schema.Replay
import SqlModels.Proofs.Sql.Places

/-!
Where columns come from. Next to the replay of statements stands one that keeps for every column the
declaration that it comes from, with whatever that tells of its type. The columns of a schema are
what these declarations say, each in its place and under the name that it has by then.
-/

namespace SqlModels

/-- A column under the name it has by now, with what its declaration says. -/
structure DeclaredColumn (τ : Type := Sql.DataType) where
  name : String
  spec : Sql.ColumnSpec τ

structure DeclaredTable (τ : Type := Sql.DataType) where
  name : String
  columns : List (DeclaredColumn τ)

/-- Changes the first item that passes a test, if there is one. -/
def modifyFirst {α : Type} (p : α → Bool) (f : α → α) : List α → List α
  | [] => []
  | a :: rest => if p a then f a :: rest else a :: modifyFirst p f rest

namespace DeclaredTable

variable {τ υ : Type}

def editColumn (t : DeclaredTable τ) (name : String) (edit : DeclaredColumn τ → DeclaredColumn τ) :
    DeclaredTable τ :=
  { t with columns := modifyFirst (·.name == name) edit t.columns }

/-- One operation on a table. A change of a column puts a new declaration in its place. -/
def alter (t : DeclaredTable τ) : Sql.AlterOp τ → DeclaredTable τ
  | .addColumn d => { t with columns := t.columns ++ [⟨d.name.value, d.spec⟩] }
  | .renameTable newName => { t with name := newName.last }
  | .renameColumn old new => t.editColumn old.value fun c => { c with name := new.value }
  | .changeColumn old new type options =>
    t.editColumn old.value fun _ => ⟨new.value, type, options⟩
  | .dropColumn name _ => { t with columns := t.columns.eraseP (·.name == name.value) }
  | _ => t

def ofDefinition (d : Sql.CreateTable τ) : DeclaredTable τ :=
  ⟨d.name.last, d.columns.map fun c => ⟨c.name.value, c.spec⟩⟩

/-- Operations on a table, each of them on the name it has by then. -/
def alterAll (name : Sql.Name) : List (Sql.AlterOp τ) → List (DeclaredTable τ) →
    List (DeclaredTable τ)
  | [], tables => tables
  | op :: rest, tables =>
    alterAll (op.nameBehind name) rest (modifyFirst (·.name == name.last) (·.alter op) tables)

/-- One statement that is not refused. -/
def step (tables : List (DeclaredTable τ)) : Sql.Statement τ → List (DeclaredTable τ)
  | .createTable d =>
    if tables.any (·.name == d.name.last) then tables else tables ++ [ofDefinition d]
  | .alterTable name ops => alterAll name ops tables
  | .dropTables _ names =>
    names.foldl (fun tables name => tables.filter (·.name ≠ name.last)) tables
  | .other => tables

/-- The tables that statements build up from nothing, where none is refused. -/
def replay (statements : List (Sql.Statement τ)) : List (DeclaredTable τ) :=
  statements.foldl step []

end DeclaredTable

/-- The column that a declaration makes under a name. -/
def Sql.ColumnSpec.column (spec : Sql.ColumnSpec) (name : String) : Column :=
  (Column.declare name spec.type spec.options).1

def DeclaredColumn.column (c : DeclaredColumn) : Column :=
  c.spec.column c.name

/-- That the columns of a table are what declarations say, one by one. -/
structure Table.DeclaredAs (u : Table) (t : DeclaredTable) : Prop where
  name : u.name = t.name
  columns : u.columns = t.columns.map DeclaredColumn.column

section ModifyFirst

variable {α β : Type} {p : α → Bool} {f : α → α}

theorem modify_eq_modifyFirst {items : List α} {i : Nat} (h : items.findIdx? p = some i) :
    items.modify i f = modifyFirst p f items := by
  induction items generalizing i with
  | nil => cases h
  | cons a rest ih =>
    rw [List.findIdx?_cons] at h
    rw [modifyFirst]
    split at h
    · next ha =>
      obtain rfl := Option.some.inj h
      rw [if_pos ha, List.modify_zero_cons]
    · next ha =>
      obtain ⟨j, hj, rfl⟩ := Option.map_eq_some_iff.1 h
      rw [if_neg ha, List.modify_succ_cons, ih hj]

theorem modifyFirst_map {g : β → α} {q : β → Bool} {f' : β → β} (hp : ∀ b, p (g b) = q b)
    (hf : ∀ b, f (g b) = g (f' b)) (items : List β) :
    modifyFirst p f (items.map g) = (modifyFirst q f' items).map g := by
  induction items with
  | nil => rfl
  | cons b rest ih =>
    rw [List.map_cons, modifyFirst, modifyFirst, hp, hf, ih]
    split <;> rfl

theorem forall_modifyFirst {P : α → Prop} {items : List α} (h : ∀ a ∈ items, P a)
    (hf : ∀ a, P a → P (f a)) : ∀ a ∈ modifyFirst p f items, P a := by
  induction items with
  | nil => exact h
  | cons a rest ih =>
    obtain ⟨ha, hrest⟩ := List.forall_mem_cons.1 h
    rw [modifyFirst]
    split
    · exact List.forall_mem_cons.2 ⟨hf a ha, hrest⟩
    · exact List.forall_mem_cons.2 ⟨ha, ih hrest⟩

end ModifyFirst

namespace Table

variable {u after : Table} {t : DeclaredTable}

theorem edit_declaredAs {name : String} {i : Nat} {edit : Column → Column}
    {editDeclared : DeclaredColumn → DeclaredColumn} (h : u.DeclaredAs t)
    (hi : u.columns.findIdx? (·.name == name) = some i)
    (hedit : ∀ c : DeclaredColumn, edit c.column = (editDeclared c).column)
    (hname : after.name = u.name) (hcolumns : after.columns = u.columns.modify i edit) :
    after.DeclaredAs (t.editColumn name editDeclared) where
  name := hname.trans h.name
  columns := by
    rw [hcolumns, modify_eq_modifyFirst hi, h.columns]
    exact modifyFirst_map (fun _ => rfl) hedit t.columns

/-- Every operation on a table changes its declarations as it changes its columns. -/
theorem DeclaredAs.alter {op : Sql.AlterOp} (h : u.DeclaredAs t)
    (hrun : (alter op).run u = .ok () after) : after.DeclaredAs (t.alter op) := by
  cases op with
  | addColumn d =>
    obtain rfl : u.addColumn d = after := by simpa [Table.alter] using hrun
    refine ⟨h.name, ?_⟩
    rw [addColumn_eq, DeclaredTable.alter, List.map_append, h.columns]
    rfl
  | renameColumn old new =>
    obtain ⟨i, hi, hchange⟩ := lookup_index hrun
    obtain ⟨-, rfl⟩ := EStateM.Result.ok.inj hchange
    exact edit_declaredAs h hi (fun _ => rfl) rfl rfl
  | changeColumn old new type options =>
    obtain ⟨i, hi, hchange⟩ := lookup_index hrun
    have hafter : after.name = u.name ∧
        after.columns = u.columns.set i (Column.declare new.value type options).1 := by
      cases hprimary : (Column.declare new.value type options).2 <;>
        simp [hprimary, addKey_eq, renameKey_eq] at hchange <;> simp [← hchange]
    refine edit_declaredAs h hi (fun _ => ?_) hafter.1 (hafter.2.trans (List.set_eq_modify _ _ _))
    rfl
  | dropColumn name ifExists =>
    obtain ⟨i, hi, hchange⟩ := lookup_index hrun
    obtain ⟨-, rfl⟩ := EStateM.Result.ok.inj hchange
    have herase : u.columns.eraseIdx i = u.columns.eraseP (·.name == name.value) := by
      rw [List.eraseP_eq_eraseIdx, hi]
    refine ⟨h.name, herase.trans ?_⟩
    rw [h.columns, List.eraseP_map]
    rfl
  | addConstraint constraint =>
    cases constraint with
    | primaryKey columns =>
      obtain ⟨-, rfl⟩ := setPrimaryKey_ok hrun
      exact ⟨h.name, h.columns⟩
    | _ =>
      obtain rfl : u = after := by simpa [Table.alter] using hrun
      exact h
  | dropPrimaryKey =>
    obtain rfl : { u with primaryKey := [] } = after := by simpa [Table.alter] using hrun
    exact ⟨h.name, h.columns⟩
  | _ => simp [Table.alter] at hrun

theorem declaredAs_ofDefinition (d : Sql.CreateTable) :
    (ofDefinition d).DeclaredAs (DeclaredTable.ofDefinition d) := by
  have hcolumns (ds : List Sql.ColumnDef) (u : Table) : (ds.foldl addColumn u).columns =
      u.columns ++ ds.map fun d => d.spec.column d.name.value := by
    induction ds generalizing u with
    | nil => simp
    | cons d ds ih =>
      rw [List.foldl_cons, ih, addColumn_eq, List.map_cons, List.append_cons]
      rfl
  refine ⟨name_ofDefinition d, ?_⟩
  rw [ofDefinition, hcolumns, DeclaredTable.ofDefinition, List.map_map]
  rfl

end Table

namespace Schema

variable {s after : Schema} {tables : List DeclaredTable}

/-- Every table of a schema is as it is declared. -/
def DeclaredAs (s : Schema) (tables : List DeclaredTable) : Prop :=
  List.Forall₂ Table.DeclaredAs s.tables tables

theorem DeclaredAs.exists_table (h : s.DeclaredAs tables) :
    ∀ u ∈ s.tables, ∃ t ∈ tables, u.DeclaredAs t := by
  obtain ⟨us⟩ := s
  change List.Forall₂ Table.DeclaredAs us tables at h
  induction h with
  | nil => exact nofun
  | cons hfirst _ ih =>
    refine List.forall_mem_cons.2 ⟨⟨_, List.mem_cons_self, hfirst⟩, fun u hu => ?_⟩
    obtain ⟨t, ht, hut⟩ := ih u hu
    exact ⟨t, List.mem_cons_of_mem _ ht, hut⟩

theorem DeclaredAs.any_iff (h : s.DeclaredAs tables) (name : String) :
    s.contains name = tables.any (·.name == name) := by
  obtain ⟨us⟩ := s
  rw [contains]
  change List.Forall₂ Table.DeclaredAs us tables at h
  induction h with
  | nil => rfl
  | cons hfirst _ ih => simp [hfirst.name, ih]

theorem DeclaredAs.update {name : String} {change : Table.Change Unit}
    {edit : DeclaredTable → DeclaredTable} (h : s.DeclaredAs tables)
    (hchange : ∀ u t changed, Table.DeclaredAs u t → change.run u = .ok () changed →
      changed.DeclaredAs (edit t))
    (hrun : (update name change).run s = .ok () after) :
    after.DeclaredAs (modifyFirst (·.name == name) edit tables) := by
  obtain ⟨us⟩ := s
  rw [update_run] at hrun
  cases hus : Table.changeFirst name change us with
  | error e changed => simp [hus] at hrun
  | ok _ changed =>
    obtain rfl : (⟨changed⟩ : Schema) = after := by simpa [hus] using hrun
    clear hrun
    change List.Forall₂ Table.DeclaredAs us tables at h
    induction h generalizing changed with
    | nil => cases hus
    | @cons u t us tables hfirst hrest ih =>
      rw [modifyFirst, ← hfirst.name]
      rcases Table.changeFirst_cons_eq_ok.1 hus with ⟨hname, u', hu', rfl⟩ | ⟨hname, us', hus', rfl⟩
      · rw [if_pos (by simpa using hname)]
        exact .cons (hchange u t u' hfirst hu') hrest
      · rw [if_neg (by simpa using hname)]
        exact .cons hfirst (ih us' hus')

/-- An operation on a table, a new name of it among them. -/
theorem DeclaredAs.alter {name : Sql.Name} {op : Sql.AlterOp} (h : s.DeclaredAs tables)
    (hrun : (step (.alterTable name [op])).run s = .ok () after) :
    after.DeclaredAs (modifyFirst (·.name == name.last) (·.alter op) tables) := by
  by_cases hrename : ∃ newName, op = .renameTable newName
  · obtain ⟨newName, rfl⟩ := hrename
    rw [step_rename] at hrun
    refine h.update (fun u t changed hu hchange => ?_) (rename_ok hrun).2
    obtain ⟨-, rfl⟩ := EStateM.Result.ok.inj hchange
    exact ⟨rfl, hu.columns⟩
  · rw [not_exists] at hrename
    rw [step_operation name hrename] at hrun
    exact h.update (fun u t changed hu hchange => hu.alter hchange) hrun

theorem DeclaredAs.alterAll {name : Sql.Name} {ops : List Sql.AlterOp} (h : s.DeclaredAs tables)
    (hrun : (alterAll name.last ops).run s = .ok () after) :
    after.DeclaredAs (DeclaredTable.alterAll name ops tables) := by
  induction ops generalizing name s tables with
  | nil =>
    obtain ⟨-, rfl⟩ := EStateM.Result.ok.inj hrun
    exact h
  | cons op rest ih =>
    rw [Schema.alterAll, alterOne_bind, EStateM.run_bind] at hrun
    cases hfirst : (step (.alterTable name [op])).run s with
    | ok _ next => exact ih (h.alter hfirst) (by simpa only [hfirst] using hrun)
    | error e next => simp [hfirst] at hrun

theorem DeclaredAs.filter (h : s.DeclaredAs tables) (name : String) :
    DeclaredAs ⟨s.tables.filter (·.name ≠ name)⟩ (tables.filter (·.name ≠ name)) := by
  obtain ⟨us⟩ := s
  change List.Forall₂ Table.DeclaredAs us tables at h
  induction h with
  | nil => exact .nil
  | cons hfirst _ ih =>
    simp only [DeclaredAs, List.filter_cons, hfirst.name] at ih ⊢
    split
    · exact .cons hfirst ih
    · exact ih

theorem DeclaredAs.dropAll {ifExists : Bool} {names : List Sql.Name} (h : s.DeclaredAs tables)
    (hrun : (dropAll ifExists (names.map Sql.Name.last)).run s = .ok () after) :
    after.DeclaredAs
      (names.foldl (fun tables name => tables.filter (·.name ≠ name.last)) tables) := by
  induction names generalizing s tables with
  | nil =>
    obtain ⟨-, rfl⟩ := EStateM.Result.ok.inj hrun
    exact h
  | cons name rest ih =>
    rw [dropAll_eq_forM] at hrun ih
    simp only [List.map_cons, List.forM_eq_forM, List.forM_cons, EStateM.run_bind] at hrun ih
    cases hfirst : (step (.dropTables ifExists [name])).run s with
    | ok _ next =>
      obtain rfl := drop_ok hfirst
      exact ih (h.filter name.last) (by simpa only [hfirst] using hrun)
    | error e next => simp [hfirst] at hrun

/-- Every statement that is not refused keeps tables as they are declared. -/
theorem DeclaredAs.step {statement : Sql.Statement} (h : s.DeclaredAs tables)
    (hrun : (step statement).run s = .ok () after) :
    after.DeclaredAs (DeclaredTable.step tables statement) := by
  cases statement with
  | createTable d =>
    rw [DeclaredTable.step, ← h.any_iff]
    rcases create_ok hrun with ⟨hc, rfl⟩ | ⟨hc, rfl⟩
    · rw [if_pos hc]
      exact h
    · rw [if_neg (by simp [hc])]
      exact List.rel_append h (.cons (Table.declaredAs_ofDefinition d) .nil)
  | alterTable name ops => exact h.alterAll hrun
  | dropTables ifExists names => exact h.dropAll hrun
  | other =>
    obtain ⟨-, rfl⟩ := EStateM.Result.ok.inj hrun
    exact h

theorem DeclaredAs.run {statements : List Sql.Statement} (h : s.DeclaredAs tables)
    (hrun : (statements.forM Schema.step).run s = .ok () after) :
    after.DeclaredAs (statements.foldl DeclaredTable.step tables) := by
  induction statements generalizing s tables with
  | nil =>
    obtain ⟨-, rfl⟩ := EStateM.Result.ok.inj hrun
    exact h
  | cons statement rest ih =>
    simp only [List.forM_eq_forM, List.forM_cons, EStateM.run_bind] at hrun ih
    cases hfirst : (Schema.step statement).run s with
    | ok _ next => exact ih (h.step hfirst) (by simpa only [hfirst] using hrun)
    | error e next => simp [hfirst] at hrun

/-- Where no statement is refused, the columns of the schema are what is declared for them. -/
theorem ofStatements_declaredAs {statements : List Sql.Statement}
    (h : ofStatements statements = .ok s) : s.DeclaredAs (DeclaredTable.replay statements) := by
  have hempty : empty.DeclaredAs [] := .nil
  have hreplay := ofStatements_run statements
  cases hrun : (statements.forM Schema.step).run empty with
  | ok _ after =>
    simp only [hrun] at hreplay
    obtain rfl := Except.ok.inj (h.symm.trans hreplay)
    exact hempty.run hrun
  | error e after =>
    simp only [hrun] at hreplay
    obtain ⟨e, he⟩ := hreplay
    cases h.symm.trans he

end Schema

section Map

variable {τ υ : Type} (g : τ → υ)

def DeclaredColumn.map (c : DeclaredColumn τ) : DeclaredColumn υ :=
  ⟨c.name, g c.spec.type, c.spec.options⟩

namespace DeclaredTable

def map (t : DeclaredTable τ) : DeclaredTable υ :=
  ⟨t.name, t.columns.map (DeclaredColumn.map g)⟩

theorem editColumn_map {name : String} {edit : DeclaredColumn τ → DeclaredColumn τ}
    {edit' : DeclaredColumn υ → DeclaredColumn υ} (hedit : ∀ c, edit' (c.map g) = (edit c).map g)
    (t : DeclaredTable τ) : (t.map g).editColumn name edit' = (t.editColumn name edit).map g := by
  rw [editColumn, map, modifyFirst_map (q := (·.name == name)) (fun _ => rfl) hedit]
  rfl

theorem alter_map (t : DeclaredTable τ) (op : Sql.AlterOp τ) :
    (t.map g).alter (op.map g) = (t.alter op).map g := by
  cases op with
  | addColumn d => simp [alter, map, DeclaredColumn.map, Sql.AlterOp.map, Sql.ColumnDef.map,
      Sql.ColumnDef.spec]
  | renameColumn old new => exact editColumn_map g (fun _ => rfl) t
  | changeColumn old new type options => exact editColumn_map g (fun _ => rfl) t
  | dropColumn name ifExists =>
    rw [Sql.AlterOp.map, alter, map, List.eraseP_map]
    rfl
  | _ => rfl

theorem alterAll_map (name : Sql.Name) (ops : List (Sql.AlterOp τ))
    (tables : List (DeclaredTable τ)) :
    alterAll name (ops.map (Sql.AlterOp.map g)) (tables.map (map g)) =
      (alterAll name ops tables).map (map g) := by
  induction ops generalizing name tables with
  | nil => rfl
  | cons op rest ih =>
    have hname : (op.map g).nameBehind name = op.nameBehind name := by cases op <;> rfl
    rw [List.map_cons, alterAll, alterAll, hname, ← ih,
      modifyFirst_map (fun _ => rfl) fun t => alter_map g t op]
    rfl

theorem step_map (tables : List (DeclaredTable τ)) (statement : Sql.Statement τ) :
    step (tables.map (map g)) (statement.map g) = (step tables statement).map (map g) := by
  cases statement with
  | createTable d =>
    have hnew : ofDefinition (d.map g) = (ofDefinition d).map g := by
      rw [ofDefinition, Sql.CreateTable.map, List.map_map, map, ofDefinition, List.map_map]
      rfl
    rw [Sql.Statement.map, step, step, hnew, List.any_map, apply_ite (List.map (map g)),
      List.map_append]
    rfl
  | alterTable name ops => exact alterAll_map g name ops tables
  | dropTables ifExists names =>
    simp only [Sql.Statement.map, step]
    induction names generalizing tables with
    | nil => rfl
    | cons name rest ih =>
      rw [List.foldl_cons, List.foldl_cons, ← ih, List.filter_map]
      rfl
  | other => rfl

/-- Declarations are kept with whatever they tell of types. -/
theorem replay_map (statements : List (Sql.Statement τ)) :
    replay (statements.map (Sql.Statement.map g)) = (replay statements).map (map g) := by
  have hsteps (tables : List (DeclaredTable τ)) :
      (statements.map (Sql.Statement.map g)).foldl step (tables.map (map g)) =
        (statements.foldl step tables).map (map g) := by
    induction statements generalizing tables with
    | nil => rfl
    | cons statement rest ih => rw [List.map_cons, List.foldl_cons, step_map, ih, List.foldl_cons]
  exact hsteps []

end DeclaredTable

end Map

section Keeps

variable {τ : Type} (N : String → Prop) (C : DeclaredColumn τ → Prop)

/-- That an operation keeps a property of the names of tables and one of their columns. -/
def Sql.AlterOp.Keeps : Sql.AlterOp τ → Prop
  | .addColumn d => C ⟨d.name.value, d.spec⟩
  | .renameTable newName => N newName.last
  | .renameColumn _ new => ∀ c, C c → C { c with name := new.value }
  | .changeColumn _ new type options => C ⟨new.value, type, options⟩
  | _ => True

def Sql.Statement.Keeps : Sql.Statement τ → Prop
  | .createTable d => N d.name.last ∧ ∀ c ∈ d.columns, C ⟨c.name.value, c.spec⟩
  | .alterTable _ ops => ∀ op ∈ ops, op.Keeps N C
  | _ => True

theorem Sql.Statement.keeps_of_specs {P : Sql.ColumnSpec τ → Prop} {statement : Sql.Statement τ}
    (h : ∀ spec ∈ statement.specs, P spec) :
    statement.Keeps (fun _ => True) fun c => P c.spec := by
  cases statement with
  | createTable d => exact ⟨trivial, List.forall_mem_map.1 h⟩
  | alterTable name ops =>
    intro op hop
    have hspecs := List.forall_mem_flatMap.1 h op hop
    cases op with
    | addColumn d => exact hspecs _ List.mem_cons_self
    | changeColumn old new type options => exact hspecs _ List.mem_cons_self
    | renameColumn old new => exact fun _ hc => hc
    | _ => trivial
  | _ => trivial

namespace DeclaredTable

structure Has (t : DeclaredTable τ) : Prop where
  name : N t.name
  columns : ∀ c ∈ t.columns, C c

variable {N C} {tables : List (DeclaredTable τ)}

theorem Has.alter {t : DeclaredTable τ} {op : Sql.AlterOp τ} (ht : t.Has N C) (hop : op.Keeps N C) :
    (t.alter op).Has N C := by
  cases op with
  | addColumn d =>
    exact ⟨ht.name, List.forall_mem_append.2 ⟨ht.columns, List.forall_mem_singleton.2 hop⟩⟩
  | renameTable newName => exact ⟨hop, ht.columns⟩
  | renameColumn old new => exact ⟨ht.name, forall_modifyFirst ht.columns hop⟩
  | changeColumn old new type options =>
    exact ⟨ht.name, forall_modifyFirst ht.columns fun _ _ => hop⟩
  | dropColumn name ifExists =>
    exact ⟨ht.name, fun c hc => ht.columns c (List.mem_of_mem_eraseP hc)⟩
  | _ => exact ht

theorem step_has {statement : Sql.Statement τ} (h : ∀ t ∈ tables, t.Has N C)
    (hstatement : statement.Keeps N C) : ∀ t ∈ step tables statement, t.Has N C := by
  cases statement with
  | createTable d =>
    rw [step]
    split
    · exact h
    · obtain ⟨hname, hcolumns⟩ := hstatement
      refine List.forall_mem_append.2 ⟨h, List.forall_mem_singleton.2 ⟨hname, ?_⟩⟩
      exact List.forall_mem_map.2 hcolumns
  | alterTable name ops =>
    rw [step]
    induction ops generalizing name tables with
    | nil => exact h
    | cons op rest ih =>
      obtain ⟨hop, hrest⟩ := List.forall_mem_cons.1 hstatement
      exact ih (forall_modifyFirst h fun t ht => ht.alter hop) _ hrest
  | dropTables ifExists names =>
    rw [step]
    clear hstatement
    induction names generalizing tables with
    | nil => exact h
    | cons name rest ih => exact ih fun t ht => h t (List.mem_of_mem_filter ht)
  | other => exact h

/-- What all statements keep is true of the tables that they build up. -/
theorem replay_has {statements : List (Sql.Statement τ)}
    (h : ∀ statement ∈ statements, statement.Keeps N C) : ∀ t ∈ replay statements, t.Has N C := by
  have hsteps {tables : List (DeclaredTable τ)} (htables : ∀ t ∈ tables, t.Has N C) :
      ∀ t ∈ statements.foldl step tables, t.Has N C := by
    induction statements generalizing tables with
    | nil => exact htables
    | cons statement rest ih =>
      obtain ⟨hfirst, hrest⟩ := List.forall_mem_cons.1 h
      exact ih hrest (step_has htables hfirst)
  exact hsteps (List.forall_mem_nil _)

/-- What is known of all that statements declare is known of what they declare of any column. -/
theorem replay_specs {P : Sql.ColumnSpec τ → Prop} {statements : List (Sql.Statement τ)}
    (h : ∀ statement ∈ statements, ∀ spec ∈ statement.specs, P spec) :
    ∀ t ∈ replay statements, ∀ c ∈ t.columns, P c.spec := fun t ht =>
  (replay_has (fun statement hstatement => Sql.Statement.keeps_of_specs (h statement hstatement))
    t ht).columns

end DeclaredTable

end Keeps

end SqlModels
