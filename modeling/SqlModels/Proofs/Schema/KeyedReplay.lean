import SqlModels.Proofs.Model.Mapping
import SqlModels.Proofs.Schema.Keyed

/-!
Statements on marked tables, and the replay of statements as a run on these. The replay keeps the
tables sound and moves keys as marks move, up to the first part of a statement that is refused.
-/

namespace SqlModels

/-- The attribute of a marked column; the mark is its own. -/
def KeyedColumn.attribute (policy : TypePolicy) (c : KeyedColumn) : Except Error Attribute :=
  (Attribute.ofColumn policy [] c.column).map fun a => { a with primaryKey := c.isKey }

namespace KeyedTable

/-- The model has the name of the table and the attributes of its columns in their order. -/
def Describes (policy : TypePolicy) (t : KeyedTable) (m : Model) : Prop :=
  m.name = t.name ∧ List.Forall₂ (fun c a => c.attribute policy = .ok a) t.columns m.attributes

/-- Changes the first table of a name. -/
def changeFirst (name : String) (change : KeyedTable → Option KeyedTable) :
    List KeyedTable → Option (List KeyedTable)
  | [] => none
  | t :: rest =>
    if t.name = name then (change t).map (· :: rest)
    else (changeFirst name change rest).map (t :: ·)

/-- Gives the table of a name a new one, which no table has. -/
def rename (name newName : String) (tables : List KeyedTable) : Option (List KeyedTable) :=
  if newName ∈ tables.map KeyedTable.name then none
  else changeFirst name (fun t => some { t with name := newName }) tables

/-- One operation on the table of a name. -/
def alterOne (name : String) (op : Sql.AlterOp) (tables : List KeyedTable) :
    Option (List KeyedTable) :=
  match op with
  | .renameTable newName => rename name newName.last tables
  | op => changeFirst name (·.alter op) tables

/-- Operations on a table, each of them on the name it has by then. -/
def alterAll (name : Sql.Name) : List Sql.AlterOp → List KeyedTable → Option (List KeyedTable)
  | [], tables => some tables
  | op :: rest, tables => (alterOne name.last op tables).bind (alterAll (op.nameBehind name) rest)

/-- Drops the table of a name; a missing one is refused unless `ifExists`. -/
def drop (ifExists : Bool) (tables : List KeyedTable) (name : Sql.Name) :
    Option (List KeyedTable) :=
  if name.last ∈ tables.map KeyedTable.name then some (tables.filter (·.name ≠ name.last))
  else if ifExists then some tables
  else none

/-- Appends a new table; one of its name must not exist, unless the definition allows for that. -/
def create (d : Sql.CreateTable) (tables : List KeyedTable) : Option (List KeyedTable) :=
  if d.name.last ∈ tables.map KeyedTable.name then
    if d.ifNotExists then some tables else none
  else some (tables ++ [ofDefinition d])

/-- One statement. -/
def step (tables : List KeyedTable) : Sql.Statement → Option (List KeyedTable)
  | .createTable d => create d tables
  | .alterTable name ops => alterAll name ops tables
  | .dropTables ifExists names => names.foldlM (drop ifExists) tables
  | .other => some tables

/-- The tables that statements build up from nothing. -/
def replay (statements : List Sql.Statement) : Option (List KeyedTable) :=
  statements.foldlM step []

theorem alterAll_eq_foldlM (name : Sql.Name) (ops : List Sql.AlterOp) (tables : List KeyedTable) :
    alterAll name ops tables = (Sql.AlterOp.statements name ops).foldlM step tables := by
  induction ops generalizing name tables with
  | nil => rfl
  | cons op rest ih =>
    have htail := funext (ih (op.nameBehind name))
    simp [alterAll, Sql.AlterOp.statements, step, htail]

theorem step_eq_foldlM (tables : List KeyedTable) (statement : Sql.Statement) :
    step tables statement = statement.parts.foldlM step tables := by
  cases statement with
  | alterTable name ops => exact alterAll_eq_foldlM name ops tables
  | dropTables ifExists names =>
    rw [Sql.Statement.parts, List.foldlM_map]
    simp [step]
  | createTable _ | other => simp [Sql.Statement.parts]

theorem run_eq_foldlM (statements : List Sql.Statement) (tables : List KeyedTable) :
    statements.foldlM step tables =
      (statements.flatMap Sql.Statement.parts).foldlM step tables := by
  induction statements generalizing tables with
  | nil => rfl
  | cons statement rest ih =>
    rw [List.foldlM_cons, List.flatMap_cons, List.foldlM_append, step_eq_foldlM]
    exact congrArg _ (funext ih)

end KeyedTable

namespace Schema

/-- The tables with their marks. -/
def keyed (s : Schema) : List KeyedTable :=
  s.tables.map Table.keyed

/-- In no table do two columns share a name. -/
def NamesApart (s : Schema) : Prop :=
  ∀ t ∈ s.tables, t.names.Nodup

def Sound (s : Schema) : Prop :=
  ∀ t ∈ s.tables, t.Sound

/-- A change of schemas does what a change of marked tables does, unless it makes two columns of a
table share a name. -/
def Follows (change : Change Unit) (keyedChange : List KeyedTable → Option (List KeyedTable)) :
    Prop :=
  ∀ s : Schema, s.Sound →
    match change.run s with
    | .ok () after => after.NamesApart → keyedChange s.keyed = some after.keyed ∧ after.Sound
    | .error _ _ => keyedChange s.keyed = none

theorem mem_names_iff {s : Schema} {name : String} :
    name ∈ s.keyed.map KeyedTable.name ↔ s.contains name = true := by
  simp [keyed, contains]

theorem changeFirst_follows {change : Table.Change Unit}
    {keyedChange : KeyedTable → Option KeyedTable} (h : Table.Follows change keyedChange)
    (name : String) {tables : List Table} (hs : ∀ t ∈ tables, t.Sound) :
    match Table.changeFirst name change tables with
    | .ok () after => (∀ t ∈ after, t.names.Nodup) →
      KeyedTable.changeFirst name keyedChange (tables.map Table.keyed) =
        some (after.map Table.keyed) ∧ ∀ t ∈ after, t.Sound
    | .error _ _ => KeyedTable.changeFirst name keyedChange (tables.map Table.keyed) = none := by
  induction tables with
  | nil => rfl
  | cons t rest ih =>
    obtain ⟨ht, hrest⟩ := List.forall_mem_cons.1 hs
    rw [List.map_cons, Table.changeFirst, KeyedTable.changeFirst, Table.keyed_name]
    by_cases hname : t.name = name
    · simp only [if_pos hname]
      have hfirst := h t ht
      cases hrun : change.run t with
      | ok _ changed =>
        simp only [hrun] at hfirst ⊢
        intro hapart
        obtain ⟨hkeyed, hsound⟩ := hfirst (hapart changed List.mem_cons_self)
        exact ⟨by rw [hkeyed]; rfl, List.forall_mem_cons.2 ⟨hsound, hrest⟩⟩
      | error e changed =>
        simp only [hrun] at hfirst ⊢
        rw [hfirst]
        rfl
    · simp only [if_neg hname]
      have hbehind := ih hrest
      cases hrun : Table.changeFirst name change rest with
      | ok _ changed =>
        simp only [hrun] at hbehind ⊢
        intro hapart
        obtain ⟨hkeyed, hsound⟩ := hbehind (List.forall_mem_cons.1 hapart).2
        exact ⟨by rw [hkeyed]; rfl, List.forall_mem_cons.2 ⟨ht, hsound⟩⟩
      | error e changed =>
        simp only [hrun] at hbehind ⊢
        rw [hbehind]
        rfl

theorem update_follows {change : Table.Change Unit}
    {keyedChange : KeyedTable → Option KeyedTable} (h : Table.Follows change keyedChange)
    (name : String) : Follows (update name change) (KeyedTable.changeFirst name keyedChange) := by
  intro s hs
  have htables := changeFirst_follows h name hs
  rw [update_run]
  cases hrun : Table.changeFirst name change s.tables <;> simp only [hrun] at htables ⊢ <;>
    exact htables

theorem rename_follows (name newName : String) :
    Follows (rename name newName) (KeyedTable.rename name newName) := by
  intro s hs
  have hrename : Table.Follows (modify fun t => { t with name := newName })
      fun t => some { t with name := newName } := fun t ht hapart => ⟨rfl, ⟨ht.apart, ht.declared⟩⟩
  have hupdate := update_follows hrename name s hs
  cases hc : s.contains newName with
  | true => simp [rename, KeyedTable.rename, mem_names_iff, hc]
  | false => simpa [rename, KeyedTable.rename, mem_names_iff, hc] using hupdate

theorem alter_follows (name : Sql.Name) (op : Sql.AlterOp) :
    Follows (step (.alterTable name [op])) (KeyedTable.step · (.alterTable name [op])) := by
  have hkeyed (tables : List KeyedTable) : KeyedTable.step tables (.alterTable name [op]) =
      KeyedTable.alterOne name.last op tables := by simp [KeyedTable.step, KeyedTable.alterAll]
  simp only [hkeyed]
  cases op with
  | renameTable newName =>
    rw [step_rename]
    exact rename_follows name.last newName.last
  | _ =>
    rw [step_operation name (by simp)]
    exact update_follows (Table.alter_follows _) name.last

theorem drop_follows (ifExists : Bool) (name : Sql.Name) :
    Follows (step (.dropTables ifExists [name]))
      (KeyedTable.step · (.dropTables ifExists [name])) := by
  intro s hs
  have hkeyed : KeyedTable.step s.keyed (.dropTables ifExists [name]) =
      KeyedTable.drop ifExists s.keyed name := by simp [KeyedTable.step]
  simp only [hkeyed, KeyedTable.drop, mem_names_iff]
  cases hc : s.contains name.last with
  | true =>
    have hrun : (step (.dropTables ifExists [name])).run s =
        .ok () ⟨s.tables.filter (·.name ≠ name.last)⟩ := by simp [step, dropAll, dropOne, hc]
    have hfilter : s.keyed.filter (·.name ≠ name.last) =
        (s.tables.filter (·.name ≠ name.last)).map Table.keyed := List.filter_map
    simp only [hrun, if_true, hfilter]
    exact fun _ => ⟨rfl, fun t ht => hs t (List.mem_of_mem_filter ht)⟩
  | false => cases ifExists <;> simp [step, dropAll, dropOne, hc, hs]

theorem create_follows (d : Sql.CreateTable)
    (hkeys : ∀ key ∈ d.constraints.flatMap Table.keyOf, key ∈ d.columns.map (·.name.value)) :
    Follows (step (.createTable d)) (KeyedTable.step · (.createTable d)) := by
  intro s hs
  simp only [KeyedTable.step, KeyedTable.create, mem_names_iff]
  cases hc : s.contains d.name.last with
  | true => cases hn : d.ifNotExists <;> simp [step, create, hc, hn, hs]
  | false =>
    have hrun : (step (.createTable d)).run s = .ok () ⟨s.tables ++ [Table.ofDefinition d]⟩ := by
      simp [step, create, hc]
    simp only [hrun]
    intro hapart
    have hnew := hapart _ (List.mem_append_right _ (List.mem_singleton_self _))
    obtain ⟨hkeyed, hsound⟩ := Table.ofDefinition_follows d hnew hkeys
    refine ⟨?_, List.forall_mem_append.2 ⟨hs, List.forall_mem_singleton.2 hsound⟩⟩
    simp [keyed, hkeyed]

theorem part_follows {statement part : Sql.Statement} (h : part ∈ statement.parts)
    (hkeys : ∀ d, statement = .createTable d →
      ∀ key ∈ d.constraints.flatMap Table.keyOf, key ∈ d.columns.map (·.name.value)) :
    Follows (step part) (KeyedTable.step · part) := by
  cases statement with
  | createTable d =>
    obtain rfl := List.mem_singleton.1 h
    exact create_follows d (hkeys d rfl)
  | alterTable name ops =>
    obtain ⟨name, op, -, rfl⟩ := mem_statements h
    exact alter_follows name op
  | dropTables ifExists names =>
    obtain ⟨name, -, rfl⟩ := List.mem_map.1 h
    exact drop_follows ifExists name
  | other =>
    obtain rfl := List.mem_singleton.1 h
    exact fun s hs hapart => ⟨rfl, hs⟩

theorem attribute_keyed (policy : TypePolicy) (key : List String) (c : Column) :
    (⟨c, key.contains c.name⟩ : KeyedColumn).attribute policy =
      Attribute.ofColumn policy key c := by
  unfold KeyedColumn.attribute Attribute.ofColumn
  cases AttributeType.ofColumnType policy c.type c.options.unsigned <;> rfl

theorem describes_keyed_iff (policy : TypePolicy) (t : Table) (m : Model) :
    t.keyed.Describes policy m ↔ Model.ofTable policy t = .ok m := by
  rw [Model.ofTable_eq_ok_iff, KeyedTable.Describes, Table.keyed]
  simp only [List.forall₂_map_left_iff, attribute_keyed]

/-- Behind every part that is carried out, no two columns of a table share a name. -/
def KeepsNamesApart (s : Schema) : List Sql.Statement → Prop
  | [] => True
  | part :: rest =>
    match (step part).run s with
    | .ok () next => next.NamesApart ∧ next.KeepsNamesApart rest
    | .error _ _ => True

/-- A run of parts on schemas is the same run on marked tables. -/
theorem run_follows {parts : List Sql.Statement}
    (hparts : ∀ part ∈ parts, Follows (step part) (KeyedTable.step · part)) {s : Schema}
    (hs : s.Sound) (hapart : s.KeepsNamesApart parts) :
    match (parts.forM step).run s with
    | .ok () after => parts.foldlM KeyedTable.step s.keyed = some after.keyed
    | .error _ _ => parts.foldlM KeyedTable.step s.keyed = none := by
  induction parts generalizing s with
  | nil => rfl
  | cons part rest ih =>
    obtain ⟨hpart, hrest⟩ := List.forall_mem_cons.1 hparts
    have hfirst := hpart s hs
    rw [KeepsNamesApart] at hapart
    simp only [List.forM_eq_forM, List.forM_cons, EStateM.run_bind, List.foldlM_cons] at ih ⊢
    cases hrun : (step part).run s with
    | ok _ next =>
      simp only [hrun] at hfirst hapart ⊢
      obtain ⟨hkeyed, hsound⟩ := hfirst hapart.1
      simpa [hkeyed] using ih hrest hsound hapart.2
    | error e next =>
      simp only [hrun] at hfirst ⊢
      rw [hfirst]
      rfl

/-- The replay of statements keeps the keys of tables as columns with marks of their own would,
unless a part of a statement makes two columns share a name or a definition declares a key that is
no column. A swap of two names within one statement is such a case: behind its first renaming both
columns have one name, and a further renaming does not tell them apart. -/
theorem replay_follows_marks (statements : List Sql.Statement)
    (hapart : empty.KeepsNamesApart (statements.flatMap Sql.Statement.parts))
    (hkeys : ∀ d, .createTable d ∈ statements →
      ∀ key ∈ d.constraints.flatMap Table.keyOf, key ∈ d.columns.map (·.name.value)) :
    match KeyedTable.replay statements with
    | some tables => ∃ schema, ofStatements statements = .ok schema ∧ schema.keyed = tables ∧
        ∀ policy models, Model.ofTables policy schema.tables = .ok models ↔
          List.Forall₂ (KeyedTable.Describes policy) tables models
    | none => ∃ e, ofStatements statements = .error e := by
  have hparts : ∀ part ∈ statements.flatMap Sql.Statement.parts,
      Follows (step part) (KeyedTable.step · part) := by
    intro part hpart
    obtain ⟨statement, hstatement, hpart⟩ := List.mem_flatMap.1 hpart
    exact part_follows hpart fun d hd => hkeys d (hd ▸ hstatement)
  have hrun := run_follows hparts (s := empty) nofun hapart
  have hreplay := ofStatements_run statements
  rw [run_eq_forM] at hreplay
  rw [KeyedTable.replay, KeyedTable.run_eq_foldlM]
  cases h : ((statements.flatMap Sql.Statement.parts).forM step).run empty with
  | ok _ schema =>
    simp only [h] at hrun hreplay
    have hempty : empty.keyed = [] := rfl
    rw [← hempty, hrun]
    refine ⟨schema, hreplay, rfl, fun policy models => ?_⟩
    rw [Model.ofTables_eq_ok_iff, keyed, List.forall₂_map_left_iff]
    simp only [describes_keyed_iff]
  | error e schema =>
    simp only [h] at hrun hreplay
    have hempty : empty.keyed = [] := rfl
    rw [← hempty, hrun]
    exact hreplay

/-- A table whose key columns get other names, as the table does. -/
def reworked : List Sql.Statement :=
  let name (text : String) : Sql.Ident := ⟨text, none⟩
  let int : Sql.DataType := .integer .int none false
  [.createTable ⟨[name "t"], false,
      [⟨name "id", int, [.primaryKey]⟩, ⟨name "a", int, []⟩, ⟨name "b", int, []⟩],
      [.primaryKey [name "b"]]⟩,
    .alterTable [name "t"] [.renameColumn (name "id") (name "key"), .renameTable [name "u"],
      .changeColumn (name "b") (name "id") int [.notNull]],
    .alterTable [name "u"] [.dropColumn (name "key") false,
      .addColumn ⟨name "b", int, [.primaryKey]⟩]]

theorem replay_follows_marks_reworked :
    let tables : List KeyedTable := [⟨"u", [⟨⟨"a", .integer 4, {}⟩, false⟩,
      ⟨⟨"id", .integer 4, { nullable := false }⟩, true⟩, ⟨⟨"b", .integer 4, {}⟩, true⟩]⟩]
    empty.KeepsNamesApart (reworked.flatMap Sql.Statement.parts) ∧
      (∀ d, .createTable d ∈ reworked →
        ∀ key ∈ d.constraints.flatMap Table.keyOf, key ∈ d.columns.map (·.name.value)) ∧
      ∃ schema, ofStatements reworked = .ok schema ∧ schema.keyed = tables ∧
        ∀ policy models, Model.ofTables policy schema.tables = .ok models ↔
          List.Forall₂ (KeyedTable.Describes policy) tables models := by
  have hapart : empty.KeepsNamesApart (reworked.flatMap Sql.Statement.parts) := by
    refine ⟨?_, ?_, ?_, ?_, ?_, ?_, trivial⟩ <;> unfold NamesApart <;> decide
  have hkeys : ∀ d, .createTable d ∈ reworked →
      ∀ key ∈ d.constraints.flatMap Table.keyOf, key ∈ d.columns.map (·.name.value) := by
    intro d hd
    obtain rfl : d = _ := by simpa [reworked] using hd
    decide
  exact ⟨hapart, hkeys, replay_follows_marks reworked hapart hkeys⟩

end Schema

end SqlModels
