import SqlModels.Proofs.Schema.Parts
import Mathlib.Data.List.Nodup

/-!
Tables whose columns carry a mark of belonging to the primary key, as a second account of what the
operations on a table do. The key of a table, which is a list of names, follows the marks as long as
no two columns share a name.
-/

namespace SqlModels

/-- A column and whether it belongs to the primary key. -/
structure KeyedColumn where
  column : Column
  isKey : Bool

namespace KeyedColumn

def name (c : KeyedColumn) : String :=
  c.column.name

def ofDeclaration (name : String) (type : Sql.DataType) (options : List Sql.ColumnOption) :
    KeyedColumn :=
  let (column, primary) := Column.declare name type options
  ⟨column, primary⟩

def ofDefinition (d : Sql.ColumnDef) : KeyedColumn :=
  ofDeclaration d.name.value d.type d.options

def rename (newName : String) (c : KeyedColumn) : KeyedColumn :=
  { c with column := { c.column with name := newName } }

/-- Another column in the same place; it keeps the mark. -/
def replace (new : KeyedColumn) (c : KeyedColumn) : KeyedColumn :=
  { new with isKey := c.isKey || new.isKey }

end KeyedColumn

structure KeyedTable where
  name : String
  columns : List KeyedColumn

namespace KeyedTable

def names (t : KeyedTable) : List String :=
  t.columns.map KeyedColumn.name

/-- Changes the column of a name, of which there has to be one. -/
def editColumn (t : KeyedTable) (name : String) (edit : KeyedColumn → KeyedColumn) :
    Option KeyedTable :=
  if name ∈ t.names then
    some { t with columns := t.columns.map fun c => if c.name = name then edit c else c }
  else none

def dropColumn (t : KeyedTable) (name : String) : Option KeyedTable :=
  if name ∈ t.names then some { t with columns := t.columns.filter (·.name ≠ name) } else none

/-- Marks the columns of the given names and no others. -/
def markOnly (t : KeyedTable) (keys : List String) : KeyedTable :=
  { t with columns := t.columns.map fun c => { c with isKey := keys.contains c.name } }

/-- One operation on a table that keeps its name. -/
def alter (t : KeyedTable) : Sql.AlterOp → Option KeyedTable
  | .addColumn d => some { t with columns := t.columns ++ [.ofDefinition d] }
  | .renameColumn old new => t.editColumn old.value (.rename new.value)
  | .changeColumn old new type options =>
    t.editColumn old.value (.replace (.ofDeclaration new.value type options))
  | .dropPrimaryKey => some (t.markOnly [])
  | .dropColumn name _ => t.dropColumn name.value
  | .addConstraint (.primaryKey columns) =>
    let keys := columns.map Sql.Ident.value
    if keys ⊆ t.names then some (t.markOnly keys) else none
  | .addConstraint _ => some t
  | _ => none

/-- The table of a definition: a column is marked if it or a constraint declares it a key. -/
def ofDefinition (d : Sql.CreateTable) : KeyedTable :=
  ⟨d.name.last, d.columns.map fun c =>
    let declared := KeyedColumn.ofDefinition c
    { declared with
      isKey := declared.isKey || (d.constraints.flatMap Table.keyOf).contains declared.name }⟩

end KeyedTable

section Lookup

variable {columns : List Column} {name : String} {i : Nat}

theorem exists_around (h : (columns.map Column.name).Nodup)
    (hi : columns.findIdx? (·.name == name) = some i) :
    ∃ before c rest, columns = before ++ c :: rest ∧ before.length = i ∧ c.name = name ∧
      (∀ b ∈ before, b.name ≠ name) ∧ ∀ b ∈ rest, b.name ≠ name := by
  obtain ⟨hlt, hname, hfirst⟩ := List.findIdx?_eq_some_iff_getElem.1 hi
  rw [beq_iff_eq] at hname
  refine ⟨columns.take i, columns[i], columns.drop (i + 1), by simp, by simp; omega, hname, ?_⟩
  have hsplit : columns = columns.take i ++ columns[i] :: columns.drop (i + 1) := by simp
  rw [hsplit, List.map_append, List.map_cons, List.nodup_middle, List.nodup_cons,
    ← List.map_append, hname] at h
  rw [← List.forall_mem_append]
  rintro b hb rfl
  exact h.1 (List.mem_map_of_mem hb)

theorem modify_eq_map (h : (columns.map Column.name).Nodup)
    (hi : columns.findIdx? (·.name == name) = some i) (f : Column → Column) :
    columns.modify i f = columns.map fun c => if c.name = name then f c else c := by
  obtain ⟨before, c, rest, rfl, rfl, hc, hbefore, hrest⟩ := exists_around h hi
  have hkeep {part : List Column} (hpart : ∀ b ∈ part, b.name ≠ name) :
      part.map (fun c : Column => if c.name = name then f c else c) = part :=
    (List.map_congr_left fun b hb => if_neg (hpart b hb)).trans (List.map_id' part)
  rw [List.map_append, List.map_cons, if_pos hc, hkeep hbefore, hkeep hrest]
  simp [List.modify_eq_take_cons_drop]

theorem eraseIdx_eq_filter (h : (columns.map Column.name).Nodup)
    (hi : columns.findIdx? (·.name == name) = some i) :
    columns.eraseIdx i = columns.filter (·.name ≠ name) := by
  obtain ⟨before, c, rest, rfl, rfl, hc, hbefore, hrest⟩ := exists_around h hi
  have hkeep {part : List Column} (hpart : ∀ b ∈ part, b.name ≠ name) :
      part.filter (·.name ≠ name) = part :=
    List.filter_eq_self.2 (by simpa using hpart)
  rw [List.eraseIdx_append_of_length_le (Nat.le_refl _), List.filter_append,
    List.filter_cons_of_neg (by simp [hc]), hkeep hbefore, hkeep hrest]
  simp

end Lookup

namespace Table

def names (t : Table) : List String :=
  t.columns.map Column.name

/-- The table with a mark at every column that the key names. -/
def keyed (t : Table) : KeyedTable :=
  ⟨t.name, t.columns.map fun c => ⟨c, t.primaryKey.contains c.name⟩⟩

/-- No two columns share a name, and the key names columns only. -/
structure Sound (t : Table) : Prop where
  apart : t.names.Nodup
  declared : ∀ key ∈ t.primaryKey, key ∈ t.names

@[simp] theorem keyed_name (t : Table) : t.keyed.name = t.name := rfl

@[simp] theorem keyed_names (t : Table) : t.keyed.names = t.names := by
  simp [KeyedTable.names, keyed, names, KeyedColumn.name, Function.comp_def]

theorem hasColumn_iff {t : Table} {name : String} : t.hasColumn name = true ↔ name ∈ t.names := by
  simp [hasColumn, names]

variable {t : Table} {old new : String}

/-- The name that a column has once `old` is called `new`. -/
def renamed (old new name : String) : String :=
  if name = old then new else name

/-- A key behind a change of a column: it takes the new name where that is declared a key, unless it
has it already. -/
def changedKey (keys : List String) (new : String) (isKey : Bool) : List String :=
  if isKey then if keys.contains new then keys else keys ++ [new] else keys

theorem mem_changedKey {keys : List String} {isKey : Bool} {key : String} :
    key ∈ changedKey keys new isKey ↔ key ∈ keys ∨ isKey = true ∧ key = new := by
  unfold changedKey
  by_cases hkeys : new ∈ keys
  · simp only [List.contains_iff_mem, hkeys, if_true, ite_self]
    exact ⟨.inl, fun h => h.elim id fun h => h.2 ▸ hkeys⟩
  · cases isKey <;> simp [hkeys]

theorem renameKey_eq (t : Table) (old new : String) :
    t.renameKey old new = { t with primaryKey := t.primaryKey.map (renamed old new) } := rfl

/-- A key that is renamed with a column goes on naming the same columns. -/
theorem renamed_mem_iff (ht : t.Sound) (h : (t.names.map (renamed old new)).Nodup) {name : String}
    (hname : name ∈ t.names) :
    renamed old new name ∈ t.primaryKey.map (renamed old new) ↔ name ∈ t.primaryKey := by
  refine ⟨fun hmem => ?_, List.mem_map_of_mem⟩
  obtain ⟨key, hkey, heq⟩ := List.mem_map.1 hmem
  exact List.inj_on_of_nodup_map h (ht.declared key hkey) hname heq ▸ hkey

/-- A change of tables does what a change of marked tables does, unless it makes two columns share
a name. -/
def Follows (change : Change Unit) (keyedChange : KeyedTable → Option KeyedTable) : Prop :=
  ∀ t : Table, t.Sound →
    match change.run t with
    | .ok () after => after.names.Nodup → keyedChange t.keyed = some after.keyed ∧ after.Sound
    | .error _ _ => keyedChange t.keyed = none

section Edit

variable {edit : Column → Column} {isKey : Bool} {after : Table} {i : Nat}

/-- A column `old` gives way to one of the name `new`, and the key follows. -/
theorem edit_follows (ht : t.Sound) (hapart : after.names.Nodup) (hold : old ∈ t.names)
    (hi : t.columns.findIdx? (·.name == old) = some i) (hname : after.name = t.name)
    (hcolumns : after.columns = t.columns.modify i edit) (hedit : ∀ c, (edit c).name = new)
    (hkey : ∀ name, name ∈ after.primaryKey ↔
      name ∈ t.primaryKey.map (renamed old new) ∨ isKey = true ∧ name = new) :
    t.keyed.editColumn old (fun c => ⟨edit c.column, c.isKey || isKey⟩) = some after.keyed ∧
      after.Sound := by
  rw [modify_eq_map ht.apart hi] at hcolumns
  have hnames : after.names = t.names.map (renamed old new) := by
    simp only [hcolumns, names, List.map_map]
    refine List.map_congr_left fun c _ => ?_
    simp only [Function.comp_apply, renamed]
    split
    · exact hedit c
    · rfl
  have hrenamed : (t.names.map (renamed old new)).Nodup := hnames ▸ hapart
  refine ⟨?_, hapart, fun name hmem => ?_⟩
  · rw [KeyedTable.editColumn, if_pos (by simpa using hold)]
    simp only [keyed, hname, hcolumns, List.map_map]
    congr 2
    refine List.map_congr_left fun c hc => ?_
    have hmarked := renamed_mem_iff ht hrenamed (List.mem_map_of_mem hc)
    by_cases hcold : c.name = old
    · have hnew : new ∈ after.primaryKey ↔ c.name ∈ t.primaryKey ∨ isKey = true := by
        rw [hkey, ← hmarked, renamed, if_pos hcold, and_iff_left rfl]
      simp [KeyedColumn.name, hcold, hedit, hnew]
    · -- another column of the name `new` would share it with the one that is renamed
      have hcnew : c.name ≠ new := fun hcnew => hcold
        (List.inj_on_of_nodup_map hrenamed (List.mem_map_of_mem hc) hold (by simp [renamed, hcnew]))
      have hsame : c.name ∈ after.primaryKey ↔ c.name ∈ t.primaryKey := by
        rw [hkey, ← hmarked, renamed, if_neg hcold, or_iff_left (fun h => hcnew h.2)]
      simp [KeyedColumn.name, hcold, hsame]
  · rw [hnames]
    rcases (hkey name).1 hmem with hmem | ⟨-, rfl⟩
    · obtain ⟨key, hkey, rfl⟩ := List.mem_map.1 hmem
      exact List.mem_map_of_mem (ht.declared key hkey)
    · exact List.mem_map.2 ⟨old, hold, if_pos rfl⟩

end Edit

/-- A change of the column that a lookup finds. -/
theorem follows_of_lookup {name : String} {change : Nat → Change Unit}
    {keyedChange : KeyedTable → Option KeyedTable}
    (hmissing : ∀ t : Table, name ∉ t.names → keyedChange t.keyed = none)
    (hfound : ∀ (t : Table) (i : Nat), t.Sound → name ∈ t.names →
      t.columns.findIdx? (·.name == name) = some i → ∃ after, (change i).run t = .ok () after ∧
        (after.names.Nodup → keyedChange t.keyed = some after.keyed ∧ after.Sound)) :
    Follows (columnIndex name >>= change) keyedChange := by
  intro t ht
  rw [EStateM.run_bind]
  rcases columnIndex_cases t name with ⟨hname, i, hi, hrun⟩ | ⟨hname, hrun⟩
  · obtain ⟨after, hchange, hafter⟩ := hfound t i ht (hasColumn_iff.1 hname) hi
    simpa only [hrun, hchange] using hafter
  · simpa only [hrun] using hmissing t fun hmem => by simp [hasColumn_iff.2 hmem] at hname

theorem addColumn_eq (t : Table) (d : Sql.ColumnDef) : t.addColumn d =
    let declared := KeyedColumn.ofDefinition d
    { t with
      columns := t.columns ++ [declared.column]
      primaryKey := if declared.isKey then t.primaryKey ++ [declared.name] else t.primaryKey } :=
  rfl

theorem mem_addColumn_key {d : Sql.ColumnDef} {key : String} :
    key ∈ (t.addColumn d).primaryKey ↔
      key ∈ t.primaryKey ∨ (KeyedColumn.ofDefinition d).isKey = true ∧ key = d.name.value := by
  have hname : (KeyedColumn.ofDefinition d).name = d.name.value := rfl
  rw [addColumn_eq, ← hname]
  cases h : (KeyedColumn.ofDefinition d).isKey <;> simp [h]

theorem addColumn_follows (d : Sql.ColumnDef) :
    Follows (modify (·.addColumn d)) fun t =>
      some { t with columns := t.columns ++ [.ofDefinition d] } := by
  intro t ht
  simp only [EStateM.run_modify, addColumn_eq]
  generalize KeyedColumn.ofDefinition d = declared
  have hkey (name : String) :
      name ∈ (if declared.isKey then t.primaryKey ++ [declared.name] else t.primaryKey) ↔
        name ∈ t.primaryKey ∨ declared.isKey = true ∧ name = declared.name := by
    cases declared.isKey <;> simp
  generalize (if declared.isKey then t.primaryKey ++ [declared.name] else t.primaryKey) = keys
    at hkey ⊢
  intro hapart
  have hfresh : declared.name ∉ t.names := by
    simp only [names, List.map_append] at hapart
    exact fun hmem => (List.nodup_append.1 hapart).2.2 _ hmem _ (List.mem_singleton_self _) rfl
  refine ⟨?_, hapart, fun key hmem => ?_⟩
  · have hold (c : Column) (hc : c ∈ t.columns) :
        t.primaryKey.contains c.name = keys.contains c.name := by
      have hother : c.name ≠ declared.name := fun h => hfresh (h ▸ List.mem_map_of_mem hc)
      simp [hkey, hother]
    have hnew : keys.contains declared.column.name = declared.isKey := by
      have hnot : declared.column.name ∉ t.primaryKey := fun h => hfresh (ht.declared _ h)
      simp [hkey, hnot, KeyedColumn.name]
    simp only [keyed, List.map_append, List.map_cons, List.map_nil]
    rw [List.map_congr_left fun c hc => by rw [hold c hc], hnew]
  · simp only [names, List.map_append, List.mem_append]
    rcases (hkey key).1 hmem with hmem | ⟨-, rfl⟩
    · exact .inl (ht.declared key hmem)
    · exact .inr (List.mem_singleton_self _)

theorem renameColumn_follows (old new : String) :
    Follows (renameColumn old new) (·.editColumn old (.rename new)) := by
  refine follows_of_lookup (fun t h => if_neg (by simpa using h)) fun t i ht hold hi => ?_
  refine ⟨⟨t.name, t.columns.modify i fun c => { c with name := new },
    t.primaryKey.map (renamed old new)⟩, rfl, fun hapart => ?_⟩
  have hkey (name : String) : name ∈ t.primaryKey.map (renamed old new) ↔
      name ∈ t.primaryKey.map (renamed old new) ∨ false = true ∧ name = new := by simp
  have hedit := edit_follows ht hapart hold hi rfl rfl (fun _ => rfl) hkey
  simp only [Bool.or_false] at hedit
  exact hedit

theorem addKey_eq (t : Table) (name : String) : t.addKey name =
    { t with primaryKey :=
        if t.primaryKey.contains name then t.primaryKey else t.primaryKey ++ [name] } := by
  unfold addKey
  split <;> rfl

theorem changeColumn_follows (old new : String) (type : Sql.DataType)
    (options : List Sql.ColumnOption) : Follows (changeColumn old new type options)
      (·.editColumn old (.replace (.ofDeclaration new type options))) := by
  refine follows_of_lookup (fun t h => if_neg (by simpa using h)) fun t i ht hold hi => ?_
  let declared := KeyedColumn.ofDeclaration new type options
  let keys := t.primaryKey.map (renamed old new)
  refine ⟨⟨t.name, t.columns.set i declared.column, changedKey keys new declared.isKey⟩,
    ?_, fun hapart => ?_⟩
  · cases h : (Column.declare new type options).2 <;>
      simp [declared, keys, changedKey, KeyedColumn.ofDeclaration, h, addKey_eq, renameKey_eq]
  exact edit_follows ht hapart hold hi rfl (List.set_eq_modify _ _ _) (fun _ => rfl)
    fun _ => mem_changedKey

theorem dropColumn_follows (name : String) : Follows (dropColumn name) (·.dropColumn name) := by
  refine follows_of_lookup (fun t h => if_neg (by simpa using h)) fun t i ht hname hi => ?_
  refine ⟨⟨t.name, t.columns.eraseIdx i, t.primaryKey.filter (· ≠ name)⟩, rfl, fun hapart => ?_⟩
  rw [eraseIdx_eq_filter ht.apart hi] at hapart ⊢
  refine ⟨?_, hapart, fun key hkey => ?_⟩
  · rw [KeyedTable.dropColumn, if_pos (by simpa using hname)]
    simp only [keyed, List.filter_map]
    congr 2
    refine List.map_congr_left fun c hc => ?_
    have hc : c.name ≠ name := of_decide_eq_true (List.mem_filter.1 hc).2
    simp [hc]
  · rw [List.mem_filter] at hkey
    obtain ⟨c, hc, rfl⟩ := List.mem_map.1 (ht.declared key hkey.1)
    exact List.mem_map_of_mem (List.mem_filter.2 ⟨hc, hkey.2⟩)

theorem keyed_markOnly (t : Table) (keys : List String) :
    t.keyed.markOnly keys = { t with primaryKey := keys }.keyed := by
  simp [KeyedTable.markOnly, keyed, KeyedColumn.name]

theorem setPrimaryKey_follows (keys : List String) : Follows (setPrimaryKey keys) fun t =>
    if keys ⊆ t.names then some (t.markOnly keys) else none := by
  intro t ht
  simp only [setPrimaryKey, EStateM.run_bind, checkColumns_run]
  cases h : keys.find? (fun c => !t.hasColumn c) with
  | none =>
    have hkeys : keys ⊆ t.names := fun key hkey =>
      hasColumn_iff.1 (by simpa using List.find?_eq_none.1 h key hkey)
    intro hapart
    rw [keyed_names, if_pos hkeys, keyed_markOnly]
    exact ⟨rfl, hapart, fun key hkey => hkeys hkey⟩
  | some missing =>
    have hmissing : ¬ keys ⊆ t.names := fun hkeys => by
      simpa [hasColumn_iff.2 (hkeys (List.mem_of_find?_eq_some h))] using List.find?_some h
    exact if_neg (by rwa [keyed_names])

/-- Every operation on a table moves the marks as it moves the key. -/
theorem alter_follows (op : Sql.AlterOp) : Follows (alter op) (·.alter op) := by
  cases op with
  | addColumn d => exact addColumn_follows d
  | renameColumn old new => exact renameColumn_follows old.value new.value
  | changeColumn old new type options =>
    exact changeColumn_follows old.value new.value type options
  | dropColumn name ifExists => exact dropColumn_follows name.value
  | addConstraint constraint =>
    cases constraint with
    | primaryKey columns => exact setPrimaryKey_follows (columns.map Sql.Ident.value)
    | _ => exact fun t ht hapart => ⟨rfl, ht⟩
  | dropPrimaryKey =>
    exact fun t ht hapart => ⟨congrArg some (keyed_markOnly t []), hapart, nofun⟩
  | _ => exact fun t ht => rfl

@[simp] theorem names_addColumn (t : Table) (d : Sql.ColumnDef) :
    (t.addColumn d).names = t.names ++ [d.name.value] := by
  simp only [addColumn_eq, names, List.map_append]
  rfl

theorem names_addColumns (t : Table) (ds : List Sql.ColumnDef) :
    (ds.foldl addColumn t).names = t.names ++ ds.map (·.name.value) := by
  induction ds generalizing t with
  | nil => simp
  | cons d ds ih => simp [ih]

theorem addColumns_follows (ds : List Sql.ColumnDef) (ht : t.Sound)
    (hapart : (t.names ++ ds.map (·.name.value)).Nodup) :
    (ds.foldl addColumn t).keyed = ⟨t.name, t.keyed.columns ++ ds.map .ofDefinition⟩ ∧
      (ds.foldl addColumn t).Sound := by
  induction ds generalizing t with
  | nil => exact ⟨by simp [keyed], ht⟩
  | cons d ds ih =>
    have hsplit : ((t.addColumn d).names ++ ds.map (·.name.value)).Nodup := by simpa using hapart
    obtain ⟨hadded, hsound⟩ := addColumn_follows d t ht (List.nodup_append.1 hsplit).1
    obtain ⟨hkeyed, hall⟩ := ih hsound hsplit
    refine ⟨?_, hall⟩
    rw [List.foldl_cons, hkeyed, ← Option.some.inj hadded]
    simp [addColumn_eq]

theorem keyed_moreKeys (t : Table) (keys : List String) :
    { t with primaryKey := t.primaryKey ++ keys }.keyed = ⟨t.name, t.keyed.columns.map fun c =>
      { c with isKey := c.isKey || keys.contains c.name }⟩ := by
  simp [keyed, KeyedColumn.name]

theorem names_ofDefinition (d : Sql.CreateTable) :
    (ofDefinition d).names = d.columns.map (·.name.value) :=
  names_addColumns ⟨d.name.last, [], []⟩ d.columns

theorem name_ofDefinition (d : Sql.CreateTable) : (ofDefinition d).name = d.name.last := by
  have hcolumns (t : Table) (ds : List Sql.ColumnDef) : (ds.foldl addColumn t).name = t.name := by
    induction ds generalizing t with
    | nil => rfl
    | cons d ds ih => exact ih (t.addColumn d)
  exact hcolumns _ d.columns

theorem ofDefinition_follows (d : Sql.CreateTable) (hapart : (ofDefinition d).names.Nodup)
    (hkeys : ∀ key ∈ d.constraints.flatMap keyOf, key ∈ d.columns.map (·.name.value)) :
    (ofDefinition d).keyed = KeyedTable.ofDefinition d ∧ (ofDefinition d).Sound := by
  have hempty : (⟨d.name.last, [], []⟩ : Table).Sound := ⟨List.nodup_nil, nofun⟩
  obtain ⟨hkeyed, hbare⟩ := addColumns_follows d.columns hempty (names_ofDefinition d ▸ hapart)
  refine ⟨?_, hapart, fun key hkey => ?_⟩
  · have hname : (d.columns.foldl addColumn ⟨d.name.last, [], []⟩).name = d.name.last :=
      congrArg KeyedTable.name hkeyed
    rw [ofDefinition, keyed_moreKeys, hkeyed, hname, KeyedTable.ofDefinition]
    simp [keyed]
  · rcases List.mem_append.1 hkey with hkey | hkey
    · exact hbare.declared key hkey
    · exact names_ofDefinition d ▸ hkeys key hkey

end Table

end SqlModels
