import SqlModels.Proofs.Schema.Replay

/-!
The names in a primary key. Whatever statements are replayed, a key names columns of its table, but
for the names that the definition of a table lists as a key without declaring them as columns.
-/

namespace SqlModels

/-- The names that a definition lists as a key without declaring columns of these names. -/
def Sql.CreateTable.undeclaredKeys (d : Sql.CreateTable) : List String :=
  (d.constraints.flatMap Table.keyOf).filter (· ∉ d.columns.map (·.name.value))

namespace Table

/-- Every entry of the key is a column or a loose name. -/
def KeyWithin (loose : String → Prop) (t : Table) : Prop :=
  ∀ key ∈ t.primaryKey, key ∈ t.names ∨ loose key

variable {t after : Table} {loose : String → Prop} {name : String}

/-- An entry of a new key is a column by then, or an old entry whose column is still there. -/
theorem KeyWithin.move (h : t.KeyWithin loose)
    (hkey : ∀ key ∈ after.primaryKey, key ∈ after.names ∨
      key ∈ t.primaryKey ∧ (key ∈ t.names → key ∈ after.names)) : after.KeyWithin loose := by
  intro key hmem
  rcases hkey key hmem with hnew | ⟨hold, hkeep⟩
  · exact .inl hnew
  · exact (h key hold).imp_left hkeep

theorem addColumn_keyWithin (h : t.KeyWithin loose) (d : Sql.ColumnDef) :
    (t.addColumn d).KeyWithin loose := by
  apply h.move
  intro key hkey
  rw [names_addColumn, List.mem_append, List.mem_singleton]
  rcases mem_addColumn_key.1 hkey with hold | ⟨-, hnew⟩
  · exact .inr ⟨hold, .inl⟩
  · exact .inl (.inr hnew)

/-- A column gives way to one of the name `new`, and the key follows. -/
theorem KeyWithin.replace {before rest : List Column} {c d : Column} {old new : String}
    (h : t.KeyWithin loose) (hcolumns : t.columns = before ++ c :: rest) (hold : c.name = old)
    (hafter : after.columns = before ++ d :: rest) (hnew : d.name = new)
    (hkey : ∀ key ∈ after.primaryKey, key = new ∨ key ∈ t.primaryKey.map (renamed old new)) :
    after.KeyWithin loose := by
  apply h.move
  intro key hmem
  have hnames : key ∈ after.names ↔ key = new ∨ key ∈ (before ++ rest).map Column.name := by
    simp only [names, hafter, List.map_append, List.map_cons, List.mem_append, List.mem_cons, hnew]
    tauto
  rw [hnames]
  rcases hkey key hmem with hnew | hmem
  · exact .inl (.inl hnew)
  · obtain ⟨entry, hentry, rfl⟩ := List.mem_map.1 hmem
    unfold renamed
    split
    · exact .inl (.inl rfl)
    · rename_i hother
      -- an entry that is not renamed is that of another column, which stays where it is
      refine .inr ⟨hentry, fun hname => .inr ?_⟩
      simp only [names, hcolumns, List.map_append, List.map_cons, List.mem_append,
        List.mem_cons, hold, hother, false_or] at hname ⊢
      exact hname

theorem KeyWithin.drop {before rest : List Column} {c : Column} (h : t.KeyWithin loose)
    (hcolumns : t.columns = before ++ c :: rest) (hname : c.name = name) :
    KeyWithin loose ⟨t.name, before ++ rest, t.primaryKey.filter (· ≠ name)⟩ := by
  apply h.move
  intro key hkey
  obtain ⟨hmem, hother⟩ := List.mem_filter.1 hkey
  have hother : key ≠ name := of_decide_eq_true hother
  refine .inr ⟨hmem, fun hkept => ?_⟩
  simpa [names, hcolumns, hname, hother] using hkept

/-- Every operation on a table takes the key along with the columns. -/
theorem alter_keyWithin {op : Sql.AlterOp} (h : t.KeyWithin loose)
    (hrun : (alter op).run t = .ok () after) : after.KeyWithin loose := by
  cases alter_ok hrun with
  | addColumn d => exact addColumn_keyWithin h d
  | renameColumn hcolumns hold =>
    exact h.replace hcolumns hold rfl rfl fun key hkey => .inr hkey
  | changeColumn hcolumns hold hdeclared =>
    subst hdeclared
    exact h.replace hcolumns hold rfl rfl fun key hkey =>
      (mem_changedKey.1 hkey).symm.imp_left And.right
  | dropColumn hcolumns hname => exact h.drop hcolumns hname
  | dropPrimaryKey => exact nofun
  | setPrimaryKey hcolumns => exact fun key hkey => .inl (hasColumn_iff.1 (hcolumns key hkey))
  | otherConstraint _ => exact h

theorem addColumns_keyWithin (h : t.KeyWithin loose) (ds : List Sql.ColumnDef) :
    (ds.foldl addColumn t).KeyWithin loose := by
  induction ds generalizing t with
  | nil => exact h
  | cons d ds ih => exact ih (addColumn_keyWithin h d)

theorem ofDefinition_keyWithin (d : Sql.CreateTable) :
    (ofDefinition d).KeyWithin (· ∈ d.undeclaredKeys) := by
  intro key hkey
  rw [names_ofDefinition]
  rcases List.mem_append.1 hkey with hkey | hkey
  · have hempty : KeyWithin (fun _ => False) ⟨d.name.last, [], []⟩ := nofun
    have hcolumn := (addColumns_keyWithin hempty d.columns key hkey).resolve_right id
    exact .inl (names_ofDefinition d ▸ hcolumn)
  · by_cases hdeclared : key ∈ d.columns.map (·.name.value)
    · exact .inl hdeclared
    · exact .inr (List.mem_filter.2 ⟨hkey, decide_eq_true hdeclared⟩)

end Table

namespace Schema

/-- Every entry of a key is a column of its table or a loose name. -/
def KeysWithin (loose : String → Prop) (s : Schema) : Prop :=
  ∀ t ∈ s.tables, t.KeyWithin loose

variable {s after : Schema} {loose : String → Prop}

theorem part_keysWithin {statement part : Sql.Statement} (hpart : part ∈ statement.parts)
    (hloose : ∀ d, statement = .createTable d → ∀ key ∈ d.undeclaredKeys, loose key)
    (hs : s.KeysWithin loose) (hrun : (step part).run s = .ok () after) :
    after.KeysWithin loose := by
  refine part_forall hpart (fun d hd key hkey => ?_) (fun _ _ _ t ht => ht)
    (fun name op _ t changed ht => Table.alter_keyWithin ht) hs hrun
  exact (Table.ofDefinition_keyWithin d key hkey).imp_right (hloose d hd key)

theorem replay_keysWithin (statements : List Sql.Statement) :
    (empty.replayFrom 1 statements).1.KeysWithin fun key =>
      ∃ d, .createTable d ∈ statements ∧ key ∈ d.undeclaredKeys := by
  refine replayFrom_keeps (fun statement hstatement part hpart s after hs hrun => ?_) nofun 1
  exact part_keysWithin hpart (fun d hd key hkey => ⟨d, hd ▸ hstatement, hkey⟩) hs hrun

/-- A key that is added to a table names its columns. -/
theorem addKey_error_iff (name : Sql.Name) (columns : List Sql.Ident) (missing : String) :
    (step (.alterTable name [.addConstraint (.primaryKey columns)])).run s =
        .error (.unknownColumn missing) after ↔
      after = s ∧ ∃ t, s.tables.find? (·.name == name.last) = some t ∧
        (columns.map Sql.Ident.value).find? (fun c => !t.hasColumn c) = some missing := by
  rw [alter_error_iff]
  refine and_congr_right fun _ => ⟨fun hrefuses => ?_, fun ⟨t, ht, hfind⟩ => ?_⟩
  · cases hrefuses with
    | operation _ _ t _ _ ht hop =>
      cases hop with
      | unknownColumn _ hfind => exact ⟨t, ht, hfind⟩
  · exact .operation name _ t _ nofun ht (.unknownColumn missing hfind)

/-- Behind any statements, failing ones among them, an entry of a key that is no column of its table
is one that a definition lists without declaring it. A key that is added later is refused at its
first name that is no column. -/
theorem key_names_columns (statements : List Sql.Statement) :
    (∀ t ∈ (empty.replayFrom 1 statements).1.tables, ∀ key ∈ t.primaryKey,
      t.hasColumn key = true ∨ ∃ d, .createTable d ∈ statements ∧ key ∈ d.undeclaredKeys) ∧
    ∀ (s after : Schema) (name : Sql.Name) (columns : List Sql.Ident) (missing : String),
      (step (.alterTable name [.addConstraint (.primaryKey columns)])).run s =
          .error (.unknownColumn missing) after ↔
        after = s ∧ ∃ t, s.tables.find? (·.name == name.last) = some t ∧
          (columns.map Sql.Ident.value).find? (fun c => !t.hasColumn c) = some missing := by
  refine ⟨fun t ht key hkey => ?_, fun s after => addKey_error_iff⟩
  rw [Table.hasColumn_iff]
  exact replay_keysWithin statements t ht key hkey

/-- A table is created with a key over a column that it does not have. -/
theorem definition_keeps_undeclared_key :
    let d : Sql.CreateTable := ⟨[⟨"t", none⟩], false,
      [⟨⟨"a", none⟩, .integer .int none false, []⟩], [.primaryKey [⟨"b", none⟩]]⟩
    let t : Table := ⟨"t", [⟨"a", .integer 4, {}⟩], ["b"]⟩
    ofStatements [.createTable d] = .ok ⟨[t]⟩ ∧ "b" ∈ t.primaryKey ∧ t.hasColumn "b" = false :=
  ⟨rfl, by decide, rfl⟩

end Schema

end SqlModels
