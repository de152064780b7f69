import SqlModels.Proofs.Model.Mapping
import SqlModels.Proofs.Schema.Names

/-!
Columns that are added to a table behind its definition. They come into the key behind the columns
of the constraints, where the definition would have put them in front of these. The model of a table
does not tell such keys apart, for it only asks which columns are in them.
-/

namespace SqlModels

section Keys

variable {policy : TypePolicy} {t u : Table}

theorem Attribute.ofColumn_perm {key key' : List String} (h : key.Perm key') (c : Column) :
    ofColumn policy key c = ofColumn policy key' c := by
  simp only [ofColumn, h.contains_eq]

/-- That two tables differ in the order of their keys only. -/
structure Table.Reordered (t u : Table) : Prop where
  name : t.name = u.name
  columns : t.columns = u.columns
  key : t.primaryKey.Perm u.primaryKey

theorem Table.Reordered.refl (t : Table) : t.Reordered t :=
  ⟨rfl, rfl, .rfl⟩

namespace Model

theorem attributesOf_reordered (h : t.Reordered u) (columns : List Column) :
    attributesOf policy t columns = attributesOf policy u columns := by
  induction columns with
  | nil => rfl
  | cons c rest ih => simp only [attributesOf, ih, Attribute.ofColumn_perm h.key, h.name]

/-- Whether or not a table has a model, the order of its key does not show. -/
theorem ofTable_reordered (h : t.Reordered u) : ofTable policy t = ofTable policy u := by
  simp only [ofTable, attributesOf_reordered h, h.columns, h.name]

theorem ofTables_reordered {tables others : List Table}
    (h : List.Forall₂ Table.Reordered tables others) :
    ofTables policy tables = ofTables policy others := by
  have hcollect : collect policy tables = collect policy others := by
    induction h with
    | nil => rfl
    | cons htable _ ih => simp only [collect, ofTable_reordered htable, ih]
  simp only [ofTables, hcollect]

end Model

end Keys

namespace Table

/-- The names of the columns that are declared as primary keys, one by one. -/
def inlineKeys (ds : List Sql.ColumnDef) : List String :=
  ((ds.map KeyedColumn.ofDefinition).filter KeyedColumn.isKey).map KeyedColumn.name

theorem inlineKeys_append (ds es : List Sql.ColumnDef) :
    inlineKeys (ds ++ es) = inlineKeys ds ++ inlineKeys es := by
  simp [inlineKeys]

/-- What a table is once columns have been added to it. -/
theorem foldl_addColumn (t : Table) (ds : List Sql.ColumnDef) : ds.foldl addColumn t =
    { t with
      columns := t.columns ++ ds.map fun d => (KeyedColumn.ofDefinition d).column
      primaryKey := t.primaryKey ++ inlineKeys ds } := by
  induction ds generalizing t with
  | nil => simp [inlineKeys]
  | cons d ds ih =>
    rw [List.foldl_cons, ih, addColumn_eq]
    cases hkey : (KeyedColumn.ofDefinition d).isKey <;> simp [inlineKeys, hkey]

theorem ofDefinition_eq (d : Sql.CreateTable) : ofDefinition d =
    { name := d.name.last
      columns := d.columns.map fun d => (KeyedColumn.ofDefinition d).column
      primaryKey := inlineKeys d.columns ++ d.constraints.flatMap keyOf } := by
  simp only [ofDefinition, foldl_addColumn, List.nil_append]

/-- Columns added to a new table make it one that is defined with them, up to the order of the
key. -/
theorem addColumns_reordered (d : Sql.CreateTable) (more : List Sql.ColumnDef) :
    (more.foldl addColumn (ofDefinition d)).Reordered
      (ofDefinition { d with columns := d.columns ++ more }) := by
  simp only [foldl_addColumn, ofDefinition_eq, List.map_append, inlineKeys_append]
  refine ⟨rfl, rfl, ?_⟩
  simp only [List.append_assoc]
  exact List.perm_append_comm.append_left (inlineKeys d.columns)

end Table

namespace Schema

variable {s : Schema} {before : List Table} {t : Table}

/-- Columns are added to the last table by a statement that is addressed to it. -/
theorem addColumns_run {name : Sql.Name} (hbefore : ∀ b ∈ before, b.name ≠ name.last)
    (ht : t.name = name.last) (ds : List Sql.ColumnDef) :
    (step (.alterTable name (ds.map .addColumn))).run ⟨before ++ [t]⟩ =
      .ok () ⟨before ++ [ds.foldl Table.addColumn t]⟩ := by
  induction ds generalizing t with
  | nil => rfl
  | cons d ds ih =>
    have hfirst : (step (.alterTable name [.addColumn d])).run ⟨before ++ [t]⟩ =
        .ok () ⟨before ++ [t.addColumn d]⟩ := by
      rw [step_operation name (by simp), update_located rfl hbefore ht]
      rfl
    rw [List.map_cons, alter_cons, EStateM.run_bind, hfirst]
    exact ih ht

/-- Statements that add columns to the last table do so one after the other. -/
theorem replay_addColumns {late : List (Sql.Name × List Sql.ColumnDef)}
    (hlate : ∀ a ∈ late, a.1.last = t.name) (hbefore : ∀ b ∈ before, b.name ≠ t.name)
    (index : Nat) :
    replayFrom ⟨before ++ [t]⟩ index (late.map fun a => .alterTable a.1 (a.2.map .addColumn)) =
      (⟨before ++ [(late.flatMap Prod.snd).foldl Table.addColumn t]⟩, []) := by
  induction late generalizing t index with
  | nil => rfl
  | cons a late ih =>
    obtain ⟨hfirst, hrest⟩ := List.forall_mem_cons.1 hlate
    have hname : (a.2.foldl Table.addColumn t).name = t.name := by rw [Table.foldl_addColumn]
    rw [List.map_cons, replayFrom, addColumns_run (hfirst ▸ hbefore) hfirst.symm]
    dsimp only
    rw [ih (hname.symm ▸ hrest) (hname.symm ▸ hbefore), List.flatMap_cons, List.foldl_append]

theorem replay_create (d : Sql.CreateTable) (hnew : s.contains d.name.last = false)
    (rest : List Sql.Statement) (index : Nat) : s.replayFrom index (.createTable d :: rest) =
      replayFrom ⟨s.tables ++ [Table.ofDefinition d]⟩ (index + 1) rest := by
  have hstep : (step (.createTable d)).run s = .ok () ⟨s.tables ++ [Table.ofDefinition d]⟩ := by
    simp [step, create, hnew]
  rw [replayFrom, hstep]

/-- A table that is defined with some columns and gets others later, by one statement or several, is
the table that is defined with all of them, but for the order of its key: no statement fails, and it
has the same model or the same errors. -/
theorem columns_added_later (s : Schema) (d : Sql.CreateTable)
    (late : List (Sql.Name × List Sql.ColumnDef)) (index index' : Nat)
    (hnew : s.contains d.name.last = false) (hlate : ∀ a ∈ late, a.1.last = d.name.last) :
    ∃ grown whole : Table,
      s.replayFrom index
          (.createTable d :: late.map fun a => .alterTable a.1 (a.2.map .addColumn)) =
        (⟨s.tables ++ [grown]⟩, []) ∧
      s.replayFrom index'
          [.createTable { d with columns := d.columns ++ late.flatMap Prod.snd }] =
        (⟨s.tables ++ [whole]⟩, []) ∧
      grown.name = whole.name ∧ grown.columns = whole.columns ∧
      grown.primaryKey.Perm whole.primaryKey ∧
      ∀ policy, Model.ofTable policy grown = Model.ofTable policy whole ∧
        Model.ofTables policy (s.tables ++ [grown]) =
          Model.ofTables policy (s.tables ++ [whole]) := by
  have hsame := Table.addColumns_reordered d (late.flatMap Prod.snd)
  have hwhole :=
    replay_create { d with columns := d.columns ++ late.flatMap Prod.snd } hnew [] index'
  refine ⟨_, _, ?_, hwhole, hsame.name, hsame.columns, hsame.key,
    fun policy => ⟨Model.ofTable_reordered hsame, Model.ofTables_reordered ?_⟩⟩
  · have hname := Table.name_ofDefinition d
    rw [replay_create d hnew]
    exact replay_addColumns (hname.symm ▸ hlate) (hname.symm ▸ contains_eq_false_iff.1 hnew) _
  · exact List.rel_append (List.forall₂_same.2 fun t _ => .refl t) (.cons hsame .nil)

/-- A key over a column of the definition and columns that come later, in two statements. -/
theorem columns_added_later_keys :
    let int : Sql.DataType := .integer .int none false
    let n : Sql.Name := [⟨"t", none⟩]
    let column (name : String) (options : List Sql.ColumnOption) : Sql.ColumnDef :=
      ⟨⟨name, none⟩, int, options⟩
    let d : Sql.CreateTable := ⟨n, false, [column "a" [.primaryKey], column "b" []],
      [.primaryKey [⟨"b", none⟩]]⟩
    let late : List (Sql.Name × List Sql.ColumnDef) :=
      [(n, [column "c" [.primaryKey], column "d" []]), (n, [column "e" [.primaryKey]])]
    empty.contains d.name.last = false ∧ (∀ a ∈ late, a.1.last = d.name.last) ∧
      ∃ grown whole : Table,
        empty.replayFrom 1
            (.createTable d :: late.map fun a => .alterTable a.1 (a.2.map .addColumn)) =
          (⟨[grown]⟩, []) ∧
        empty.replayFrom 1 [.createTable { d with columns := d.columns ++ late.flatMap Prod.snd }] =
          (⟨[whole]⟩, []) ∧
        grown.primaryKey = ["a", "b", "c", "e"] ∧ whole.primaryKey = ["a", "c", "e", "b"] ∧
        Model.ofTable {} grown = Model.ofTable {} whole := by
  intro int n column d late
  have hlate : ∀ a ∈ late, a.1.last = d.name.last := by decide
  obtain ⟨grown, whole, hgrown, hwhole, -, -, -, hmodels⟩ :=
    columns_added_later empty d late 1 1 rfl hlate
  refine ⟨rfl, hlate, grown, whole, hgrown, hwhole, ?_, ?_, (hmodels {}).1⟩
  · have hkeys : [grown.primaryKey] = [["a", "b", "c", "e"]] :=
      (congrArg (·.1.tables.map Table.primaryKey) hgrown).symm.trans (by decide +kernel)
    exact (List.cons.inj hkeys).1
  · have hkeys : [whole.primaryKey] = [["a", "c", "e", "b"]] :=
      (congrArg (·.1.tables.map Table.primaryKey) hwhole).symm.trans (by decide +kernel)
    exact (List.cons.inj hkeys).1

end Schema

end SqlModels
