import SqlModels.Proofs.Schema.Options
import SqlModels.Proofs.Schema.Replay
import SqlModels.Proofs.Sql.Retyped

/-!
The replay of statements as a function of the type of one column that they declare. Whether it fails
does not depend on the type, and where it does not fail at most one column of the schema has a type
that does.
-/

namespace SqlModels

open Sql (DataType ListHole)

variable {α β τ : Type}

/-- The column with another type. -/
def Column.retype (c : Column) (σ : DataType) : Column :=
  { c with
    type := (ColumnType.ofSql σ).1
    options := { c.options with unsigned := (ColumnType.ofSql σ).2 } }

/-- A column as a function of its type. -/
def Column.Hole (c : DataType → Column) : Prop :=
  ∃ c₀ : Column, c = fun σ => c₀.retype σ

/-- A table as a function of the type of one of its columns. -/
def Table.Hole (t : DataType → Table) : Prop :=
  ∃ name columns key, ListHole Column.Hole columns ∧ t = fun σ => ⟨name, columns σ, key⟩

/-- A schema as a function of the type of one of its columns. -/
def Schema.Hole (s : DataType → Schema) : Prop :=
  ∃ tables, ListHole Table.Hole tables ∧ s = fun σ => ⟨tables σ⟩

/-- That something does not depend on a type. -/
def Fixed (a : DataType → α) : Prop :=
  ∃ a₀, a = fun _ => a₀

/-- That something depends on a type in the given way, or not at all. -/
def Tracks (Hole : (DataType → α) → Prop) (a : DataType → α) : Prop :=
  Fixed a ∨ Hole a

/-- A change that depends on a type: whether it fails and what it gives does not, and the states
before and behind it do in the given ways. -/
def Uniform (before behind : (DataType → τ) → Prop) (change : DataType → EStateM Error τ α) :
    Prop :=
  ∀ s, before s → ∀ σ₀ a after, (change σ₀).run (s σ₀) = .ok a after →
    ∃ s', behind s' ∧ ∀ σ, (change σ).run (s σ) = .ok a (s' σ)

namespace Uniform

variable {P Q R : (DataType → τ) → Prop} {p : DataType → EStateM Error τ α}

theorem bind {f : α → DataType → EStateM Error τ β} (hp : Uniform P Q p)
    (hf : ∀ a, Uniform Q R (f a)) : Uniform P R fun σ => p σ >>= fun a => f a σ := by
  intro s hs σ₀ b after h
  rw [EStateM.run_bind] at h
  cases hrun : (p σ₀).run (s σ₀) with
  | error e behind =>
    rw [hrun] at h
    exact nomatch h
  | ok a behind =>
    rw [hrun] at h
    obtain ⟨s₁, hs₁, hall₁⟩ := hp s hs σ₀ a behind hrun
    have hbehind : behind = s₁ σ₀ := (EStateM.Result.ok.inj (hrun.symm.trans (hall₁ σ₀))).2
    obtain ⟨s₂, hs₂, hall₂⟩ := hf a s₁ hs₁ σ₀ b after (hbehind ▸ h)
    refine ⟨s₂, hs₂, fun σ => ?_⟩
    rw [EStateM.run_bind, hall₁ σ]
    exact hall₂ σ

theorem pure (a : α) (h : ∀ s, P s → Q s) :
    Uniform P Q fun _ => (Pure.pure a : EStateM Error τ α) := by
  intro s hs σ₀ b after hrun
  obtain ⟨rfl, -⟩ := EStateM.Result.ok.inj hrun
  exact ⟨s, h s hs, fun _ => rfl⟩

theorem throw (e : Error) : Uniform P Q fun _ => (MonadExcept.throw e : EStateM Error τ α) :=
  fun _ _ _ _ _ h => nomatch h

theorem change {g : DataType → τ → τ} (h : ∀ s, P s → Q fun σ => g σ (s σ)) :
    Uniform P Q fun σ => (modify (g σ) : EStateM Error τ Unit) :=
  fun s hs _ _ _ _ => ⟨fun σ => g σ (s σ), h s hs, fun _ => rfl⟩

theorem ite {c : Prop} [Decidable c] {q : DataType → EStateM Error τ α} (hp : Uniform P Q p)
    (hq : Uniform P Q q) : Uniform P Q fun σ => if c then p σ else q σ := by
  split
  · exact hp
  · exact hq

/-- What does not depend on a type has a state behind it that does not. -/
theorem fixed (p : EStateM Error τ α) : Uniform Fixed Fixed fun _ => p := by
  rintro _ ⟨s, rfl⟩ σ₀ a after h
  exact ⟨fun _ => after, ⟨after, rfl⟩, fun _ => h⟩

end Uniform

/-- The column of a declaration as a function of its type. -/
theorem Column.declare_retype (name : String) (options : List Sql.ColumnOption) :
    ∃ (c : Column) (primary : Bool), ∀ σ,
      Column.declare name σ options = (c.retype σ, primary) := by
  refine ⟨⟨name, .plain name, (declare name (.plain .bool) options).1.options⟩,
    (declare name (.plain .bool) options).2, fun σ => ?_⟩
  simp only [declare_eq]
  rfl

theorem Tracks.cons {Hole : (DataType → α) → Prop} {list : DataType → List α}
    (h : Tracks (ListHole Hole) list) (a : α) : Tracks (ListHole Hole) fun σ => a :: list σ := by
  refine h.imp ?_ fun h => h.cons a
  rintro ⟨l, rfl⟩
  exact ⟨a :: l, rfl⟩

theorem Tracks.head {Hole : (DataType → α) → Prop} {item : DataType → α} (h : Tracks Hole item)
    (rest : List α) : Tracks (ListHole Hole) fun σ => item σ :: rest := by
  refine h.imp ?_ fun h => Sql.listHole_head h rest
  rintro ⟨a, rfl⟩
  exact ⟨a :: rest, rfl⟩

namespace Sql.ListHole

variable {Hole : (DataType → α) → Prop} {list : DataType → List α}

theorem induction {motive : (list : DataType → List α) → ListHole Hole list → Prop}
    (here : ∀ item rest (h : Hole item), motive _ (listHole_head h rest))
    (there : ∀ a list (h : ListHole Hole list), motive list h → motive _ (h.cons a))
    {list : DataType → List α} (h : ListHole Hole list) : motive list h := by
  obtain ⟨before, item, behind, hitem, rfl⟩ := h
  induction before with
  | nil => exact here item behind hitem
  | cons a before ih => exact there a _ ⟨before, item, behind, hitem, rfl⟩ ih

theorem append (h : ListHole Hole list) (rest : List α) :
    ListHole Hole fun σ => list σ ++ rest := by
  obtain ⟨before, item, behind, hitem, rfl⟩ := h
  exact ⟨before, item, behind ++ rest, hitem, by simp⟩

/-- What all items have alike. -/
theorem map_eq {f : α → β} (hf : ∀ item, Hole item → ∀ σ σ', f (item σ) = f (item σ'))
    (h : ListHole Hole list) (σ σ' : DataType) : (list σ).map f = (list σ').map f := by
  obtain ⟨before, item, behind, hitem, rfl⟩ := h
  simp only [List.map_append, List.map_cons, hf item hitem σ σ']

theorem modify {f : α → α} (hf : ∀ item, Hole item → Hole fun σ => f (item σ))
    (h : ListHole Hole list) (i : Nat) : ListHole Hole fun σ => (list σ).modify i f := by
  induction h using induction generalizing i with
  | here item rest hitem =>
    cases i with
    | zero => exact listHole_head (hf item hitem) rest
    | succ i => exact listHole_head hitem (rest.modify i f)
  | there a list hlist ih =>
    cases i with
    | zero => exact hlist.cons (f a)
    | succ i => exact (ih i).cons a

theorem set (h : ListHole Hole list) (i : Nat) (a : α) :
    Tracks (ListHole Hole) fun σ => (list σ).set i a := by
  induction h using induction generalizing i with
  | here item rest hitem =>
    cases i with
    | zero => exact .inl ⟨a :: rest, rfl⟩
    | succ i => exact .inr (listHole_head hitem (rest.set i a))
  | there b list hlist ih =>
    cases i with
    | zero => exact .inr (hlist.cons a)
    | succ i => exact (ih i).cons b

theorem eraseIdx (h : ListHole Hole list) (i : Nat) :
    Tracks (ListHole Hole) fun σ => (list σ).eraseIdx i := by
  induction h using induction generalizing i with
  | here item rest hitem =>
    cases i with
    | zero => exact .inl ⟨rest, rfl⟩
    | succ i => exact .inr (listHole_head hitem (rest.eraseIdx i))
  | there b list hlist ih =>
    cases i with
    | zero => exact .inr hlist
    | succ i => exact (ih i).cons b

theorem filter {p : α → Bool} (hp : ∀ item, Hole item → ∀ σ σ', p (item σ) = p (item σ'))
    (h : ListHole Hole list) : Tracks (ListHole Hole) fun σ => (list σ).filter p := by
  obtain ⟨before, item, behind, hitem, rfl⟩ := h
  obtain ⟨b, hb⟩ : ∃ b, ∀ σ, p (item σ) = b :=
    ⟨p (item (.plain .real)), fun σ => hp item hitem σ _⟩
  simp only [List.filter_append, List.filter_cons, hb]
  cases b with
  | true => exact .inr ⟨_, item, _, hitem, rfl⟩
  | false => exact .inl ⟨before.filter p ++ behind.filter p, rfl⟩

/-- Something new of the given kind in a list without it. -/
theorem of_set {item : DataType → α} (hitem : Hole item) (list : List α) (i : Nat) :
    Tracks (ListHole Hole) fun σ => list.set i (item σ) := by
  induction list generalizing i with
  | nil => exact .inl ⟨[], rfl⟩
  | cons a list ih =>
    cases i with
    | zero => exact .inr (listHole_head hitem list)
    | succ i => exact (ih i).cons a

end Sql.ListHole

namespace Table

/-- A table over columns that depend on a type. -/
theorem tracks_columns {columns : DataType → List Column} (name : String) (key : List String)
    (h : Tracks (ListHole Column.Hole) columns) :
    Tracks Table.Hole fun σ => ⟨name, columns σ, key⟩ := by
  refine h.imp ?_ fun h => ⟨name, columns, key, h, rfl⟩
  rintro ⟨columns, rfl⟩
  exact ⟨⟨name, columns, key⟩, rfl⟩

/-- A table as a table of its parts, of which the columns alone depend on a type. -/
theorem tracks_iff {t : DataType → Table} : Tracks Table.Hole t ↔
    ∃ name columns key, Tracks (ListHole Column.Hole) columns ∧
      t = fun σ => ⟨name, columns σ, key⟩ := by
  constructor
  · rintro (⟨t, rfl⟩ | ⟨name, columns, key, h, rfl⟩)
    · exact ⟨t.name, fun _ => t.columns, t.primaryKey, .inl ⟨t.columns, rfl⟩, rfl⟩
    · exact ⟨name, columns, key, .inr h, rfl⟩
  · rintro ⟨name, columns, key, h, rfl⟩
    exact tracks_columns name key h

variable {t : DataType → Table}

/-- A change of tables on each side of which at most one column depends on a type. -/
abbrev Keeps (change : Change α) : Prop :=
  Uniform (Tracks Table.Hole) (Tracks Table.Hole) fun _ => change

theorem names_fixed (h : Tracks Table.Hole t) (σ σ' : DataType) :
    (t σ).columns.map Column.name = (t σ').columns.map Column.name := by
  rcases h with ⟨t, rfl⟩ | ⟨name, columns, key, h, rfl⟩
  · rfl
  · refine h.map_eq ?_ σ σ'
    rintro _ ⟨c, rfl⟩ _ _
    rfl

/-- Where a column stands does not depend on a type. -/
theorem columnIndex_keeps (name : String) : Keeps (columnIndex name) := by
  intro t ht σ₀ i after h
  have hindex (σ : DataType) : (t σ).columns.findIdx? (·.name == name) =
      (t σ₀).columns.findIdx? (·.name == name) := by
    have hnames := congrArg (List.findIdx? (· == name)) (names_fixed ht σ σ₀)
    simpa only [List.findIdx?_map, Function.comp_def] using hnames
  refine ⟨t, ht, fun σ => ?_⟩
  rcases columnIndex_cases (t σ₀) name with ⟨-, j, hj, hrun⟩ | ⟨-, hrun⟩
  · obtain ⟨rfl, -⟩ := EStateM.Result.ok.inj (hrun.symm.trans h)
    simp [columnIndex, hindex σ, hj]
  · exact nomatch hrun.symm.trans h

theorem checkColumns_keeps (names : List String) : Keeps (checkColumns names) := by
  induction names with
  | nil => exact .pure () fun _ h => h
  | cons name rest ih => exact (columnIndex_keeps name).bind fun _ => ih

/-- A change of the key. -/
theorem key_keeps (g : List String → List String) :
    Keeps (modify fun t => { t with primaryKey := g t.primaryKey }) := by
  refine .change fun t ht => ?_
  obtain ⟨name, columns, key, hcolumns, rfl⟩ := tracks_iff.1 ht
  exact tracks_columns name (g key) hcolumns

/-- A change of the columns. -/
theorem columns_keeps (g : List Column → List Column)
    (hg : ∀ columns, ListHole Column.Hole columns →
      Tracks (ListHole Column.Hole) fun σ => g (columns σ)) :
    Keeps (modify fun t => { t with columns := g t.columns }) := by
  refine .change fun t ht => ?_
  obtain ⟨name, columns, key, hcolumns, rfl⟩ := tracks_iff.1 ht
  refine tracks_columns name key ?_
  rcases hcolumns with ⟨columns, rfl⟩ | hcolumns
  · exact .inl ⟨g columns, rfl⟩
  · exact hg columns hcolumns

theorem addKey_keeps (name : String) : Keeps (modify (·.addKey name)) := by
  refine .change fun t ht => ?_
  obtain ⟨tableName, columns, key, hcolumns, rfl⟩ := tracks_iff.1 ht
  have hadd (columns : List Column) : addKey ⟨tableName, columns, key⟩ name =
      ⟨tableName, columns, if key.contains name then key else key ++ [name]⟩ := by
    simp only [addKey]
    split <;> rfl
  simpa only [hadd] using tracks_columns tableName _ hcolumns

theorem addColumn_tracks (ht : Tracks Table.Hole t) (d : Sql.ColumnDef) :
    Tracks Table.Hole fun σ => (t σ).addColumn d := by
  obtain ⟨name, columns, key, hcolumns, rfl⟩ := tracks_iff.1 ht
  have happend (rest : List Column) :
      Tracks (ListHole Column.Hole) fun σ => columns σ ++ rest := by
    refine hcolumns.imp ?_ fun h => h.append rest
    rintro ⟨columns, rfl⟩
    exact ⟨columns ++ rest, rfl⟩
  simp only [addColumn_eq]
  exact tracks_columns name _ (happend _)

/-- An operation does the same to a table whatever the type of a column of it. -/
theorem alter_keeps (op : Sql.AlterOp) : Keeps (alter op) := by
  cases op with
  | addColumn d => exact .change fun t ht => addColumn_tracks ht d
  | renameColumn old new =>
    refine (columnIndex_keeps old.value).bind fun i => (key_keeps _).bind fun _ =>
      columns_keeps (fun columns => columns.modify i _) fun columns h => .inr (h.modify ?_ i)
    rintro _ ⟨c, rfl⟩
    exact ⟨{ c with name := new.value }, rfl⟩
  | changeColumn old new type options =>
    have hset (i : Nat) (c : Column) :
        Keeps (modify fun t => { t with columns := t.columns.set i c }) :=
      columns_keeps (fun columns => columns.set i c) fun columns h => h.set i c
    exact (columnIndex_keeps old.value).bind fun i => (key_keeps _).bind fun _ =>
      .ite ((addKey_keeps new.value).bind fun _ => hset i _) (hset i _)
  | dropPrimaryKey => exact key_keeps fun _ => []
  | dropColumn name ifExists =>
    exact (columnIndex_keeps name.value).bind fun i =>
      (columns_keeps (fun columns => columns.eraseIdx i) fun columns h => h.eraseIdx i).bind
        fun _ => key_keeps fun key => key.filter (· ≠ name.value)
  | addConstraint constraint =>
    cases constraint with
    | primaryKey columns =>
      exact (checkColumns_keeps _).bind fun _ => key_keeps fun _ => columns.map Sql.Ident.value
    | _ => exact .pure () fun _ h => h
  | _ => exact .throw _

/-- A column of a given type at the end of a table. -/
theorem addColumn_hole {column : Sql.Ident} {d : DataType → Sql.ColumnDef}
    (hd : Sql.ColumnDef.Hole column d) (t : Table) : Table.Hole fun σ => t.addColumn (d σ) := by
  obtain ⟨options, rfl⟩ := hd
  obtain ⟨c, primary, hc⟩ := Column.declare_retype column.value options
  refine ⟨t.name, _, if primary then t.primaryKey ++ [c.name] else t.primaryKey,
    ⟨t.columns, _, [], ⟨c, rfl⟩, rfl⟩, ?_⟩
  funext σ
  simp only [addColumn, hc σ, Column.retype]

theorem changeColumn_hole (old new : String) (options : List Sql.ColumnOption) :
    Uniform Fixed (Tracks Table.Hole) fun σ => changeColumn old new σ options := by
  obtain ⟨c, primary, hc⟩ := Column.declare_retype new options
  have hset (i : Nat) : Uniform Fixed (Tracks Table.Hole) fun σ =>
      (modify fun t => { t with columns := t.columns.set i (c.retype σ) } : Change Unit) := by
    refine .change ?_
    rintro _ ⟨t, rfl⟩
    exact tracks_columns t.name t.primaryKey (ListHole.of_set ⟨c, rfl⟩ t.columns i)
  simp only [changeColumn, hc]
  exact (Uniform.fixed _).bind fun i => (Uniform.fixed _).bind fun _ =>
    .ite ((Uniform.fixed _).bind fun _ => hset i) (hset i)

/-- An operation that declares a column, as a function of the type of that. -/
theorem alter_hole {column : Sql.Ident} {op : DataType → Sql.AlterOp}
    (hop : Sql.AlterOp.Hole column op) :
    Uniform Fixed (Tracks Table.Hole) fun σ => alter (op σ) := by
  rcases hop with ⟨d, hd, rfl⟩ | ⟨old, options, rfl⟩
  · refine .change ?_
    rintro _ ⟨t, rfl⟩
    exact .inr (addColumn_hole hd t)
  · exact changeColumn_hole old.value column.value options

/-- The table of a definition as a function of the type of one of its columns. -/
theorem ofDefinition_hole {column : Sql.Ident} {d : DataType → Sql.CreateTable}
    (hd : Sql.CreateTable.Hole column d) : Tracks Table.Hole fun σ => ofDefinition (d σ) := by
  obtain ⟨name, ifNotExists, _, constraints, ⟨before, item, behind, hitem, rfl⟩, rfl⟩ := hd
  have hfold (ds : List Sql.ColumnDef) {t : DataType → Table} (ht : Tracks Table.Hole t) :
      Tracks Table.Hole fun σ => ds.foldl addColumn (t σ) := by
    induction ds generalizing t with
    | nil => exact ht
    | cons d ds ih => exact ih (addColumn_tracks ht d)
  have hbare :=
    hfold behind (.inr (addColumn_hole hitem (before.foldl addColumn ⟨name.last, [], []⟩)))
  obtain ⟨tableName, columns, key, hcolumns, hbare⟩ := tracks_iff.1 hbare
  simp only [ofDefinition, List.foldl_append, List.foldl_cons, congrFun hbare]
  exact tracks_columns tableName _ hcolumns

/-- Tables with a change of the first of a name. -/
theorem changeFirst_hole {name : String} {change : DataType → Change Unit}
    (hchange : Uniform Fixed (Tracks Table.Hole) change) {tables after : List Table} {σ₀ : DataType}
    (h : changeFirst name (change σ₀) tables = .ok () after) :
    ∃ tables', Tracks (ListHole Table.Hole) tables' ∧
      ∀ σ, changeFirst name (change σ) tables = .ok () (tables' σ) := by
  induction tables generalizing after with
  | nil => exact nomatch h
  | cons t rest ih =>
    simp only [changeFirst_cons_eq_ok]
    rcases changeFirst_cons_eq_ok.1 h with ⟨ht, changed, hrun, -⟩ | ⟨ht, changed, hrest, -⟩
    · obtain ⟨t', ht', hall⟩ := hchange _ ⟨t, rfl⟩ σ₀ () changed hrun
      exact ⟨_, ht'.head rest, fun σ => .inl ⟨ht, t' σ, hall σ, rfl⟩⟩
    · obtain ⟨tables', htables', hall⟩ := ih hrest
      exact ⟨_, htables'.cons t, fun σ => .inr ⟨ht, tables' σ, hall σ, rfl⟩⟩

theorem name_fixed (h : Table.Hole t) (σ σ' : DataType) : (t σ).name = (t σ').name := by
  obtain ⟨name, columns, key, -, rfl⟩ := h
  rfl

theorem changeFirst_keeps {name : String} {change : Change Unit} (hchange : Keeps change)
    {tables : DataType → List Table} (htables : Tracks (ListHole Table.Hole) tables)
    {σ₀ : DataType} {after : List Table}
    (h : changeFirst name change (tables σ₀) = .ok () after) :
    ∃ tables', Tracks (ListHole Table.Hole) tables' ∧
      ∀ σ, changeFirst name change (tables σ) = .ok () (tables' σ) := by
  rcases htables with ⟨tables, rfl⟩ | htables
  · exact ⟨fun _ => after, .inl ⟨after, rfl⟩, fun _ => h⟩
  induction htables using ListHole.induction generalizing after with
  | here t rest ht =>
    have hname (σ : DataType) : (t σ).name = (t σ₀).name := name_fixed ht σ σ₀
    simp only [changeFirst_cons_eq_ok, hname]
    rcases changeFirst_cons_eq_ok.1 h with ⟨hfirst, changed, hrun, -⟩ | ⟨hother, changed, hrest, -⟩
    · obtain ⟨t', ht', hall⟩ := hchange t (.inr ht) σ₀ () changed hrun
      exact ⟨_, ht'.head rest, fun σ => .inl ⟨hfirst, t' σ, hall σ, rfl⟩⟩
    · exact ⟨_, .inr (Sql.listHole_head ht changed), fun σ => .inr ⟨hother, changed, hrest, rfl⟩⟩
  | there t tables htables ih =>
    simp only [changeFirst_cons_eq_ok]
    rcases changeFirst_cons_eq_ok.1 h with ⟨hfirst, changed, hrun, -⟩ | ⟨hother, changed, hrest, -⟩
    · exact ⟨_, .inr (htables.cons changed), fun σ => .inl ⟨hfirst, changed, hrun, rfl⟩⟩
    · obtain ⟨tables', htables', hall⟩ := ih hrest
      exact ⟨_, htables'.cons t, fun σ => .inr ⟨hother, tables' σ, hall σ, rfl⟩⟩

end Table

namespace Schema

theorem tracks_tables {tables : DataType → List Table} (h : Tracks (ListHole Table.Hole) tables) :
    Tracks Schema.Hole fun σ => ⟨tables σ⟩ := by
  refine h.imp ?_ fun h => ⟨tables, h, rfl⟩
  rintro ⟨tables, rfl⟩
  exact ⟨⟨tables⟩, rfl⟩

theorem tracks_iff {s : DataType → Schema} : Tracks Schema.Hole s ↔
    ∃ tables, Tracks (ListHole Table.Hole) tables ∧ s = fun σ => ⟨tables σ⟩ := by
  constructor
  · rintro (⟨s, rfl⟩ | ⟨tables, h, rfl⟩)
    · exact ⟨fun _ => s.tables, .inl ⟨s.tables, rfl⟩, rfl⟩
    · exact ⟨tables, .inr h, rfl⟩
  · rintro ⟨tables, h, rfl⟩
    exact tracks_tables h

variable {s : DataType → Schema}

/-- A change of schemas on each side of which at most one column depends on a type. -/
abbrev Keeps (change : Change α) : Prop :=
  Uniform (Tracks Schema.Hole) (Tracks Schema.Hole) fun _ => change

theorem contains_fixed (h : Tracks Schema.Hole s) (name : String) (σ σ' : DataType) :
    (s σ).contains name = (s σ').contains name := by
  rcases h with ⟨s, rfl⟩ | ⟨tables, h, rfl⟩
  · rfl
  · have hnames : (tables σ).map Table.name = (tables σ').map Table.name :=
      h.map_eq (fun t ht => Table.name_fixed ht) σ σ'
    have hany := congrArg (List.any · (· == name)) hnames
    simpa only [contains, List.any_map, Function.comp_def] using hany

/-- A change that looks first whether there is a table of a name. -/
theorem uniform_test {P Q : (DataType → Schema) → Prop} {p q : DataType → Change α}
    (hP : ∀ s, P s → Tracks Schema.Hole s) (name : String) (hp : Uniform P Q p)
    (hq : Uniform P Q q) :
    Uniform P Q fun σ => get >>= fun s => if s.contains name then p σ else q σ := by
  intro s hs σ₀ a after h
  have hrun (σ : DataType) :
      (get >>= fun s => if s.contains name then p σ else q σ : Change α).run (s σ) =
        (if (s σ₀).contains name then p σ else q σ).run (s σ) := by
    simp [contains_fixed (hP s hs) name σ σ₀]
  simp only [hrun] at h ⊢
  exact Uniform.ite hp hq s hs σ₀ a after h

theorem update_keeps (name : String) {change : Table.Change Unit} (hchange : Table.Keeps change) :
    Keeps (update name change) := by
  intro s hs σ₀ a after h
  obtain ⟨tables, htables, rfl⟩ := tracks_iff.1 hs
  rw [update_run] at h
  cases hrun : Table.changeFirst name change (tables σ₀) with
  | error e changed => simp [hrun] at h
  | ok _ changed =>
    obtain ⟨tables', htables', hall⟩ := Table.changeFirst_keeps hchange htables hrun
    exact ⟨_, tracks_tables htables', fun σ => by simp [update_run, hall σ]⟩

theorem update_hole (name : String) {change : DataType → Table.Change Unit}
    (hchange : Uniform Fixed (Tracks Table.Hole) change) :
    Uniform Fixed (Tracks Schema.Hole) fun σ => update name (change σ) := by
  rintro _ ⟨s, rfl⟩ σ₀ a after h
  rw [update_run] at h
  cases hrun : Table.changeFirst name (change σ₀) s.tables with
  | error e changed => simp [hrun] at h
  | ok _ changed =>
    obtain ⟨tables', htables', hall⟩ := Table.changeFirst_hole hchange hrun
    exact ⟨_, tracks_tables htables', fun σ => by simp [update_run, hall σ]⟩

theorem rename_keeps (name newName : String) : Keeps (rename name newName) := by
  refine uniform_test (fun _ => id) newName (.throw _) (update_keeps name (.change fun t ht => ?_))
  obtain ⟨name, columns, key, hcolumns, rfl⟩ := Table.tracks_iff.1 ht
  exact Table.tracks_columns newName key hcolumns

theorem alterOne_keeps (name : String) (op : Sql.AlterOp) : Keeps (alterOne name op) := by
  cases op with
  | renameTable newName => exact (rename_keeps name newName.last).bind fun _ => .pure _ fun _ h => h
  | _ => exact (update_keeps name (Table.alter_keeps _)).bind fun _ => .pure _ fun _ h => h

theorem alterAll_keeps (name : String) (ops : List Sql.AlterOp) : Keeps (alterAll name ops) := by
  induction ops generalizing name with
  | nil => exact .pure () fun _ h => h
  | cons op rest ih => exact (alterOne_keeps name op).bind ih

theorem dropOne_keeps (ifExists : Bool) (name : String) : Keeps (dropOne ifExists name) := by
  refine uniform_test (fun _ => id) name (.change fun s hs => ?_)
    (.ite (.pure () fun _ h => h) (.throw _))
  obtain ⟨tables, htables, rfl⟩ := tracks_iff.1 hs
  refine tracks_tables ?_
  rcases htables with ⟨tables, rfl⟩ | htables
  · exact .inl ⟨_, rfl⟩
  · exact htables.filter fun t ht σ σ' => by rw [Table.name_fixed ht σ σ']

theorem dropAll_keeps (ifExists : Bool) (names : List String) : Keeps (dropAll ifExists names) := by
  induction names with
  | nil => exact .pure () fun _ h => h
  | cons name rest ih => exact (dropOne_keeps ifExists name).bind fun _ => ih

theorem create_keeps (d : Sql.CreateTable) : Keeps (create d) := by
  refine uniform_test (fun _ => id) d.name.last (.ite (.pure () fun _ h => h) (.throw _))
    (.change fun s hs => ?_)
  obtain ⟨tables, htables, rfl⟩ := tracks_iff.1 hs
  refine tracks_tables (htables.imp ?_ fun h => h.append _)
  rintro ⟨tables, rfl⟩
  exact ⟨_, rfl⟩

/-- A statement does the same to a schema whatever the type of a column of it. -/
theorem step_keeps (statement : Sql.Statement) : Keeps (step statement) := by
  cases statement with
  | createTable d => exact create_keeps d
  | alterTable name ops => exact alterAll_keeps name.last ops
  | dropTables ifExists names => exact dropAll_keeps ifExists _
  | other => exact .pure () fun _ h => h

theorem run_keeps (statements : List Sql.Statement) : Keeps (statements.forM step) := by
  induction statements with
  | nil => exact .pure () fun _ h => h
  | cons statement rest ih => exact (step_keeps statement).bind fun _ => ih

variable {column : Sql.Ident}

/-- Operations of which one declares a column, as a function of the type of that. -/
theorem alterAll_hole {ops : DataType → List Sql.AlterOp}
    (hops : ListHole (Sql.AlterOp.Hole column) ops) (name : String) :
    Uniform Fixed (Tracks Schema.Hole) fun σ => alterAll name (ops σ) := by
  induction hops using ListHole.induction generalizing name with
  | here op rest hop =>
    have hone : Uniform Fixed (Tracks Schema.Hole) fun σ => alterOne name (op σ) := by
      have hupdate := (update_hole name (Table.alter_hole hop)).bind fun _ =>
        Uniform.pure name fun _ h => h
      rcases hop with ⟨d, -, rfl⟩ | ⟨old, options, rfl⟩
      · exact hupdate
      · exact hupdate
    exact hone.bind fun current => alterAll_keeps current rest
  | there op ops hops ih => exact (Uniform.fixed (alterOne name op)).bind ih

theorem create_hole {d : DataType → Sql.CreateTable} (hd : Sql.CreateTable.Hole column d) :
    Uniform Fixed (Tracks Schema.Hole) fun σ => create (d σ) := by
  have htable := Table.ofDefinition_hole hd
  obtain ⟨name, ifNotExists, columns, constraints, -, rfl⟩ := hd
  have hexisting : Uniform Fixed (Tracks Schema.Hole) fun _ =>
      (if ifNotExists then return else throw (.duplicateTable name.last) : Change Unit) :=
    .ite (.pure () fun _ h => .inl h) (.throw _)
  refine uniform_test (fun _ h => .inl h) name.last hexisting (.change ?_)
  rintro _ ⟨s, rfl⟩
  refine tracks_tables (htable.imp ?_ fun h => ⟨s.tables, _, [], h, rfl⟩)
  rintro ⟨t, ht⟩
  exact ⟨s.tables ++ [t], by simp only [congrFun ht]⟩

/-- A statement that declares a column, as a function of the type of that. -/
theorem step_hole {statement : DataType → Sql.Statement}
    (hstatement : Sql.Statement.Hole column statement) :
    Uniform Fixed (Tracks Schema.Hole) fun σ => step (statement σ) := by
  rcases hstatement with ⟨d, hd, rfl⟩ | ⟨name, ops, hops, rfl⟩
  · exact create_hole hd
  · exact alterAll_hole hops name.last

theorem run_hole {statements : DataType → List Sql.Statement}
    (hstatements : ListHole (Sql.Statement.Hole column) statements) :
    Uniform Fixed (Tracks Schema.Hole) fun σ => (statements σ).forM step := by
  induction hstatements using ListHole.induction with
  | here statement rest hstatement => exact (step_hole hstatement).bind fun _ => run_keeps rest
  | there statement list hlist ih => exact (Uniform.fixed (step statement)).bind fun _ => ih

/-- Statements of which one declares a column, replayed: at most that column depends on its type. -/
theorem ofStatements_hole {statements : DataType → List Sql.Statement}
    (hstatements : ListHole (Sql.Statement.Hole column) statements) {σ₀ : DataType}
    {schema : Schema} (h : ofStatements (statements σ₀) = .ok schema) :
    ∃ result, Tracks Schema.Hole result ∧ ∀ σ, ofStatements (statements σ) = .ok (result σ) := by
  have hrun (σ : DataType) := ofStatements_run (statements σ)
  cases hσ₀ : ((statements σ₀).forM step).run empty with
  | error e after =>
    have herror := hrun σ₀
    simp only [hσ₀] at herror
    obtain ⟨e, herror⟩ := herror
    exact nomatch herror.symm.trans h
  | ok _ after =>
    obtain ⟨result, hresult, hall⟩ := run_hole hstatements _ ⟨empty, rfl⟩ σ₀ () after hσ₀
    refine ⟨result, hresult, fun σ => ?_⟩
    have hok := hrun σ
    simpa only [hall σ] using hok

end Schema

end SqlModels
