import SqlModels.Proofs.Schema.Replay

/-!
The names of tables and their order. No two tables of a replay share a name, so a name stands for
one table, and a statement moves none of the tables it leaves: a new one comes last, an altered one
stays in its place, under whatever name, and the others keep their order.
-/

namespace SqlModels

namespace Sql

/-- The name that an operation gives to its table. -/
def AlterOp.newName? : AlterOp → Option Name
  | .renameTable newName => some newName
  | _ => none

theorem AlterOp.newName?_eq_none_iff {op : AlterOp} :
    op.newName? = none ↔ ∀ newName, op ≠ .renameTable newName := by
  cases op <;> simp [newName?]

theorem AlterOp.newName?_eq_some_iff {op : AlterOp} {newName : Name} :
    op.newName? = some newName ↔ op = .renameTable newName := by
  cases op <;> simp [newName?]

theorem AlterOp.nameBehind_eq (op : AlterOp) (name : Name) :
    op.nameBehind name = op.newName?.getD name := by
  cases op <;> rfl

/-- The names that a statement speaks of: those of its tables, and those it gives to them. -/
def Statement.tableNames : Statement → List String
  | .createTable d => [d.name.last]
  | .alterTable name ops => name.last :: (ops.filterMap AlterOp.newName?).map Name.last
  | .dropTables _ names => names.map Name.last
  | .other => []

end Sql

namespace Table

/-- A table behind an operation. -/
def behind (t : Table) (op : Sql.AlterOp) : Table :=
  match op.newName? with
  | some newName => { t with name := newName.last }
  | none =>
    match (alter op).run t with
    | .ok _ after => after
    | .error _ after => after

variable {t after : Table}

/-- No operation but a renaming gives its table another name. -/
theorem alter_name {op : Sql.AlterOp} (h : (alter op).run t = .ok () after) :
    after.name = t.name := by
  cases alter_ok h <;> rfl

theorem name_behind (t : Table) (op : Sql.AlterOp) :
    (t.behind op).name = (op.newName?.map Sql.Name.last).getD t.name := by
  cases hnew : op.newName? with
  | some newName => simp only [behind, hnew, Option.map_some, Option.getD_some]
  | none =>
    have hop := Sql.AlterOp.newName?_eq_none_iff.1 hnew
    simp only [behind, hnew, Option.map_none, Option.getD_none]
    cases hrun : (alter op).run t with
    | ok _ after => exact alter_name hrun
    | error e after => rw [((alter_error_iff op hop).1 hrun).1]

/-- Behind operations a table has its own name or one that they give to it. -/
theorem name_foldl_behind (t : Table) (ops : List Sql.AlterOp) :
    (ops.foldl behind t).name ∈
      t.name :: (ops.filterMap Sql.AlterOp.newName?).map Sql.Name.last := by
  induction ops generalizing t with
  | nil => exact List.mem_singleton_self t.name
  | cons op ops ih =>
    have hrest := ih (t.behind op)
    rw [name_behind] at hrest
    rw [List.foldl_cons]
    cases hnew : op.newName? with
    | none => simpa [hnew] using hrest
    | some newName =>
      rw [List.filterMap_cons_some hnew, List.map_cons]
      exact List.mem_cons_of_mem t.name (by simpa [hnew] using hrest)

end Table

namespace Schema

variable {s after : Schema} {before rest : List Table} {t : Table}

/-- The schema without the tables of the given names. -/
def without (s : Schema) (names : List String) : Schema :=
  ⟨s.tables.filter (·.name ∉ names)⟩

theorem without_nil (s : Schema) : s.without [] = s := by
  simp [without]

theorem without_without (s : Schema) (names more : List String) :
    (s.without names).without more = s.without (names ++ more) := by
  simp only [without, List.filter_filter]
  congr 1
  exact List.filter_congr fun t _ => by simp [not_or, Bool.and_comm]

theorem without_of_subset {names more : List String} (h : names ⊆ more) :
    (s.without names).without more = s.without more := by
  simp only [without, List.filter_filter]
  congr 1
  refine List.filter_congr fun t _ => ?_
  by_cases ht : t.name ∈ more
  · simp [ht]
  · have hnames : t.name ∉ names := fun hmem => ht (h hmem)
    simp [ht, hnames]

/-- A change of a table that is found by its name. -/
theorem update_located {name : String} {change : Table.Change Unit}
    (htables : s.tables = before ++ t :: rest) (hbefore : ∀ b ∈ before, b.name ≠ name)
    (ht : t.name = name) : (update name change).run s = match change.run t with
      | .ok () changed => .ok () ⟨before ++ changed :: rest⟩
      | .error e changed => .error e ⟨before ++ changed :: rest⟩ := by
  rw [update_run, htables, Table.changeFirst_of_first hbefore ht]
  cases change.run t <;> rfl

theorem exists_located {name : String} (h : s.contains name = true) : ∃ before t rest,
    s.tables = before ++ t :: rest ∧ (∀ b ∈ before, b.name ≠ name) ∧ t.name = name := by
  have hfound : (s.tables.find? (·.name == name)).isSome := by simpa [contains] using h
  obtain ⟨t, hfind⟩ := Option.isSome_iff_exists.1 hfound
  obtain ⟨ht, before, rest, htables, hbefore⟩ := List.find?_eq_some_iff_append.1 hfind
  exact ⟨before, t, rest, htables, by simpa using hbefore, by simpa using ht⟩

/-- One operation changes its table where it stands, and the name it leaves is free before it, or it
is refused. -/
theorem alter_located {name : Sql.Name} (op : Sql.AlterOp)
    (htables : s.tables = before ++ t :: rest) (hbefore : ∀ b ∈ before, b.name ≠ name.last)
    (ht : t.name = name.last) :
    (∃ e, s.Refuses (.alterTable name [op]) e ∧
        (step (.alterTable name [op])).run s = .error e s) ∨
      (step (.alterTable name [op])).run s = .ok () ⟨before ++ t.behind op :: rest⟩ ∧
        (∀ newName, op.newName? = some newName → s.contains newName.last = false) := by
  cases hrun : (step (.alterTable name [op])).run s with
  | error e next =>
    obtain ⟨rfl, hrefuses⟩ := (alter_error_iff name op).1 hrun
    exact .inl ⟨e, hrefuses, rfl⟩
  | ok _ next =>
    right
    cases hnew : op.newName? with
    | some newName =>
      obtain rfl := Sql.AlterOp.newName?_eq_some_iff.1 hnew
      rw [step_rename] at hrun
      obtain ⟨hfresh, hupdate⟩ := rename_ok hrun
      rw [update_located htables hbefore ht] at hupdate
      refine ⟨by simpa [Table.behind, hnew, eq_comm] using hupdate, ?_⟩
      rintro _ ⟨⟩
      exact hfresh
    | none =>
      have hop := Sql.AlterOp.newName?_eq_none_iff.1 hnew
      rw [step_operation name hop, update_located htables hbefore ht] at hrun
      refine ⟨?_, nofun⟩
      cases hchange : (Table.alter op).run t with
      | error e changed => simp [hchange] at hrun
      | ok _ changed => simpa [Table.behind, hnew, hchange, eq_comm] using hrun

theorem alter_cons (name : Sql.Name) (op : Sql.AlterOp) (ops : List Sql.AlterOp) :
    step (.alterTable name (op :: ops)) = (step (.alterTable name [op]) >>= fun _ =>
      step (.alterTable (op.nameBehind name) ops)) :=
  alterOne_bind name op _

/-- Operations change their table where it stands, up to the first that is refused. -/
theorem alterAll_located {name : Sql.Name} (ops : List Sql.AlterOp)
    (htables : s.tables = before ++ t :: rest) (hbefore : ∀ b ∈ before, b.name ≠ name.last)
    (ht : t.name = name.last) :
    (step (.alterTable name ops)).run s = .ok () ⟨before ++ ops.foldl Table.behind t :: rest⟩ ∨
      ∃ done op more e, ops = done ++ op :: more ∧
        Refuses ⟨before ++ done.foldl Table.behind t :: rest⟩
          (.alterTable (done.foldl (fun name op => op.nameBehind name) name) [op]) e ∧
        (step (.alterTable name ops)).run s =
          .error e ⟨before ++ done.foldl Table.behind t :: rest⟩ := by
  induction ops generalizing s t name with
  | nil => exact .inl (congrArg (EStateM.Result.ok ()) (congrArg mk htables))
  | cons op ops ih =>
    rw [alter_cons, EStateM.run_bind]
    rcases alter_located op htables hbefore ht with ⟨e, hrefuses, hrun⟩ | ⟨hrun, hfresh⟩
    · have hs : s = ⟨before ++ t :: rest⟩ := congrArg mk htables
      refine .inr ⟨[], op, ops, e, rfl, hs ▸ hrefuses, ?_⟩
      rw [hrun, List.foldl_nil, ← htables]
    · have hname : (t.behind op).name = (op.nameBehind name).last := by
        rw [Table.name_behind, op.nameBehind_eq, ht]
        cases op.newName? <;> rfl
      have hbehind : ∀ b ∈ before, b.name ≠ (op.nameBehind name).last := by
        rw [op.nameBehind_eq]
        cases hnew : op.newName? with
        | none => exact hbefore
        | some newName =>
          exact fun b hb => contains_eq_false_iff.1 (hfresh newName hnew) b (by simp [htables, hb])
      rw [hrun]
      rcases ih rfl hbehind hname with hok | ⟨done, refused, more, e, rfl, hrefuses, herror⟩
      · exact .inl hok
      · exact .inr ⟨op :: done, refused, more, e, rfl, hrefuses, herror⟩

theorem drop_cons (ifExists : Bool) (name : Sql.Name) (names : List Sql.Name) :
    step (.dropTables ifExists (name :: names)) = (step (.dropTables ifExists [name]) >>= fun _ =>
      step (.dropTables ifExists names)) := by
  simp [step, dropAll]

/-- Tables are dropped up to the first name that is refused. -/
theorem dropAll_run (ifExists : Bool) (names : List Sql.Name) (s : Schema) :
    (step (.dropTables ifExists names)).run s = .ok () (s.without (names.map Sql.Name.last)) ∨
      ∃ done name more e, names = done ++ name :: more ∧
        (s.without (done.map Sql.Name.last)).Refuses (.dropTables ifExists [name]) e ∧
        (step (.dropTables ifExists names)).run s =
          .error e (s.without (done.map Sql.Name.last)) := by
  induction names generalizing s with
  | nil => exact .inl (congrArg (EStateM.Result.ok ()) s.without_nil.symm)
  | cons name names ih =>
    rw [drop_cons, EStateM.run_bind]
    cases hrun : (step (.dropTables ifExists [name])).run s with
    | error e next =>
      obtain ⟨rfl, hrefuses⟩ := (drop_error_iff ifExists name).1 hrun
      refine .inr ⟨[], name, names, e, rfl, ?_⟩
      rw [List.map_nil, without_nil]
      exact ⟨hrefuses, rfl⟩
    | ok _ next =>
      obtain rfl : next = s.without [name.last] := by simpa [without] using drop_ok hrun
      have hsplit (more : List Sql.Name) : s.without ((name :: more).map Sql.Name.last) =
          (s.without [name.last]).without (more.map Sql.Name.last) :=
        (without_without s [name.last] _).symm
      rcases ih (s.without [name.last]) with hok | ⟨done, refused, more, e, rfl, hrefuses, herror⟩
      · rw [hsplit]
        exact .inl hok
      · refine .inr ⟨name :: done, refused, more, e, rfl, ?_⟩
        rw [hsplit]
        exact ⟨hrefuses, herror⟩

/-- What a statement may make of the tables, and how it ends: it is carried out, or up to its first
part that is refused. -/
inductive Rearranges (s : Schema) : Sql.Statement → EStateM.Result Error Schema Unit → Prop
  | created {d : Sql.CreateTable} : s.contains d.name.last = false →
      Rearranges s (.createTable d) (.ok () ⟨s.tables ++ [Table.ofDefinition d]⟩)
  | existing {d : Sql.CreateTable} : s.contains d.name.last = true → d.ifNotExists = true →
      Rearranges s (.createTable d) (.ok () s)
  | duplicate {d : Sql.CreateTable} {e : Error} : s.contains d.name.last = true →
      s.Refuses (.createTable d) e → Rearranges s (.createTable d) (.error e s)
  | idle {name : Sql.Name} : Rearranges s (.alterTable name []) (.ok () s)
  | unknown {name : Sql.Name} {op : Sql.AlterOp} {more : List Sql.AlterOp} {e : Error} :
      s.contains name.last = false → s.Refuses (.alterTable name [op]) e →
      Rearranges s (.alterTable name (op :: more)) (.error e s)
  | altered {name : Sql.Name} {ops : List Sql.AlterOp} {before rest : List Table} {t : Table} :
      s.tables = before ++ t :: rest → t.name = name.last →
      Rearranges s (.alterTable name ops) (.ok () ⟨before ++ ops.foldl Table.behind t :: rest⟩)
  | alteredUpTo {name : Sql.Name} {done more : List Sql.AlterOp} {op : Sql.AlterOp}
      {before rest : List Table} {t : Table} {e : Error} :
      s.tables = before ++ t :: rest → t.name = name.last →
      Refuses ⟨before ++ done.foldl Table.behind t :: rest⟩
        (.alterTable (done.foldl (fun name op => op.nameBehind name) name) [op]) e →
      Rearranges s (.alterTable name (done ++ op :: more))
        (.error e ⟨before ++ done.foldl Table.behind t :: rest⟩)
  | dropped {ifExists : Bool} {names : List Sql.Name} :
      Rearranges s (.dropTables ifExists names) (.ok () (s.without (names.map Sql.Name.last)))
  | droppedUpTo {ifExists : Bool} {done more : List Sql.Name} {name : Sql.Name} {e : Error} :
      (s.without (done.map Sql.Name.last)).Refuses (.dropTables ifExists [name]) e →
      Rearranges s (.dropTables ifExists (done ++ name :: more))
        (.error e (s.without (done.map Sql.Name.last)))
  | other : Rearranges s .other (.ok () s)

theorem create_rearranges (s : Schema) (d : Sql.CreateTable) :
    s.Rearranges (.createTable d) ((step (.createTable d)).run s) := by
  cases hrun : (step (.createTable d)).run s with
  | ok _ after =>
    rcases create_ok hrun with ⟨hc, rfl⟩ | ⟨hc, rfl⟩
    · refine .existing hc ?_
      by_contra hexists
      have herror := (create_error_iff (s := after) d).2
        ⟨rfl, .existing d hc (by simpa using hexists)⟩
      exact nomatch hrun.symm.trans herror
    · exact .created hc
  | error e after =>
    obtain ⟨rfl, hrefuses⟩ := (create_error_iff d).1 hrun
    have hc : after.contains d.name.last = true := by
      cases hrefuses with
      | existing _ hc => exact hc
    exact .duplicate hc hrefuses

theorem alter_unknown {name : Sql.Name} (h : s.contains name.last = false) (op : Sql.AlterOp)
    (ops : List Sql.AlterOp) : ∃ e, s.Refuses (.alterTable name [op]) e ∧
      (step (.alterTable name (op :: ops))).run s = .error e s := by
  rw [alter_cons, EStateM.run_bind]
  have hrefuses : ∃ e, s.Refuses (.alterTable name [op]) e := by
    by_cases hop : ∃ newName, op = .renameTable newName ∧ s.contains newName.last = true
    · obtain ⟨newName, rfl, hnew⟩ := hop
      exact ⟨_, .existingTarget name newName hnew⟩
    · refine ⟨_, .unknown name op (fun newName hrename => ?_) h⟩
      simpa using fun hnew => hop ⟨newName, hrename, hnew⟩
  obtain ⟨e, hrefuses⟩ := hrefuses
  rw [(alter_error_iff name op).2 ⟨rfl, hrefuses⟩]
  exact ⟨e, hrefuses, rfl⟩

theorem step_rearranges (s : Schema) (statement : Sql.Statement) :
    s.Rearranges statement ((step statement).run s) := by
  cases statement with
  | createTable d => exact create_rearranges s d
  | alterTable name ops =>
    cases hc : s.contains name.last with
    | true =>
      obtain ⟨before, t, rest, htables, hbefore, ht⟩ := exists_located hc
      rcases alterAll_located ops htables hbefore ht with
        hrun | ⟨done, op, more, e, rfl, hrefuses, hrun⟩
      · exact hrun ▸ .altered htables ht
      · exact hrun ▸ .alteredUpTo htables ht hrefuses
    | false =>
      cases ops with
      | nil => exact .idle
      | cons op ops =>
        obtain ⟨e, hrefuses, hrun⟩ := alter_unknown hc op ops
        exact hrun ▸ .unknown hc hrefuses
  | dropTables ifExists names =>
    rcases dropAll_run ifExists names s with hrun | ⟨done, name, more, e, rfl, hrefuses, hrun⟩
    · exact hrun ▸ .dropped
    · exact hrun ▸ .droppedUpTo hrefuses
  | other => exact .other

theorem without_cons (before : List Table) (u : Table) (rest : List Table) {names : List String}
    (hu : u.name ∈ names) :
    (⟨before ++ u :: rest⟩ : Schema).without names = (⟨before ++ rest⟩ : Schema).without names := by
  simp [without, hu]

/-- Whatever is done of some operations, the table keeps to the names that they speak of. -/
theorem altered_without {name : Sql.Name} {ops done : List Sql.AlterOp}
    (htables : s.tables = before ++ t :: rest) (ht : t.name = name.last) (hdone : done <+: ops) :
    (⟨before ++ done.foldl Table.behind t :: rest⟩ : Schema).without
      (Sql.Statement.alterTable name ops).tableNames =
        s.without (Sql.Statement.alterTable name ops).tableNames := by
  have hs : s = ⟨before ++ t :: rest⟩ := congrArg mk htables
  have hnames : t.name :: (done.filterMap Sql.AlterOp.newName?).map Sql.Name.last ⊆
      (Sql.Statement.alterTable name ops).tableNames := by
    rw [ht]
    exact List.cons_subset_cons _ ((hdone.filterMap _).map _).subset
  rw [hs, without_cons _ _ _ (hnames (Table.name_foldl_behind t done)),
    without_cons _ _ _ (hnames List.mem_cons_self)]

/-- The tables that a statement does not speak of are left as they are, in their order. -/
theorem behind_without (s : Schema) (statement : Sql.Statement) :
    (s.behind statement).without statement.tableNames = s.without statement.tableNames := by
  have h := step_rearranges s statement
  rw [behind]
  generalize (step statement).run s = result at h ⊢
  cases h with
  | created =>
    rename_i d _
    have hname : (Table.ofDefinition d).name ∈ (Sql.Statement.createTable d).tableNames :=
      List.mem_singleton.2 (Table.name_ofDefinition d)
    rw [without_cons s.tables _ [] hname, List.append_nil]
  | altered htables ht => exact altered_without htables ht (List.prefix_refl _)
  | alteredUpTo htables ht => exact altered_without htables ht (List.prefix_append _ _)
  | dropped => exact without_of_subset (List.Subset.refl _)
  | droppedUpTo => exact without_of_subset ((List.prefix_append _ _).map _).subset
  | existing | duplicate | idle | unknown | other => rfl

theorem nodup_replace {u : Table} (h : ((before ++ t :: rest).map (·.name)).Nodup)
    (hu : u.name = t.name ∨ ∀ b ∈ before ++ t :: rest, b.name ≠ u.name) :
    ((before ++ u :: rest).map (·.name)).Nodup := by
  rw [List.map_append, List.map_cons] at h ⊢
  rcases hu with hsame | hfresh
  · rwa [hsame]
  · have hothers := (List.nodup_middle.1 h).of_cons
    refine List.nodup_middle.2 (List.nodup_cons.2 ⟨fun hmem => ?_, hothers⟩)
    rw [← List.map_append] at hmem
    obtain ⟨b, hb, hname⟩ := List.mem_map.1 hmem
    have hsublist : (before ++ rest).Sublist (before ++ t :: rest) :=
      (List.sublist_cons_self t rest).append_left before
    exact hfresh b (hsublist.subset hb) hname

theorem alter_nodup {name : Sql.Name} {op : Sql.AlterOp} (hs : (s.tables.map (·.name)).Nodup)
    (hrun : (step (.alterTable name [op])).run s = .ok () after) :
    (after.tables.map (·.name)).Nodup := by
  cases hc : s.contains name.last with
  | false =>
    obtain ⟨e, -, herror⟩ := alter_unknown hc op []
    exact nomatch hrun.symm.trans herror
  | true =>
    obtain ⟨before, t, rest, htables, hbefore, ht⟩ := exists_located hc
    rcases alter_located op htables hbefore ht with ⟨e, -, herror⟩ | ⟨hok, hfresh⟩
    · exact nomatch hrun.symm.trans herror
    obtain rfl : _ = after := by simpa [hrun, eq_comm] using hok
    rw [htables] at hs
    refine nodup_replace hs ?_
    rw [Table.name_behind]
    cases hnew : op.newName? with
    | none => exact .inl rfl
    | some newName => exact .inr (htables ▸ contains_eq_false_iff.1 (hfresh newName hnew))

/-- No two tables share a name behind a replay, whatever of it has failed. -/
theorem replay_nodup (statements : List Sql.Statement) :
    ((empty.replayFrom 1 statements).1.tables.map (·.name)).Nodup := by
  let Unique (s : Schema) : Prop := (s.tables.map (·.name)).Nodup
  have hempty : Unique empty := List.nodup_nil
  refine replayFrom_keeps ?_ hempty 1
  intro statement _ part hpart s after hs hrun
  cases statement with
  | createTable d =>
    obtain rfl := List.mem_singleton.1 hpart
    rcases create_ok hrun with ⟨-, rfl⟩ | ⟨hc, rfl⟩
    · exact hs
    · simp only [Unique, List.map_append, List.map_cons, List.map_nil, Table.name_ofDefinition]
      refine List.nodup_append_comm.1 (List.nodup_cons.2 ⟨fun hmem => ?_, hs⟩)
      obtain ⟨t, ht, hname⟩ := List.mem_map.1 hmem
      exact contains_eq_false_iff.1 hc t ht hname
  | alterTable name ops =>
    obtain ⟨name, op, -, rfl⟩ := mem_statements hpart
    exact alter_nodup hs hrun
  | dropTables ifExists names =>
    obtain ⟨name, -, rfl⟩ := List.mem_map.1 hpart
    rw [drop_ok hrun]
    exact (List.filter_sublist.map _).nodup hs
  | other =>
    obtain rfl := List.mem_singleton.1 hpart
    obtain rfl : s = after := by simpa [step] using hrun
    exact hs

/-- Tables are told apart by name behind every replay. A further statement puts a new table behind
the others, changes one in its place or drops those of its names, and leaves the others alone. Where
it fails, it does so up to its first part that is refused. -/
theorem replay_rearranges (statements : List Sql.Statement) (statement : Sql.Statement) :
    let s := (empty.replayFrom 1 statements).1
    let after := (empty.replayFrom 1 (statements ++ [statement])).1
    (s.tables.map (·.name)).Nodup ∧ after = s.behind statement ∧
      s.Rearranges statement ((step statement).run s) ∧
      after.without statement.tableNames = s.without statement.tableNames := by
  intro s after
  have hafter : after = s.behind statement := by
    simp only [after, s, replayFrom_schema, List.foldl_append, List.foldl_cons, List.foldl_nil]
  refine ⟨replay_nodup statements, hafter, step_rearranges s statement, ?_⟩
  rw [hafter, behind_without]

end Schema

end SqlModels
