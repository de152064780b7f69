import SqlModels.Proofs.Schema.Names

/-!
Statements about different tables. A change that looks up and touches tables of some names only
leaves all others alone, so it commutes with every change that keeps to other names, where either of
them fails as well.
-/

namespace SqlModels

/-- Whether a statement is about tables that are there already. -/
def Sql.Statement.isAlteration : Sql.Statement → Bool
  | .alterTable _ _ | .dropTables _ _ => true
  | .createTable _ | .other => false

namespace Run

variable {σ : Type}

/-- What a run leaves behind, whether or not it fails. -/
def state : EStateM.Result Error σ Unit → σ
  | .ok () s => s
  | .error _ s => s

/-- Why a run fails, if it does. -/
def failure? : EStateM.Result Error σ Unit → Option Error
  | .ok () _ => none
  | .error e _ => some e

theorem state_modify (f : σ → σ) (s : σ) : state ((modify f : EStateM Error σ Unit).run s) = f s :=
  rfl

theorem failure?_modify (f : σ → σ) (s : σ) :
    failure? ((modify f : EStateM Error σ Unit).run s) = none :=
  rfl

/-- Two changes that do not notice each other. -/
def Commute (p q : EStateM Error σ Unit) : Prop :=
  ∀ s, state (q.run (state (p.run s))) = state (p.run (state (q.run s))) ∧
    failure? (p.run (state (q.run s))) = failure? (p.run s) ∧
    failure? (q.run (state (p.run s))) = failure? (q.run s)

variable {p q r : EStateM Error σ Unit}

theorem Commute.symm (h : Commute p q) : Commute q p :=
  fun s => ⟨(h s).1.symm, (h s).2.symm⟩

theorem Commute.pure (p : EStateM Error σ Unit) : Commute p (pure ()) :=
  fun _ => ⟨rfl, rfl, rfl⟩

theorem Commute.throw (p : EStateM Error σ Unit) (e : Error) : Commute p (throw e) :=
  fun _ => ⟨rfl, rfl, rfl⟩

/-- A run of two changes is a run of the second behind the first, unless the first fails. -/
theorem bind_cases (q r : EStateM Error σ Unit) (s : σ) :
    (failure? (q.run s) = none ∧ (q >>= fun _ => r).run s = r.run (state (q.run s))) ∨
      ∃ e, failure? (q.run s) = some e ∧
        (q >>= fun _ => r).run s = .error e (state (q.run s)) := by
  rw [EStateM.run_bind]
  cases q.run s with
  | ok _ next => exact .inl ⟨rfl, rfl⟩
  | error e next => exact .inr ⟨e, rfl, rfl⟩

theorem Commute.bind (hq : Commute p q) (hr : Commute p r) : Commute p (q >>= fun _ => r) := by
  intro s
  obtain ⟨hstate, hleft, hright⟩ := hq s
  -- the first change fails behind the other one just as it fails before it
  rcases bind_cases q r s with ⟨hok, hrun⟩ | ⟨e, herror, hrun⟩
  · rcases bind_cases q r (state (p.run s)) with ⟨-, hrun'⟩ | ⟨e, herror', -⟩
    · obtain ⟨hstate', hleft', hright'⟩ := hr (state (q.run s))
      rw [hrun, hrun', hstate]
      exact ⟨hstate', hleft'.trans hleft, hright'⟩
    · cases herror'.symm.trans (hright.trans hok)
  · rcases bind_cases q r (state (p.run s)) with ⟨hok', -⟩ | ⟨e', herror', hrun'⟩
    · cases hok'.symm.trans (hright.trans herror)
    · obtain rfl := Option.some.inj (herror'.symm.trans (hright.trans herror))
      rw [hrun, hrun']
      exact ⟨hstate, hleft, rfl⟩

theorem test_run (test : σ → Bool) (q r : EStateM Error σ Unit) (s : σ) :
    (get >>= fun s => if test s then q else r).run s = if test s then q.run s else r.run s := by
  simp only [EStateM.run_bind, EStateM.run_get]
  split <;> rfl

/-- A change that looks first, at what the other change leaves as it is. -/
theorem Commute.test {test : σ → Bool} (htest : ∀ s, test (state (p.run s)) = test s)
    (hq : Commute p q) (hr : Commute p r) :
    Commute p (get >>= fun s => if test s then q else r) := by
  intro s
  simp only [test_run, htest]
  split
  · exact hq s
  · exact hr s

end Run

namespace Table

open Run

variable {t : Table} {name other : String} {change change' : Change Unit} {rest : List Table}

theorem state_changeFirst (name : String) (change : Change Unit) (t : Table) (rest : List Table) :
    state (changeFirst name change (t :: rest)) =
      if t.name = name then state (change.run t) :: rest
      else t :: state (changeFirst name change rest) := by
  rw [changeFirst]
  split
  · cases change.run t <;> rfl
  · cases changeFirst name change rest <;> rfl

theorem failure?_changeFirst (name : String) (change : Change Unit) (t : Table)
    (rest : List Table) : failure? (changeFirst name change (t :: rest)) =
      if t.name = name then failure? (change.run t)
      else failure? (changeFirst name change rest) := by
  rw [changeFirst]
  split
  · cases change.run t <;> rfl
  · cases changeFirst name change rest <;> rfl

/-- A change of a table that gives it no name but those listed. -/
def KeepsTo (names : List String) (name : String) (change : Change Unit) : Prop :=
  name ∈ names ∧ ∀ t : Table, t.name = name → (state (change.run t)).name ∈ names

variable {names names' : List String}

theorem KeepsTo.ne (h : KeepsTo names name change) (hother : other ∉ names) : name ≠ other :=
  fun heq => hother (heq ▸ h.1)

theorem KeepsTo.state_ne (h : KeepsTo names name change) (hother : other ∉ names)
    (ht : t.name = name) : (state (change.run t)).name ≠ other :=
  fun heq => hother (heq ▸ h.2 t ht)

theorem changeFirst_commute (h : KeepsTo names name change) (h' : KeepsTo names' other change')
    (hapart : names.Disjoint names') :
    Run.Commute (changeFirst name change) (changeFirst other change') := by
  have hname : name ∉ names' := fun hmem => hapart h.1 hmem
  have hother : other ∉ names := fun hmem => hapart hmem h'.1
  intro tables
  simp only [EStateM.run]
  induction tables with
  | nil => exact ⟨rfl, rfl, rfl⟩
  | cons t rest ih =>
    by_cases ht : t.name = name
    · subst ht
      have hnext : t.name ≠ other := h.ne hother
      have hnew : (state (change.run t)).name ≠ other := h.state_ne hother rfl
      simp [state_changeFirst, failure?_changeFirst, hnext, hnew]
    · by_cases ht' : t.name = other
      · subst ht'
        have hnew : (state (change'.run t)).name ≠ name := h'.state_ne hname rfl
        simp [state_changeFirst, failure?_changeFirst, ht, hnew]
      · simpa [state_changeFirst, failure?_changeFirst, ht, ht'] using ih

theorem changeFirst_drop_commute (h : KeepsTo names name change) (hother : other ∉ names) :
    Run.Commute (changeFirst name change)
      (modify fun tables => tables.filter (·.name ≠ other)) := by
  intro tables
  simp only [state_modify, failure?_modify, and_true]
  simp only [EStateM.run]
  induction tables with
  | nil => exact ⟨rfl, rfl⟩
  | cons t rest ih =>
    by_cases ht : t.name = name
    · subst ht
      have hkept : t.name ≠ other := h.ne hother
      have hnew : (state (change.run t)).name ≠ other := h.state_ne hother rfl
      simp [state_changeFirst, failure?_changeFirst, hkept, hnew]
    · by_cases hdropped : t.name = other
      · subst hdropped
        simpa [state_changeFirst, failure?_changeFirst, ht] using ih
      · simpa [state_changeFirst, failure?_changeFirst, ht, hdropped] using ih

theorem any_changeFirst (h : KeepsTo names name change) (hother : other ∉ names)
    (tables : List Table) : (state (changeFirst name change tables)).any (·.name == other) =
      tables.any (·.name == other) := by
  induction tables with
  | nil => rfl
  | cons t rest ih =>
    rw [state_changeFirst]
    split
    · next ht =>
      have hold : (t.name == other) = false := beq_eq_false_iff_ne.2 (ht ▸ h.ne hother)
      have hnew : ((state (change.run t)).name == other) = false :=
        beq_eq_false_iff_ne.2 (h.state_ne hother ht)
      simp only [List.any_cons, hold, hnew]
    · simp only [List.any_cons, ih]

/-- Behind an operation, failing or not, a table is called as the operation says. -/
theorem state_alter (t : Table) {op : Sql.AlterOp} (hop : ∀ newName, op ≠ .renameTable newName) :
    (state ((alter op).run t)).name = t.name := by
  cases hrun : (alter op).run t with
  | ok _ after => exact alter_name hrun
  | error e after =>
    obtain ⟨rfl, -⟩ := (alter_error_iff op hop).1 hrun
    rfl

end Table

namespace Schema

open Run Table

variable {s : Schema} {names names' : List String} {name : String} {p q : Change Unit}

/-- A change that looks for tables of the given names only, and leaves all others alone. -/
inductive Speaks (names : List String) : Change Unit → Prop
  | pure : Speaks names (pure ())
  | throw (e : Error) : Speaks names (throw e)
  | update {name : String} {change : Table.Change Unit} :
      KeepsTo names name change → Speaks names (update name change)
  | drop {name : String} : name ∈ names →
      Speaks names (modify fun s => ⟨s.tables.filter (·.name ≠ name)⟩)
  | test {name : String} {p q : Change Unit} : name ∈ names → Speaks names p → Speaks names q →
      Speaks names (get >>= fun s => if s.contains name then p else q)
  | bind {p q : Change Unit} : Speaks names p → Speaks names q →
      Speaks names (p >>= fun _ => q)

theorem state_update (name : String) (change : Table.Change Unit) (s : Schema) :
    state ((update name change).run s) = ⟨state (changeFirst name change s.tables)⟩ := by
  rw [update_run]
  cases changeFirst name change s.tables <;> rfl

theorem failure?_update (name : String) (change : Table.Change Unit) (s : Schema) :
    failure? ((update name change).run s) = failure? (changeFirst name change s.tables) := by
  rw [update_run]
  cases changeFirst name change s.tables <;> rfl

theorem Speaks.contains_eq (h : Speaks names p) (hname : name ∉ names) (s : Schema) :
    (state (p.run s)).contains name = s.contains name := by
  induction h generalizing s with
  | pure | throw e => rfl
  | update hkeeps => rw [state_update, contains, any_changeFirst hkeeps hname, contains]
  | @drop dropped hmem =>
    have hkept (t : Table) (ht : t.name = name) : t.name ≠ dropped :=
      fun heq => hname (ht ▸ heq ▸ hmem)
    rw [state_modify, Bool.eq_iff_iff]
    simp only [contains, List.any_eq_true, List.mem_filter, beq_iff_eq, decide_eq_true_eq]
    exact exists_congr fun t => ⟨fun h => ⟨h.1.1, h.2⟩, fun h => ⟨⟨h.1, hkept t h.2⟩, h.2⟩⟩
  | test hmem hp hq ihp ihq =>
    rw [test_run]
    split
    · exact ihp s
    · exact ihq s
  | @bind p q hp hq ihp ihq =>
    rcases bind_cases p q s with ⟨-, hrun⟩ | ⟨e, -, hrun⟩
    · rw [hrun, ihq, ihp]
    · rw [hrun]
      exact ihp s

theorem Commute.update_update {name other : String} {change change' : Table.Change Unit}
    (h : KeepsTo names name change) (h' : KeepsTo names' other change')
    (hapart : names.Disjoint names') : Run.Commute (update name change) (update other change') := by
  intro s
  obtain ⟨hstate, hfailures⟩ := changeFirst_commute h h' hapart s.tables
  simp only [state_update, failure?_update]
  exact ⟨congrArg mk hstate, hfailures⟩

theorem Commute.update_drop {name other : String} {change : Table.Change Unit}
    (h : KeepsTo names name change) (hother : other ∉ names) :
    Run.Commute (update name change) (modify fun s => ⟨s.tables.filter (·.name ≠ other)⟩) := by
  intro s
  obtain ⟨hstate, hfailures⟩ := changeFirst_drop_commute h hother s.tables
  simp only [state_update, failure?_update]
  exact ⟨congrArg mk hstate, hfailures⟩

theorem Commute.drop_drop (name other : String) : Run.Commute
    (modify fun s : Schema => ⟨s.tables.filter (·.name ≠ name)⟩)
    (modify fun s => ⟨s.tables.filter (·.name ≠ other)⟩) := by
  intro s
  simp only [state_modify, failure?_modify, List.filter_filter, Bool.and_comm, and_self]

/-- Changes that speak of different tables commute. -/
theorem Speaks.commute (hp : Speaks names p) (hq : Speaks names' q)
    (hapart : names.Disjoint names') : Run.Commute p q := by
  have hother {name : String} (hname : name ∈ names') : name ∉ names :=
    fun hmem => hapart hmem hname
  induction hp with
  | pure => exact (Commute.pure q).symm
  | throw e => exact (Commute.throw q e).symm
  | test hname _ _ ihp ihq =>
    exact (Commute.test (fun s => hq.contains_eq (hapart hname) s) ihp.symm ihq.symm).symm
  | bind _ _ ihp ihq => exact (Commute.bind ihp.symm ihq.symm).symm
  | @update name change h =>
    induction hq with
    | pure => exact Commute.pure _
    | throw e => exact Commute.throw _ e
    | test hname _ _ ihp ihq =>
      exact Commute.test (fun s => (Speaks.update h).contains_eq (hother hname) s) ihp ihq
    | bind _ _ ihp ihq => exact Commute.bind ihp ihq
    | update h' => exact Commute.update_update h h' hapart
    | drop hname => exact Commute.update_drop h (hother hname)
  | @drop name hname =>
    induction hq with
    | pure => exact Commute.pure _
    | throw e => exact Commute.throw _ e
    | test hname' _ _ ihp ihq =>
      exact Commute.test (fun s => (Speaks.drop hname).contains_eq (hother hname') s) ihp ihq
    | bind _ _ ihp ihq => exact Commute.bind ihp ihq
    | update h' => exact (Commute.update_drop h' (hapart hname)).symm
    | drop => exact Commute.drop_drop _ _

theorem Speaks.mono (h : Speaks names p) (hsubset : names ⊆ names') : Speaks names' p := by
  induction h with
  | pure => exact .pure
  | throw e => exact .throw e
  | update h => exact .update ⟨hsubset h.1, fun t ht => hsubset (h.2 t ht)⟩
  | drop hname => exact .drop (hsubset hname)
  | test hname _ _ ihp ihq => exact .test (hsubset hname) ihp ihq
  | bind _ _ ihp ihq => exact .bind ihp ihq

theorem Speaks.forM {parts : List Sql.Statement}
    (hparts : ∀ part ∈ parts, Speaks names (step part)) : Speaks names (parts.forM step) := by
  induction parts with
  | nil => exact .pure
  | cons part rest ih =>
    obtain ⟨hpart, hrest⟩ := List.forall_mem_cons.1 hparts
    exact .bind hpart (ih hrest)

theorem alter_speaks (name : Sql.Name) (op : Sql.AlterOp) :
    Speaks (Sql.Statement.alterTable name [op]).tableNames (step (.alterTable name [op])) := by
  cases hnew : op.newName? with
  | some newName =>
    obtain rfl := Sql.AlterOp.newName?_eq_some_iff.1 hnew
    rw [step_rename]
    have hmem :
        newName.last ∈ (Sql.Statement.alterTable name [.renameTable newName]).tableNames := by
      simp [Sql.Statement.tableNames, hnew]
    exact .test hmem (.throw _) (.update ⟨List.mem_cons_self, fun t _ => hmem⟩)
  | none =>
    have hop := Sql.AlterOp.newName?_eq_none_iff.1 hnew
    rw [step_operation name hop]
    exact .update ⟨List.mem_cons_self, fun t ht => by
      rw [state_alter t hop, ht]; exact List.mem_cons_self⟩

theorem drop_speaks (ifExists : Bool) (name : Sql.Name) :
    Speaks [name.last] (step (.dropTables ifExists [name])) := by
  have hname : name.last ∈ [name.last] := List.mem_singleton_self _
  have hmissing :
      Speaks [name.last] (if ifExists then pure () else throw (.unknownTable name.last)) := by
    cases ifExists
    · exact .throw _
    · exact .pure
  have hdrop : Speaks [name.last] (dropOne ifExists name.last) := .test hname (.drop hname) hmissing
  simpa [step, dropAll] using hdrop

theorem statements_tableNames {part : Sql.Statement} {name : Sql.Name} {ops : List Sql.AlterOp}
    (h : part ∈ Sql.AlterOp.statements name ops) :
    part.tableNames ⊆ (Sql.Statement.alterTable name ops).tableNames := by
  induction ops generalizing name with
  | nil => cases h
  | cons op rest ih =>
    rcases List.mem_cons.1 h with rfl | h
    · simp only [Sql.Statement.tableNames]
      cases hnew : op.newName? <;> simp [hnew]
    · refine List.Subset.trans (ih h) ?_
      simp only [Sql.Statement.tableNames, op.nameBehind_eq]
      cases hnew : op.newName? <;> simp [hnew]

/-- A statement looks for the tables it names, and leaves all others alone. -/
theorem step_speaks {statement : Sql.Statement} (h : statement.isAlteration) :
    Speaks statement.tableNames (step statement) := by
  rw [step_eq_forM]
  refine .forM fun part hpart => ?_
  cases statement with
  | alterTable name ops =>
    have hnames := statements_tableNames hpart
    obtain ⟨name, op, -, rfl⟩ := mem_statements hpart
    exact (alter_speaks name op).mono hnames
  | dropTables ifExists names =>
    obtain ⟨name, hname, rfl⟩ := List.mem_map.1 hpart
    have hmem : name.last ∈ names.map Sql.Name.last := List.mem_map_of_mem hname
    exact (drop_speaks ifExists name).mono (List.cons_subset.2 ⟨hmem, List.nil_subset _⟩)
  | createTable _ | other => cases h

theorem behind_eq_state (s : Schema) (statement : Sql.Statement) :
    s.behind statement = state ((step statement).run s) := by
  rw [behind]
  cases (step statement).run s <;> rfl

/-- Statements on tables of different names can be replayed in either order: both orders make the
same schema, and neither statement fails for another reason, or fails at all, for coming second. -/
theorem alterations_commute (s : Schema) {a b : Sql.Statement} (ha : a.isAlteration)
    (hb : b.isAlteration) (hapart : a.tableNames.Disjoint b.tableNames) :
    (s.behind a).behind b = (s.behind b).behind a ∧
      failure? ((step a).run (s.behind b)) = failure? ((step a).run s) ∧
      failure? ((step b).run (s.behind a)) = failure? ((step b).run s) := by
  simp only [behind_eq_state]
  exact (step_speaks ha).commute (step_speaks hb) hapart s

/-- Both statements fail part way, the one behind a renaming and the other behind a drop. -/
theorem alterations_commute_failing :
    let n (name : String) : Sql.Name := [⟨name, none⟩]
    let a : Sql.Statement :=
      .alterTable (n "a") [.renameTable (n "c"), .dropColumn ⟨"x", none⟩ false]
    let b : Sql.Statement := .dropTables false [n "b", n "d"]
    let s : Schema := ⟨[⟨"a", [], []⟩, ⟨"b", [], []⟩]⟩
    a.isAlteration ∧ b.isAlteration ∧ a.tableNames.Disjoint b.tableNames ∧
      (s.behind a).behind b = ⟨[⟨"c", [], []⟩]⟩ ∧ (s.behind b).behind a = ⟨[⟨"c", [], []⟩]⟩ ∧
      failure? ((step a).run (s.behind b)) = some (.unknownColumn "x") ∧
      failure? ((step b).run (s.behind a)) = some (.unknownTable "d") := by
  intro n a b s
  have hapart : a.tableNames.Disjoint b.tableNames := List.disjoint_left.2 (by decide)
  obtain ⟨hstate, hleft, hright⟩ := alterations_commute s rfl rfl hapart
  exact ⟨rfl, rfl, hapart, rfl, hstate.symm, hleft, hright⟩

end Schema

end SqlModels
