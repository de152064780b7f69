import SqlModels.Proofs.Schema.Names

/-!
Guards. A definition that allows for an existing table and a drop that allows for missing ones pass
over those and carry out the rest. The guard of a column is read, but nothing asks for it: its drop
is refused where the column is missing, as it is without a guard.
-/

namespace SqlModels

/-- The operation without its guard. -/
def Sql.AlterOp.unguarded : Sql.AlterOp → Sql.AlterOp
  | .dropColumn name _ => .dropColumn name false
  | op => op

namespace Schema

variable {s after : Schema} {e : Error}

theorem create_guarded (s : Schema) (d : Sql.CreateTable) :
    (step (.createTable { d with ifNotExists := true })).run s =
      .ok () (if s.contains d.name.last then s else ⟨s.tables ++ [Table.ofDefinition d]⟩) := by
  have hsame : Table.ofDefinition { d with ifNotExists := true } = Table.ofDefinition d := rfl
  cases hc : s.contains d.name.last <;> simp [step, create, hc, hsame]

theorem drop_guarded (s : Schema) (names : List Sql.Name) :
    (step (.dropTables true names)).run s = .ok () (s.without (names.map Sql.Name.last)) := by
  induction names generalizing s with
  | nil => exact congrArg (EStateM.Result.ok ()) s.without_nil.symm
  | cons name names ih =>
    rw [drop_cons, EStateM.run_bind]
    cases hrun : (step (.dropTables true [name])).run s with
    | error e after => cases ((drop_error_iff true name).1 hrun).2
    | ok _ after =>
      obtain rfl : after = s.without [name.last] := by simpa [without] using drop_ok hrun
      exact (ih _).trans (congrArg (EStateM.Result.ok ()) (without_without s [name.last] _))

theorem alterOne_unguarded (name : String) (op : Sql.AlterOp) :
    alterOne name op.unguarded = alterOne name op := by
  cases op <;> rfl

/-- No operation asks for its guard, wherever it stands. -/
theorem alterAll_unguarded (name : String) (ops : List Sql.AlterOp) :
    alterAll name (ops.map Sql.AlterOp.unguarded) = alterAll name ops := by
  induction ops generalizing name with
  | nil => rfl
  | cons op ops ih => simp only [List.map_cons, alterAll, alterOne_unguarded, ih]

theorem dropColumn_error_iff (name : Sql.Name) (column : Sql.Ident) (guarded : Bool) :
    (step (.alterTable name [.dropColumn column guarded])).run s = .error e after ↔ after = s ∧
      (s.contains name.last = false ∧ e = .unknownTable name.last ∨
        ∃ t, s.tables.find? (·.name == name.last) = some t ∧ t.hasColumn column.value = false ∧
          e = .unknownColumn column.value) := by
  rw [alter_error_iff]
  refine and_congr_right fun _ => ⟨fun hrefuses => ?_, ?_⟩
  · cases hrefuses with
    | unknown _ _ _ hmissing => exact .inl ⟨hmissing, rfl⟩
    | operation _ _ t _ _ ht hop =>
      cases hop with
      | unknownColumn missing hfind =>
        have hmissing : t.hasColumn column.value = false ∧ column.value = missing := by
          simpa [Sql.AlterOp.lookups] using hfind
        obtain ⟨hcolumn, rfl⟩ := hmissing
        exact .inr ⟨t, ht, hcolumn, rfl⟩
      | unhandled hop => cases hop
  · have hop (new : Sql.Name) : (.dropColumn column guarded : Sql.AlterOp) ≠ .renameTable new := by
      simp
    rintro (⟨hmissing, rfl⟩ | ⟨t, ht, hcolumn, rfl⟩)
    · exact .unknown name _ (fun new h => absurd h (hop new)) hmissing
    · have hfind : (.dropColumn column guarded : Sql.AlterOp).lookups.find?
          (fun c => !t.hasColumn c) = some column.value := by
        simp [Sql.AlterOp.lookups, hcolumn]
      exact .operation name _ t _ hop ht (.unknownColumn column.value hfind)

/-- The guards of `CREATE TABLE` and `DROP TABLE` are honoured in every schema: nothing fails, what
is there stays or is dropped, and all else is done. Those of columns change nothing, so a column is
dropped exactly if it is there. -/
theorem guards_of_tables (s : Schema) :
    (∀ d : Sql.CreateTable, (step (.createTable { d with ifNotExists := true })).run s =
      .ok () (if s.contains d.name.last then s else ⟨s.tables ++ [Table.ofDefinition d]⟩)) ∧
    (∀ names : List Sql.Name,
      (step (.dropTables true names)).run s = .ok () (s.without (names.map Sql.Name.last))) ∧
    (∀ (name : Sql.Name) (ops : List Sql.AlterOp),
      step (.alterTable name (ops.map Sql.AlterOp.unguarded)) = step (.alterTable name ops)) ∧
    ∀ (name : Sql.Name) (column : Sql.Ident) (guarded : Bool) (e : Error) (after : Schema),
      (step (.alterTable name [.dropColumn column guarded])).run s = .error e after ↔ after = s ∧
        (s.contains name.last = false ∧ e = .unknownTable name.last ∨
          ∃ t, s.tables.find? (·.name == name.last) = some t ∧ t.hasColumn column.value = false ∧
            e = .unknownColumn column.value) :=
  ⟨create_guarded s, drop_guarded s, fun name => alterAll_unguarded name.last,
    fun name column guarded _ _ => dropColumn_error_iff name column guarded⟩

/-- The drop of a missing column fails in spite of its guard. -/
theorem guard_of_column_ignored :
    let n : Sql.Name := [⟨"t", none⟩]
    let d : Sql.CreateTable := ⟨n, false, [⟨⟨"a", none⟩, .integer .int none false, []⟩], []⟩
    let statement : Sql.Statement := .alterTable n [.dropColumn ⟨"b", none⟩ true]
    ofStatements [.createTable d, statement] = .error (.inStatement 2 (.unknownColumn "b")) :=
  rfl

end Schema

end SqlModels
