import SqlModels.Model.Render
import SqlModels.Proofs.Model.Rejection

/-!
The two policies for decimals. They reject the same columns, and of what they make of the others
only the value types of decimals differ: in the generated code, the types at the ends of their lines
in the interface and in the class.
-/

namespace SqlModels

/-- The attributes of a column with decimals as strings and with decimals as numbers. They are equal
but for the value type of a decimal. -/
structure Column.Twins (c : Column) (p : Attribute × Attribute) : Prop where
  same : p.2 = { p.1 with valueType := p.2.valueType }
  decimal : c.type.datatype = "decimal" → p.1.valueType = .string ∧ p.2.valueType = .number
  other : c.type.datatype ≠ "decimal" → p.1.valueType = p.2.valueType

/-- The models of a table with decimals as strings and with decimals as numbers. -/
structure Table.Twins (t : Table) (p : Model × Model) : Prop where
  name : p.1.name = p.2.name
  attributes : ∃ pairs : List (Attribute × Attribute), p.1.attributes = pairs.map Prod.fst ∧
    p.2.attributes = pairs.map Prod.snd ∧ List.Forall₂ Column.Twins t.columns pairs

/-- The lines of a column under both policies. They are equal but for the type at their ends, and
that differs for a decimal only. -/
def Column.TwinLines (c : Column) (lines : Text × Text) : Prop :=
  ∃ (head : Text) (x y : ValueType),
    lines.1 = head ++ x.name.toList ++ ";\n".toList ∧
      lines.2 = head ++ y.name.toList ++ ";\n".toList ∧
      if c.type.datatype = "decimal" then x = .string ∧ y = .number else x = y

/-- The bodies of a region with a line for each column of a table, under both policies. -/
def Table.TwinBodies (t : Table) (bodies : Option Text × Option Text) : Prop :=
  ∃ lines : List (Text × Text), bodies.1 = some (lines.map Prod.fst).flatten ∧
    bodies.2 = some (lines.map Prod.snd).flatten ∧ List.Forall₂ Column.TwinLines t.columns lines

namespace Column

variable {c : Column} {p : Attribute × Attribute}

theorem Twins.interfaceLines (h : c.Twins p) :
    c.TwinLines (p.1.interfaceLine, p.2.interfaceLine) := by
  obtain ⟨a, b⟩ := p
  obtain ⟨hsame, hdecimal, hother⟩ := h
  dsimp only at hsame hdecimal hother
  refine ⟨Text.ofPieces ["  ", a.name, if a.isRequired then "" else "?", ": "], a.valueType,
    b.valueType, ?_, ?_, ?_⟩
  · simp [Attribute.interfaceLine]
  · rw [hsame]
    simp [Attribute.interfaceLine, Attribute.isRequired]
  · split
    · exact hdecimal ‹_›
    · exact hother ‹_›

theorem Twins.classLines (h : c.Twins p) : c.TwinLines (p.1.classLine, p.2.classLine) := by
  obtain ⟨a, b⟩ := p
  obtain ⟨hsame, hdecimal, hother⟩ := h
  dsimp only at hsame hdecimal hother
  refine ⟨Text.ofPieces ["  public ", a.name, if a.isRequired then "!" else "", ": "], a.valueType,
    b.valueType, ?_, ?_, ?_⟩
  · simp [Attribute.classLine]
  · rw [hsame]
    simp [Attribute.classLine, Attribute.isRequired]
  · split
    · exact hdecimal ‹_›
    · exact hother ‹_›

theorem Twins.definition_eq (h : c.Twins p) : p.1.definition = p.2.definition := by
  obtain ⟨a, b⟩ := p
  rw [h.same]
  rfl

end Column

/-- The policies reject the same types, and give the others the same storage type. -/
theorem AttributeType.ofColumnType_policies (type : ColumnType) (unsigned : Bool) :
    (∃ e, ∀ policy, ofColumnType policy type unsigned = .error e) ∨
      ∃ (storage : String) (x y : ValueType),
        ofColumnType ⟨true⟩ type unsigned = .ok ⟨storage, x⟩ ∧
          ofColumnType ⟨false⟩ type unsigned = .ok ⟨storage, y⟩ ∧
          if type.datatype = "decimal" then x = .string ∧ y = .number else x = y := by
  unfold ofColumnType
  dsimp only
  split
  case h_12 => exact .inl ⟨_, fun _ => rfl⟩
  all_goals simp_all

namespace Column

variable {c : Column} {t : Table}

theorem isMapped_policies (c : Column) : c.isMapped ⟨true⟩ = c.isMapped ⟨false⟩ := by
  unfold isMapped
  rcases AttributeType.ofColumnType_policies c.type c.options.unsigned with
    ⟨e, herror⟩ | ⟨storage, x, y, hstrings, hnumbers, -⟩
  · rw [herror, herror]
  · rw [hstrings, hnumbers]
    rfl

theorem twins_of_shows {p : Attribute × Attribute} (hstrings : p.1.Shows ⟨true⟩ t c)
    (hnumbers : p.2.Shows ⟨false⟩ t c) : c.Twins p := by
  obtain ⟨⟨name, storage, x, allowNull, autoIncrement, default, primaryKey⟩,
    ⟨name', storage', y, allowNull', autoIncrement', default', primaryKey'⟩⟩ := p
  obtain ⟨rfl, htype, rfl, rfl, rfl, hkey⟩ := hstrings
  obtain ⟨rfl, htype', rfl, rfl, rfl, hkey'⟩ := hnumbers
  obtain rfl : primaryKey = primaryKey' := Bool.eq_iff_iff.2 (hkey.trans hkey'.symm)
  rcases AttributeType.ofColumnType_policies c.type c.options.unsigned with
    ⟨e, herror⟩ | ⟨storage, x, y, hstorage, hstorage', hvalues⟩
  · exact nomatch htype.symm.trans (herror _)
  · cases hstorage.symm.trans htype
    cases hstorage'.symm.trans htype'
    refine ⟨rfl, fun hdecimal => ?_, fun hother => ?_⟩
    · rwa [if_pos hdecimal] at hvalues
    · rwa [if_neg hother] at hvalues

end Column

/-- Two images of one list make a list of pairs. -/
theorem exists_pairs {α β : Type} {R S : α → β → Prop} {items : List α} {first second : List β}
    (hfirst : List.Forall₂ R items first) (hsecond : List.Forall₂ S items second) :
    ∃ pairs : List (β × β), first = pairs.map Prod.fst ∧ second = pairs.map Prod.snd ∧
      List.Forall₂ (fun item p => R item p.1 ∧ S item p.2) items pairs := by
  induction hfirst generalizing second with
  | nil =>
    cases hsecond
    exact ⟨[], rfl, rfl, .nil⟩
  | @cons item x items first hx hrest ih =>
    obtain ⟨y, rest, hy, hrest', rfl⟩ := List.forall₂_cons_left_iff.1 hsecond
    obtain ⟨pairs, rfl, rfl, hpairs⟩ := ih hrest'
    exact ⟨(x, y) :: pairs, rfl, rfl, .cons ⟨hx, hy⟩ hpairs⟩

/-- What is written of either member of each pair is the same if it is so for a single pair. -/
theorem flatMap_pairs {α β : Type} {R : α → β × β → Prop} {items : List α}
    {pairs : List (β × β)} (h : List.Forall₂ R items pairs) {write : β → Text}
    (hsame : ∀ item p, R item p → write p.1 = write p.2) :
    (pairs.map Prod.fst).flatMap write = (pairs.map Prod.snd).flatMap write := by
  induction h with
  | nil => rfl
  | cons hp _ ih => simp only [List.map_cons, List.flatMap_cons, hsame _ _ hp, ih]

namespace Table

variable {t : Table} {p : Model × Model}

theorem rejections_policies (t : Table) : t.rejections ⟨true⟩ = t.rejections ⟨false⟩ := by
  simp only [rejections, Column.isMapped_policies]

theorem twins_of_shows (hstrings : p.1.Shows ⟨true⟩ t) (hnumbers : p.2.Shows ⟨false⟩ t) :
    t.Twins p := by
  obtain ⟨pairs, hfirst, hsecond, hpairs⟩ := exists_pairs hstrings.attributes hnumbers.attributes
  exact ⟨hstrings.name.trans hnumbers.name.symm, pairs, hfirst, hsecond,
    hpairs.imp fun _ _ h => Column.twins_of_shows h.1 h.2⟩

/-- A region with a line for each attribute has twin bodies if it has twin lines. -/
theorem Twins.bodies (h : t.Twins p) {line : Attribute → Text}
    (hline : ∀ c q, Column.Twins c q → c.TwinLines (line q.1, line q.2)) :
    t.TwinBodies (some (p.1.attributes.flatMap line), some (p.2.attributes.flatMap line)) := by
  obtain ⟨pairs, hfirst, hsecond, hpairs⟩ := h.attributes
  refine ⟨pairs.map fun q => (line q.1, line q.2), ?_, ?_, ?_⟩
  · simp [hfirst, List.flatMap_def, Function.comp_def]
  · simp [hsecond, List.flatMap_def, Function.comp_def]
  · rw [List.forall₂_map_right_iff]
    exact hpairs.imp hline

theorem Twins.definitions_eq (h : t.Twins p) : p.1.definitions = p.2.definitions := by
  obtain ⟨pairs, hfirst, hsecond, hpairs⟩ := h.attributes
  rw [Model.definitions, Model.definitions, hfirst, hsecond]
  exact flatMap_pairs hpairs fun _ _ h => h.definition_eq

end Table

/-- The fragments of an index are written from the names of its models. -/
theorem Index.fragments_pairs {tables : List Table} {pairs : List (Model × Model)}
    (h : List.Forall₂ Table.Twins tables pairs) :
    Index.fragments (pairs.map Prod.fst) = Index.fragments (pairs.map Prod.snd) := by
  funext r
  cases r <;> simp only [Index.fragments, Index.importLines, Index.bootstrapLines,
    Index.exportLines] <;> congr 1
  · exact flatMap_pairs h fun _ _ h => by simp only [Model.importLine, h.name]
  · exact flatMap_pairs h fun _ _ h => by simp only [Model.bootstrapLine, h.name]
  · exact flatMap_pairs h fun _ _ h => by simp only [Model.exportLines, h.name]

/-- An index file is written from its fragments. -/
theorem Index.file_eq_of_fragments {models others : List Model}
    (h : Index.fragments models = Index.fragments others) :
    Index.file models = Index.file others := by
  have himports := congrFun h .imports
  have hbootstraps := congrFun h .bootstraps
  have hexports := congrFun h .exports
  simp only [Index.fragments, Option.some.injEq] at himports hbootstraps hexports
  rw [Index.file, Index.file, himports, hbootstraps, hexports]

/-- The policy for decimals is a matter of their value types only. With decimals as strings and with
decimals as numbers, tables have the same error, or models that are equal but for the value types of
decimals: the index and the column definitions are the same, and lines of the interface and of the
class differ only for decimals, in the types at their ends. -/
theorem ofTables_policies (tables : List Table) :
    (∃ e, Model.ofTables ⟨true⟩ tables = .error e ∧ Model.ofTables ⟨false⟩ tables = .error e) ∨
      ∃ pairs : List (Model × Model),
        Model.ofTables ⟨true⟩ tables = .ok (pairs.map Prod.fst) ∧
          Model.ofTables ⟨false⟩ tables = .ok (pairs.map Prod.snd) ∧
          List.Forall₂ Table.Twins tables pairs ∧
          Index.fragments (pairs.map Prod.fst) = Index.fragments (pairs.map Prod.snd) ∧
          Index.file (pairs.map Prod.fst) = Index.file (pairs.map Prod.snd) ∧
          List.Forall₂ (fun t p =>
            p.1.fragments .columnDefinitions = p.2.fragments .columnDefinitions ∧
              ∀ r ∈ [Region.interfaceAttributes, Region.classAttributes],
                t.TwinBodies (p.1.fragments r, p.2.fragments r)) tables pairs := by
  have hstrings := @Model.ofTables_eq ⟨true⟩ tables
  have hnumbers := @Model.ofTables_eq ⟨false⟩ tables
  have hrejected : tables.flatMap (Table.rejections ⟨true⟩) =
      tables.flatMap (Table.rejections ⟨false⟩) :=
    congrArg tables.flatMap (funext Table.rejections_policies)
  rw [hrejected] at hstrings
  cases hlist : Error.ofList? (tables.flatMap (Table.rejections ⟨false⟩)) with
  | some e =>
    refine .inl ⟨e, ?_, ?_⟩
    · rw [hstrings, Error.unlessAny, hlist]
    · rw [hnumbers, Error.unlessAny, hlist]
  | none =>
    rw [Error.unlessAny, hlist] at hstrings hnumbers
    obtain ⟨pairs, hfirst, hsecond, hpairs⟩ := exists_pairs
      (Model.ofTables_eq_ok_iff_shows.1 hstrings) (Model.ofTables_eq_ok_iff_shows.1 hnumbers)
    have htwins : List.Forall₂ Table.Twins tables pairs :=
      hpairs.imp fun _ _ h => Table.twins_of_shows h.1 h.2
    have hfragments := Index.fragments_pairs htwins
    refine .inr ⟨pairs, by rw [hstrings, hfirst], by rw [hnumbers, hsecond], htwins, hfragments,
      Index.file_eq_of_fragments hfragments, htwins.imp fun t p h => ⟨?_, ?_⟩⟩
    · exact congrArg some h.definitions_eq
    · exact List.forall_mem_cons.2 ⟨h.bodies fun _ _ => Column.Twins.interfaceLines,
        List.forall_mem_singleton.2 (h.bodies fun _ _ => Column.Twins.classLines)⟩

end SqlModels
