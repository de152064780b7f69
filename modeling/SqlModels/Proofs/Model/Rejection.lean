import SqlModels.Proofs.Model.Mapping

/-!
Tables without models: every column whose type has no mapping is reported, once and in its place,
and there are models only if there is nothing to report.
-/

namespace SqlModels

/-- Whether the type of a column has a mapping. -/
def Column.isMapped (policy : TypePolicy) (c : Column) : Bool :=
  (AttributeType.ofColumnType policy c.type c.options.unsigned).isOk

/-- The errors of a table, one for each column without a mapping. -/
def Table.rejections (policy : TypePolicy) (t : Table) : List Error :=
  (t.columns.filter fun c => !c.isMapped policy).map fun c =>
    .inColumn t.name c.name (.unsupportedType c.type.datatype)

/-- An attribute is the image of a column of a table. -/
structure Attribute.Shows (policy : TypePolicy) (t : Table) (c : Column) (a : Attribute) :
    Prop where
  name : a.name = c.name
  type : AttributeType.ofColumnType policy c.type c.options.unsigned =
    .ok ⟨a.storageType, a.valueType⟩
  allowNull : a.allowNull = c.options.nullable
  autoIncrement : a.autoIncrement = c.options.autoIncrement
  default : a.defaultValue = c.options.default.map DefaultValue.ofLiteral
  primaryKey : a.primaryKey = true ↔ c.name ∈ t.primaryKey

/-- A model is the image of a table, position by position. -/
structure Model.Shows (policy : TypePolicy) (t : Table) (m : Model) : Prop where
  name : m.name = t.name
  attributes : List.Forall₂ (Attribute.Shows policy t) t.columns m.attributes

namespace Error

/-- Several errors are reported as one, and a single one as it is. -/
theorem unlessAny_eq_error_iff {α : Type} {errors : List Error} {value : α} {e : Error} :
    unlessAny errors value = .error e ↔
      errors = [e] ∨ 2 ≤ errors.length ∧ e = .multiple errors := by
  match errors with
  | [] => simp [unlessAny, ofList?]
  | [only] => simp [unlessAny, ofList?]
  | first :: second :: rest =>
    simp [unlessAny, ofList?, eq_comm]

end Error

variable {policy : TypePolicy} {t : Table} {c : Column}

theorem AttributeType.ofColumnType_error {type : ColumnType} {unsigned : Bool} {e : Error}
    (h : ofColumnType policy type unsigned = .error e) : e = .unsupportedType type.datatype := by
  unfold ofColumnType at h
  dsimp only at h
  split at h <;> simp_all

namespace Attribute

theorem ofColumn_eq_ok_iff {a : Attribute} :
    ofColumn policy t.primaryKey c = .ok a ↔ a.Shows policy t c := by
  obtain ⟨name, storage, value, allowNull, autoIncrement, default, primaryKey⟩ := a
  unfold ofColumn
  cases htype : AttributeType.ofColumnType policy c.type c.options.unsigned with
  | error e => exact ⟨nofun, fun h => nomatch htype.symm.trans h.type⟩
  | ok type =>
    constructor
    · intro h
      cases h
      exact ⟨rfl, htype, rfl, rfl, rfl, List.contains_iff_mem⟩
    · rintro ⟨rfl, hshown, rfl, rfl, rfl, hkey⟩
      cases htype.symm.trans hshown
      rw [← List.contains_iff_mem, ← Bool.eq_iff_iff] at hkey
      dsimp only at hkey
      rw [hkey]

theorem ofColumn_isOk : (ofColumn policy t.primaryKey c).isOk = c.isMapped policy := by
  unfold ofColumn Column.isMapped
  cases AttributeType.ofColumnType policy c.type c.options.unsigned <;> rfl

theorem ofColumn_error {e : Error} (h : ofColumn policy t.primaryKey c = .error e) :
    e = .unsupportedType c.type.datatype := by
  unfold ofColumn at h
  cases htype : AttributeType.ofColumnType policy c.type c.options.unsigned with
  | error inner =>
    rw [htype] at h
    cases h
    exact AttributeType.ofColumnType_error htype
  | ok type => simp [htype] at h

end Attribute

namespace Model

theorem ofTable_eq_ok_iff_shows {m : Model} : ofTable policy t = .ok m ↔ m.Shows policy t := by
  simp only [ofTable_eq_ok_iff, Attribute.ofColumn_eq_ok_iff]
  exact ⟨fun ⟨hname, hattributes⟩ => ⟨hname, hattributes⟩, fun h => ⟨h.name, h.attributes⟩⟩

/-- The errors of columns are those of the ones without a mapping, in the order of the columns. -/
theorem attributesOf_snd (columns : List Column) : (attributesOf policy t columns).2 =
    (columns.filter fun c => !c.isMapped policy).map fun c =>
      .inColumn t.name c.name (.unsupportedType c.type.datatype) := by
  induction columns with
  | nil => rfl
  | cons c rest ih =>
    have hmapped := @Attribute.ofColumn_isOk policy t c
    rw [attributesOf]
    cases hc : Attribute.ofColumn policy t.primaryKey c with
    | ok a =>
      rw [hc] at hmapped
      simp [ih, ← hmapped, Except.isOk, Except.toBool]
    | error e =>
      rw [hc] at hmapped
      obtain rfl := Attribute.ofColumn_error hc
      simp [ih, ← hmapped, Except.isOk, Except.toBool]

theorem ofTable_eq : ofTable policy t =
    Error.unlessAny (t.rejections policy) ⟨t.name, (attributesOf policy t t.columns).1⟩ := by
  rw [ofTable, Table.rejections, ← attributesOf_snd]

/-- A table hands on its errors one by one, however many it has. -/
theorem collect_snd (tables : List Table) :
    (collect policy tables).2 = tables.flatMap (Table.rejections policy) := by
  induction tables with
  | nil => rfl
  | cons t rest ih =>
    rw [collect, List.flatMap_cons, ← ih]
    cases ht : ofTable policy t with
    | ok m =>
      rw [ofTable_eq, Error.unlessAny_eq_ok_iff] at ht
      rw [ht.1]
      rfl
    | error e =>
      rw [ofTable_eq, Error.unlessAny_eq_error_iff] at ht
      rcases ht with hsingle | ⟨-, rfl⟩
      · -- A single error is one of a column, so it is no list of errors itself.
        have hmem : e ∈ t.rejections policy := hsingle ▸ List.mem_singleton_self e
        obtain ⟨c, -, rfl⟩ := List.mem_map.1 hmem
        rw [hsingle]
        rfl
      · rfl

theorem rejections_eq_nil_iff :
    t.rejections policy = [] ↔ ∀ c ∈ t.columns, c.isMapped policy = true := by
  simp [Table.rejections]

/-- What comes of tables: their errors together, or else what was collected. -/
theorem ofTables_eq (tables : List Table) : ofTables policy tables =
    Error.unlessAny (tables.flatMap (Table.rejections policy)) (collect policy tables).1 := by
  simp only [ofTables, ← collect_snd]

theorem ofTables_eq_ok_iff_shows {tables : List Table} {models : List Model} :
    ofTables policy tables = .ok models ↔ List.Forall₂ (Model.Shows policy) tables models := by
  simp only [ofTables_eq_ok_iff, ofTable_eq_ok_iff_shows]

/-- Models are all or nothing. Either every column has a mapping, and the models show the tables
position by position, or every column without one is reported in the order of the tables and their
columns: a single error as it is, and several as one flat list. -/
theorem ofTables_all_or_nothing (policy : TypePolicy) (tables : List Table) :
    let rejected := tables.flatMap (Table.rejections policy)
    ((∃ models, ofTables policy tables = .ok models) ↔
        ∀ t ∈ tables, ∀ c ∈ t.columns, c.isMapped policy = true) ∧
      (∀ models, ofTables policy tables = .ok models ↔
        rejected = [] ∧ List.Forall₂ (Model.Shows policy) tables models) ∧
      ∀ e, ofTables policy tables = .error e ↔
        rejected = [e] ∨ 2 ≤ rejected.length ∧ e = .multiple rejected := by
  intro rejected
  have hresult := @ofTables_eq policy tables
  have hmapped : rejected = [] ↔ ∀ t ∈ tables, ∀ c ∈ t.columns, c.isMapped policy = true := by
    rw [List.flatMap_eq_nil_iff]
    exact forall₂_congr fun t _ => rejections_eq_nil_iff
  refine ⟨?_, fun models => ?_, fun e => ?_⟩
  · rw [← hmapped]
    simp [hresult, Error.unlessAny_eq_ok_iff, rejected]
  · refine ⟨fun h => ⟨?_, ofTables_eq_ok_iff_shows.1 h⟩, fun h => ofTables_eq_ok_iff_shows.2 h.2⟩
    rw [hresult, Error.unlessAny_eq_ok_iff] at h
    exact h.1
  · rw [hresult, Error.unlessAny_eq_error_iff]

end Model

end SqlModels
