import Mathlib.Data.List.Forall2
import SqlModels.Model.Mapping

/-!
Tables with models: the models are the tables position by position, and there are none unless every
column has an attribute.
-/

namespace SqlModels

namespace Model

variable {policy : TypePolicy}

/-- The attributes of the columns as they stand, when no error is reported. -/
theorem attributesOf_eq_iff (t : Table) (columns : List Column) (attributes : List Attribute) :
    attributesOf policy t columns = (attributes, []) ↔
      List.Forall₂ (fun c a => Attribute.ofColumn policy t.primaryKey c = .ok a) columns
        attributes := by
  induction columns generalizing attributes with
  | nil => cases attributes <;> simp [attributesOf]
  | cons c rest ih =>
    rw [attributesOf]
    cases hc : Attribute.ofColumn policy t.primaryKey c with
    | error e => cases attributes <;> simp [hc]
    | ok a =>
      cases attributes with
      | nil => simp
      | cons b attributes => simp [hc, ← ih, Prod.ext_iff, and_assoc]

theorem ofTable_eq_ok_iff {t : Table} {m : Model} : ofTable policy t = .ok m ↔
    m.name = t.name ∧
      List.Forall₂ (fun c a => Attribute.ofColumn policy t.primaryKey c = .ok a) t.columns
        m.attributes := by
  obtain ⟨name, attributes⟩ := m
  rw [← attributesOf_eq_iff, ofTable]
  simp only [Error.unlessAny_eq_ok_iff, Model.mk.injEq, Prod.ext_iff, @eq_comm _ name]
  tauto

/-- Every error of a table's columns names the table and the column. -/
theorem attributesOf_errors {t : Table} {columns : List Column} {e : Error}
    (h : e ∈ (attributesOf policy t columns).2) :
    ∃ c ∈ columns, ∃ inner, Attribute.ofColumn policy t.primaryKey c = .error inner ∧
      e = .inColumn t.name c.name inner := by
  induction columns with
  | nil => cases h
  | cons c rest ih =>
    have hrest (hmem : e ∈ (attributesOf policy t rest).2) := (ih hmem).imp
      fun _ h => And.imp_left (List.mem_cons_of_mem c) h
    rw [attributesOf] at h
    cases hc : Attribute.ofColumn policy t.primaryKey c with
    | ok a => exact hrest (by simpa [hc] using h)
    | error inner =>
      simp only [hc, List.mem_cons] at h
      rcases h with rfl | h
      · exact ⟨c, List.mem_cons_self, inner, hc, rfl⟩
      · exact hrest h

/-- A table without a model has an error to report. -/
theorem ofTable_ne_nothing (t : Table) : ofTable policy t ≠ .error (.multiple []) := by
  rw [ofTable]
  cases herrors : (attributesOf policy t t.columns).2 with
  | nil => simp [herrors, Error.unlessAny, Error.ofList?]
  | cons e rest =>
    cases rest with
    | nil =>
      obtain ⟨c, -, inner, -, rfl⟩ := attributesOf_errors (herrors ▸ List.mem_cons_self)
      simp [herrors, Error.unlessAny, Error.ofList?]
    | cons _ _ => simp [herrors, Error.unlessAny, Error.ofList?]

theorem collect_eq_iff (tables : List Table) (models : List Model) :
    collect policy tables = (models, []) ↔
      List.Forall₂ (fun t m => ofTable policy t = .ok m) tables models := by
  induction tables generalizing models with
  | nil => cases models <;> simp [collect]
  | cons t rest ih =>
    cases ht : ofTable policy t with
    | ok m =>
      cases models with
      | nil => simp [collect, ht]
      | cons n models => simp [collect, ht, ← ih, Prod.ext_iff, and_assoc]
    | error e =>
      have hreported : (collect policy (t :: rest)).2 ≠ [] := by
        rw [collect, ht]
        cases e with
        | multiple several =>
          have hseveral : several ≠ [] := fun h => ofTable_ne_nothing t (h ▸ ht)
          simp [hseveral]
        | _ => simp
      refine iff_of_false (fun h => hreported (by rw [h])) fun h => ?_
      obtain ⟨m, _, hm, -⟩ := List.forall₂_cons_left_iff.1 h
      exact nomatch ht.symm.trans hm

theorem ofTables_eq_ok_iff {tables : List Table} {models : List Model} :
    ofTables policy tables = .ok models ↔
      List.Forall₂ (fun t m => ofTable policy t = .ok m) tables models := by
  rw [← collect_eq_iff, ofTables]
  simp [Error.unlessAny_eq_ok_iff, Prod.ext_iff, and_comm]

end Model

end SqlModels
