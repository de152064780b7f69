import Mathlib.Data.List.Nodup
import Mathlib.Data.List.Perm.Basic
import SqlModels.Model.Render

/-!
The identifiers of an index. Every model gives two, its name and the name of the type of its
attributes, and both are imported and exported. That models have names of their own does not keep
their identifiers apart: one can be called like the attributes of another one.
-/

namespace SqlModels

/-- The name of the interface of a model. -/
def Model.attributesName (m : Model) : String :=
  m.name ++ "Attributes"

namespace Index

theorem withAttributes_injective :
    Function.Injective fun name : String => name ++ "Attributes" := by
  intro name other h
  have hlists : name.toList ++ "Attributes".toList = other.toList ++ "Attributes".toList := by
    simpa only [String.toList_append] using congrArg String.toList h
  exact String.toList_inj.1 (List.append_cancel_right hlists)

/-- The identifiers an index binds, in the order of their lines. -/
def identifiers (models : List Model) : List String :=
  models.flatMap fun m => [m.name, m.attributesName]

/-- The line that binds the two identifiers of a file. -/
def importOf (default named file : String) : Text :=
  Text.ofPieces ["import ", default, ", \x7b ", named, " \x7d from \"./", file, "\";\n"]

/-- The line that hands on an identifier. -/
def exportOf (identifier : String) : Text :=
  Text.ofPieces ["  ", identifier, ",\n"]

theorem importLines_eq (models : List Model) :
    importLines models = models.flatMap fun m => importOf m.name m.attributesName m.name := by
  refine List.flatMap_congr fun m _ => ?_
  simp [Model.importLine, importOf, Model.attributesName]

theorem exportLines_eq (models : List Model) :
    exportLines models = (identifiers models).flatMap exportOf := by
  rw [identifiers, List.flatMap_assoc]
  refine List.flatMap_congr fun m _ => ?_
  simp [Model.exportLines, exportOf, Model.attributesName]

/-- Both kinds of identifiers together, whatever the order of their lines. -/
theorem identifiers_perm (models : List Model) :
    (models.map (·.name) ++ models.map Model.attributesName).Perm (identifiers models) := by
  have hperm := List.map_append_flatMap_perm models (·.name) fun m => [m.attributesName]
  rwa [← List.map_eq_flatMap] at hperm

theorem attributesNames_nodup {models : List Model} (hnames : (models.map (·.name)).Nodup) :
    (models.map Model.attributesName).Nodup := by
  have happend : models.map Model.attributesName =
      (models.map (·.name)).map (· ++ "Attributes") := by
    rw [List.map_map]
    rfl
  exact happend ▸ hnames.map withAttributes_injective

/-- The identifiers of models are apart if their names are, and no model is called like the
attributes of one of them. -/
theorem identifiers_nodup_iff (models : List Model) : (identifiers models).Nodup ↔
    (models.map (·.name)).Nodup ∧ ∀ m ∈ models, ∀ n ∈ models, n.name ≠ m.attributesName := by
  rw [← (identifiers_perm models).nodup_iff, List.nodup_append]
  simp only [List.forall_mem_map]
  constructor
  · rintro ⟨hnames, -, hcross⟩
    exact ⟨hnames, fun m hm n hn => hcross n hn m hm⟩
  · rintro ⟨hnames, hcross⟩
    exact ⟨hnames, attributesNames_nodup hnames, fun n hn m hm => hcross m hm n hn⟩

/-- The imports and exports of an index are those of its identifiers, and these are apart exactly
if the names of the models are and none of them is a name with the suffix of attributes. -/
theorem identifiers_apart_iff (models : List Model) :
    importLines models = (models.flatMap fun m => importOf m.name m.attributesName m.name) ∧
      exportLines models = (identifiers models).flatMap exportOf ∧
      ((identifiers models).Nodup ↔ (models.map (·.name)).Nodup ∧
        ∀ m ∈ models, ∀ n ∈ models, n.name ≠ m.attributesName) :=
  ⟨importLines_eq models, exportLines_eq models, identifiers_nodup_iff models⟩

/-- Two models with names of their own whose index binds `aAttributes` twice. -/
theorem identifiers_clash :
    let models : List Model := [⟨"a", []⟩, ⟨"aAttributes", []⟩]
    (models.map (·.name)).Nodup ∧ ¬ (identifiers models).Nodup ∧
      importLines models = "import a, \x7b aAttributes \x7d from \"./a\";\n".toList
        ++ "import aAttributes, \x7b aAttributesAttributes \x7d from \"./aAttributes\";\n".toList ∧
      exportLines models =
        "  a,\n  aAttributes,\n  aAttributes,\n  aAttributesAttributes,\n".toList := by
  decide +kernel

end Index

end SqlModels
