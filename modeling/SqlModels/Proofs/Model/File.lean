import SqlModels.Model.Render
import SqlModels.Proofs.Region.Merge
import SqlModels.Proofs.Text.Sealed

/-!
Rendered files as layouts: their markers are those of the template, whatever the model is called and
whatever it has in it.
-/

namespace SqlModels

open Text Marker

/-- The texts an attribute brings into a model file as they are. -/
def Attribute.texts (a : Attribute) : List Text :=
  [a.name.toList, a.storageType.toList] ++
    match a.defaultValue with
    | some (.literal text) => [text]
    | _ => []

/-- The texts a model brings into its file as they are. -/
def Model.texts (m : Model) : List Text :=
  m.name.toList :: m.attributes.flatMap Attribute.texts

namespace Attribute

variable {a : Attribute}

theorem valueType_free (t : ValueType) : ¬ stem <:+: t.name.toList := by
  cases t <;> decide

theorem interfaceLine_sealed (h : ¬ stem <:+: a.name.toList) : Sealed stem a.interfaceLine := by
  have hrest : Sealed stem (": ".toList ++ (a.valueType.name.toList ++ ";\n".toList)) :=
    .enclose (by decide) (valueType_free _) (by decide)
  simp only [interfaceLine, ofPieces_cons, ofPieces_nil, List.append_nil]
  refine .enclose (by decide) h (.optional ?_ hrest)
  cases a.isRequired
  · exact .inr (by decide)
  · exact .inl rfl

theorem classLine_sealed (h : ¬ stem <:+: a.name.toList) : Sealed stem a.classLine := by
  have hrest : Sealed stem (": ".toList ++ (a.valueType.name.toList ++ ";\n".toList)) :=
    .enclose (by decide) (valueType_free _) (by decide)
  simp only [classLine, ofPieces_cons, ofPieces_nil, List.append_nil]
  refine .enclose (by decide) h (.optional ?_ hrest)
  cases a.isRequired
  · exact .inl rfl
  · exact .inr (by decide)

theorem definition_sealed (h : ∀ t ∈ a.texts, ¬ stem <:+: t) : Sealed stem a.definition := by
  have hname : ¬ stem <:+: a.name.toList := h _ (by simp [texts])
  have hstorage : ¬ stem <:+: a.storageType.toList := h _ (by simp [texts])
  have hauto : a.autoIncrementLine = [] ∨ Sealed stem a.autoIncrementLine :=
    Sealed.eq_nil_or_ite (by decide)
  have hkey : a.primaryKeyLine = [] ∨ Sealed stem a.primaryKeyLine :=
    Sealed.eq_nil_or_ite (by decide)
  have hnull : a.allowNullLine = [] ∨ Sealed stem a.allowNullLine :=
    Sealed.eq_nil_or_ite (by decide)
  have hdefault : a.defaultLine = [] ∨ Sealed stem a.defaultLine := by
    unfold defaultLine
    cases hd : a.defaultValue with
    | none => exact .inl rfl
    | some d =>
      have hfree : ¬ stem <:+: d.text := by
        cases d with
        | now => decide
        | emptyString => decide
        | literal text => exact h text (by simp [texts, hd])
      dsimp only
      rw [List.append_assoc]
      exact .inr (.enclose (by decide) hfree (by decide))
  simp only [definition, ofPieces_cons, ofPieces_nil, List.append_nil, List.append_assoc]
  refine .enclose (by decide) hname (.append (by decide) (.enclose (by decide) hstorage ?_))
  refine .append (by decide) (.optional hauto (.optional hkey (.optional hnull ?_)))
  exact .optional hdefault (by decide)

end Attribute

namespace Model

variable {m : Model}

/-- A model file, cut at its markers. -/
def layout (m : Model) : Layout :=
  ⟨interfaceHead m.name,
    [⟨.interfaceAttributes, '\n' :: m.interfaceLines, classHead m.name⟩,
      ⟨.classAttributes, '\n' :: m.classLines, initHead m.name⟩,
      ⟨.columnDefinitions, '\n' :: m.definitions, fileFoot m.name⟩]⟩

theorem layout_text (m : Model) : m.layout.text = m.file := by
  simp only [layout, Layout.text_cons, Layout.text_nil, file, Region.wrap, List.append_assoc,
    List.cons_append]

theorem layout_refill {m n : Model} (h : m.name = n.name) :
    m.layout.refill n.fragments = n.layout := by
  simp only [layout, Layout.refill, List.map_cons, List.map_nil, Block.refill, fragments, h]

section Parts

variable {name : String} (h : ¬ stem <:+: name.toList)

include h

theorem interfaceHead_sealed : Sealed stem (interfaceHead name) := by
  simp only [interfaceHead, ofPieces_cons, ofPieces_nil, List.append_nil]
  -- the second piece begins with a letter of the word, and is sealed by the first one
  rw [← List.append_assoc]
  exact .enclose (by decide +kernel) h (by decide)

theorem classHead_sealed : Sealed stem (classHead name) := by
  simp only [classHead, ofPieces_cons, ofPieces_nil, List.append_nil]
  exact .enclose (by decide) h (.enclose (by decide) h (.enclose (by decide) h (by decide)))

theorem initHead_sealed : Sealed stem (initHead name) := by
  simp only [initHead, ofPieces_cons, ofPieces_nil, List.append_nil]
  exact .enclose (by decide) h (by decide)

theorem fileFoot_sealed : Sealed stem (fileFoot name) := by
  simp only [fileFoot, ofPieces_cons, ofPieces_nil, List.append_nil]
  exact .enclose (by decide) h (by decide)

end Parts

theorem layout_clean (h : ∀ t ∈ m.texts, ¬ stem <:+: t) : m.layout.Clean := by
  have hname : ¬ stem <:+: m.name.toList := h _ List.mem_cons_self
  have hattribute : ∀ a ∈ m.attributes, ∀ t ∈ a.texts, ¬ stem <:+: t := by
    intro a ha t ht
    exact h t (List.mem_cons_of_mem _ (List.mem_flatMap.2 ⟨a, ha, ht⟩))
  have hlines {f : Attribute → Text}
      (hf : ∀ a : Attribute, (∀ t ∈ a.texts, ¬ stem <:+: t) → Sealed stem (f a)) :
      Absent ('\n' :: m.attributes.flatMap f) :=
    (absent_of_stem
      (Sealed.flatMap_free (by decide) fun a ha => hf a (hattribute a ha))).newline_cons
  refine .cons (hlines fun a ha => a.interfaceLine_sealed (ha _ (by simp [Attribute.texts])))
    (absent_of_stem (classHead_sealed hname).free) (by simp) ?_
  refine .cons (hlines fun a ha => a.classLine_sealed (ha _ (by simp [Attribute.texts])))
    (absent_of_stem (initHead_sealed hname).free) (by simp) ?_
  refine .cons (hlines fun a ha => a.definition_sealed ha)
    (absent_of_stem (fileFoot_sealed hname).free) (by simp) ?_
  exact .nil (absent_of_stem (interfaceHead_sealed hname).free)

theorem importLine_sealed (h : ¬ stem <:+: m.name.toList) : Sealed stem m.importLine := by
  simp only [importLine, ofPieces_cons, ofPieces_nil, List.append_nil]
  exact .enclose (by decide) h (.enclose (by decide) h (.enclose (by decide) h (by decide)))

theorem bootstrapLine_sealed (h : ¬ stem <:+: m.name.toList) : Sealed stem m.bootstrapLine := by
  simp only [bootstrapLine, ofPieces_cons, ofPieces_nil, List.append_nil]
  exact .enclose (by decide) h (by decide)

theorem exportLines_sealed (h : ¬ stem <:+: m.name.toList) : Sealed stem m.exportLines := by
  simp only [exportLines, ofPieces_cons, ofPieces_nil, List.append_nil]
  exact .enclose (by decide) h (.enclose (by decide) h (by decide))

end Model

namespace Index

/-- An index file, cut at its markers. -/
def layout (models : List Model) : Layout :=
  ⟨importHead,
    [⟨.imports, '\n' :: importLines models, loadHead⟩,
      ⟨.bootstraps, '\n' :: bootstrapLines models, exportHead⟩,
      ⟨.exports, '\n' :: exportLines models, fileFoot⟩]⟩

theorem layout_text (models : List Model) : (layout models).text = file models := by
  simp only [layout, Layout.text_cons, Layout.text_nil, file, Region.wrap, List.append_assoc,
    List.cons_append]

theorem layout_refill (models others : List Model) :
    (layout models).refill (fragments others) = layout others := by
  simp only [layout, Layout.refill, List.map_cons, List.map_nil, Block.refill, fragments]

theorem layout_clean {models : List Model}
    (h : ∀ m ∈ models, ¬ stem <:+: m.name.toList) : (layout models).Clean := by
  have hlines {f : Model → Text}
      (hf : ∀ m : Model, ¬ stem <:+: m.name.toList → Sealed stem (f m)) :
      Absent ('\n' :: models.flatMap f) :=
    (absent_of_stem (Sealed.flatMap_free (by decide) fun m hm => hf m (h m hm))).newline_cons
  have hload : ¬ stem <:+: loadHead := by decide
  have hexport : ¬ stem <:+: exportHead := by decide
  have hfoot : ¬ stem <:+: fileFoot := by decide
  refine .cons (hlines fun m => m.importLine_sealed) (absent_of_stem hload) (by simp) ?_
  refine .cons (hlines fun m => m.bootstrapLine_sealed) (absent_of_stem hexport) (by simp) ?_
  refine .cons (hlines fun m => m.exportLines_sealed) (absent_of_stem hfoot) (by simp) ?_
  exact .nil (absent_of_stem (by decide))

end Index

/-- A merge into a rendered file that nobody has edited gives the file a fresh rendering gives. -/
theorem merge_into_rendered :
    (∀ m n : Model, m.name = n.name → (∀ t ∈ m.texts, ¬ "AutoGen".toList <:+: t) →
      (merge Region.ofModel n.fragments m.file).result = .ok n.file) ∧
    (∀ models others : List Model, (∀ m ∈ models, ¬ "AutoGen".toList <:+: m.name.toList) →
      (merge Region.ofIndex (Index.fragments others) (Index.file models)).result =
        .ok (Index.file others)) := by
  constructor
  · intro m n hname h
    rw [← m.layout_text, ← n.layout_text, ← Model.layout_refill hname]
    exact (Model.layout_clean h).fits.merge_result n.fragments
  · intro models others h
    rw [← Index.layout_text, ← Index.layout_text, ← Index.layout_refill models]
    exact (Index.layout_clean h).fits.merge_result (Index.fragments others)

/-- The texts of this model nearly spell a marker, and an index without it is left with its
marks. -/
theorem merge_into_rendered_nearly :
    let m : Model := ⟨"AutoGe", [⟨"n", "Auto", .number, false, true,
      some (.literal "AutoG".toList), true⟩]⟩
    (m.name = "AutoGe" ∧ (∀ t ∈ m.texts, ¬ "AutoGen".toList <:+: t) ∧
      (merge Region.ofModel (Model.mk "AutoGe" []).fragments m.file).result =
        .ok (Model.mk "AutoGe" []).file) ∧
    (∀ x ∈ [m], ¬ "AutoGen".toList <:+: x.name.toList) ∧
      (merge Region.ofIndex (Index.fragments []) (Index.file [m])).result =
        .ok (Text.ofPieces [
          "import \x7b Sequelize \x7d from \"sequelize\";\n\n",
          "// AutoGenImportBegin \x7b\n// \x7d AutoGenImportEnd\n\n",
          "export function load(sequelize: Sequelize) \x7b\n",
          "  // AutoGenBootstrapBegin \x7b\n  // \x7d AutoGenBootstrapEnd\n\x7d\n\n",
          "export \x7b\n  // AutoGenExportBegin \x7b\n  // \x7d AutoGenExportEnd\n\x7d;\n"]) := by
  intro m
  have hindex := merge_into_rendered.2 [m] [] (by decide)
  exact ⟨⟨rfl, by decide, merge_into_rendered.1 m ⟨"AutoGe", []⟩ rfl (by decide)⟩, by decide,
    hindex.trans (congrArg Except.ok (by decide +kernel))⟩

end SqlModels
