import SqlModels.Proofs.Files.Target
import SqlModels.Proofs.Model.File
import SqlModels.Proofs.Text.Blocks

/-!
What can be read back from a model file. The definition of a column tells its name, its type and how
it is filled, and the line of the interface tells the rest.
-/

namespace SqlModels

open Text

namespace Attribute

variable {a b : Attribute} {r s : Text}

/-- Attributes whose columns are defined alike; a key is not asked whether it may be null. -/
structure SameDefinition (a b : Attribute) : Prop where
  name : a.name = b.name
  storageType : a.storageType = b.storageType
  autoIncrement : a.autoIncrement = b.autoIncrement
  primaryKey : a.primaryKey = b.primaryKey
  allowNull : a.primaryKey = false → a.allowNull = b.allowNull
  default : a.defaultValue.map DefaultValue.text = b.defaultValue.map DefaultValue.text

/-- Attributes that agree in all that a model file tells of them. -/
structure Agrees (a b : Attribute) : Prop extends SameDefinition a b where
  valueType : a.valueType = b.valueType
  isRequired : a.isRequired = b.isRequired

/-- No text that an attribute brings along goes on to another line. -/
def OnOneLine (a : Attribute) : Prop :=
  ∀ t ∈ a.texts, '\n' ∉ t

theorem OnOneLine.name (h : a.OnOneLine) : '\n' ∉ a.name.toList :=
  h _ (by simp [texts])

theorem OnOneLine.storageType (h : a.OnOneLine) : '\n' ∉ a.storageType.toList :=
  h _ (by simp [texts])

theorem OnOneLine.default (h : a.OnOneLine) :
    ∀ t ∈ a.defaultValue.map DefaultValue.text, '\n' ∉ t := by
  intro t ht
  cases hd : a.defaultValue with
  | none => simp [hd] at ht
  | some d =>
    obtain rfl : d.text = t := by simpa [hd] using ht
    cases d with
    | now => decide
    | emptyString => decide
    | literal text => exact h text (by simp [texts, hd])

/-- The end of the definition of a column. -/
def definitionEnd : Text :=
  "        \x7d,\n".toList

def defaultHead : Text :=
  "          defaultValue: ".toList

theorem defaultLine_eq (a : Attribute) : a.defaultLine =
    match a.defaultValue.map DefaultValue.text with
    | some text => defaultHead ++ (text ++ ",\n".toList)
    | none => [] := by
  unfold defaultLine
  cases a.defaultValue with
  | none => rfl
  | some d => exact List.append_assoc _ _ _

/-- Neither a default nor the end of the definition begins like a line that both clash with. -/
theorem not_isPrefix_defaultLine {line : Text} (hhead : Clash line defaultHead)
    (hend : Clash line definitionEnd) (a : Attribute) (r : Text) :
    ¬ line <+: a.defaultLine ++ (definitionEnd ++ r) := by
  rw [defaultLine_eq]
  split
  · rw [List.append_assoc]
    exact hhead.not_isPrefix _
  · exact hend.not_isPrefix r

theorem defaultLine_cancel (ha : a.OnOneLine) (hb : b.OnOneLine)
    (h : a.defaultLine ++ (definitionEnd ++ r) = b.defaultLine ++ (definitionEnd ++ s)) :
    a.defaultValue.map DefaultValue.text = b.defaultValue.map DefaultValue.text ∧ r = s := by
  have hend (t : Text) : ¬ defaultHead <+: definitionEnd ++ t :=
    Clash.not_isPrefix (by decide) t
  have hstop : EndsLine ",\n".toList := by decide
  have hfirst := ha.default
  have hsecond := hb.default
  rw [defaultLine_eq, defaultLine_eq] at h
  generalize a.defaultValue.map DefaultValue.text = x at h hfirst ⊢
  generalize b.defaultValue.map DefaultValue.text = y at h hsecond ⊢
  cases x <;> cases y <;> simp only [List.append_assoc, List.nil_append] at h
  case none.none => exact ⟨rfl, List.append_cancel_left h⟩
  case none.some other => exact absurd ⟨_, h.symm⟩ (hend r)
  case some.none text => exact absurd ⟨_, h⟩ (hend s)
  case some.some text other =>
    obtain ⟨rfl, hrest⟩ := hstop.cancel (hfirst text rfl) (hsecond other rfl)
      (List.append_cancel_left h)
    exact ⟨rfl, List.append_cancel_left hrest⟩

theorem definition_append (a : Attribute) (r : Text) : a.definition ++ r =
    "        ".toList ++ (a.name.toList ++ (": \x7b\n".toList ++
      ("          type: DataTypes.".toList ++ (a.storageType.toList ++ (",\n".toList ++
        (a.autoIncrementLine ++ (a.primaryKeyLine ++ (a.allowNullLine ++ (a.defaultLine ++
          (definitionEnd ++ r)))))))))) := by
  unfold definition definitionEnd
  simp only [ofPieces_cons, ofPieces_nil, List.append_nil, List.append_assoc]

/-- The definition of a column is told from what follows it, and gives back what it is made of. -/
theorem definition_cancel (ha : a.OnOneLine) (hb : b.OnOneLine)
    (h : a.definition ++ r = b.definition ++ s) : a.SameDefinition b ∧ r = s := by
  rw [definition_append, definition_append] at h
  have hheadEnd : EndsLine ": \x7b\n".toList := by decide
  have hlineEnd : EndsLine ",\n".toList := by decide
  obtain ⟨hname, h⟩ := hheadEnd.cancel ha.name hb.name (List.append_cancel_left h)
  obtain ⟨hstorage, h⟩ := hlineEnd.cancel ha.storageType hb.storageType (List.append_cancel_left h)
  -- no line that may be missing begins as one that may stand in its place
  have hnull (c : Attribute) (t : Text) : ¬ "          allowNull: false,\n".toList <+:
      c.defaultLine ++ (definitionEnd ++ t) :=
    not_isPrefix_defaultLine (by decide) (by decide) c t
  have hkey (c : Attribute) (t : Text) : ¬ "          primaryKey: true,\n".toList <+:
      c.allowNullLine ++ (c.defaultLine ++ (definitionEnd ++ t)) :=
    Clash.not_isPrefix_optional (by decide)
      (not_isPrefix_defaultLine (by decide) (by decide) c t)
  have hauto (c : Attribute) (t : Text) : ¬ "          autoIncrement: true,\n".toList <+:
      c.primaryKeyLine ++ (c.allowNullLine ++ (c.defaultLine ++ (definitionEnd ++ t))) :=
    Clash.not_isPrefix_optional (by decide) (Clash.not_isPrefix_optional (by decide)
      (not_isPrefix_defaultLine (by decide) (by decide) c t))
  obtain ⟨hauto, h⟩ := optional_cancel (hauto a r) (hauto b s) h
  obtain ⟨hkey, h⟩ := optional_cancel (hkey a r) (hkey b s) h
  obtain ⟨hnull, h⟩ := optional_cancel (hnull a r) (hnull b s) h
  obtain ⟨hdefault, hrest⟩ := defaultLine_cancel ha hb h
  refine ⟨⟨String.toList_inj.1 hname, String.toList_inj.1 hstorage, hauto, hkey, ?_, hdefault⟩,
    hrest⟩
  intro hfalse
  simpa [← hkey, hfalse] using hnull

theorem SameDefinition.definition_eq (h : a.SameDefinition b) : a.definition = b.definition := by
  have hnull : a.allowNullLine = b.allowNullLine := by
    rw [allowNullLine, allowNullLine, ← h.primaryKey]
    cases hkey : a.primaryKey with
    | false => rw [h.allowNull hkey]
    | true => rfl
  have hdefault : a.defaultLine = b.defaultLine := by
    rw [defaultLine_eq, defaultLine_eq, h.default]
  rw [definition, definition, autoIncrementLine, autoIncrementLine, primaryKeyLine, primaryKeyLine,
    hnull, hdefault, h.name, h.storageType, h.autoIncrement, h.primaryKey]

/-- A declaration up to the end of its line. -/
def declaration (lead mark : String) (a : Attribute) : Text :=
  ofPieces [lead, a.name, mark, ": ", a.valueType.name]

theorem interfaceLine_eq (a : Attribute) : a.interfaceLine =
    a.declaration "  " (if a.isRequired then "" else "?") ++ ";\n".toList := by
  simp only [interfaceLine, declaration, ofPieces_cons, ofPieces_nil, List.append_nil,
    List.append_assoc]

theorem classLine_eq (a : Attribute) : a.classLine =
    a.declaration "  public " (if a.isRequired then "!" else "") ++ ";\n".toList := by
  simp only [classLine, declaration, ofPieces_cons, ofPieces_nil, List.append_nil,
    List.append_assoc]

theorem OnOneLine.declaration {lead mark : String} (h : a.OnOneLine) (hlead : '\n' ∉ lead.toList)
    (hmark : '\n' ∉ mark.toList) : '\n' ∉ a.declaration lead mark := by
  have htype : '\n' ∉ a.valueType.name.toList := by
    cases a.valueType <;> decide
  simp [Attribute.declaration, h.name, hlead, hmark, htype]

theorem valueType_name_injective : Function.Injective ValueType.name := by
  intro t u h
  cases t <;> cases u <;> simp_all [ValueType.name]

/-- The line of the interface tells the type of an attribute, and whether it may be missing. -/
theorem agrees_iff : a.Agrees b ↔ a.SameDefinition b ∧ a.interfaceLine = b.interfaceLine := by
  constructor
  · intro h
    refine ⟨h.toSameDefinition, ?_⟩
    rw [interfaceLine, interfaceLine, h.name, h.valueType, h.isRequired]
  · rintro ⟨h, hline⟩
    have hmark (c : Bool) : (if c then "" else "?" : String).toList =
        if !c then "?".toList else [] := by cases c <;> rfl
    have hcolon (t : Text) : ¬ "?".toList <+: ": ".toList ++ t := Clash.not_isPrefix (by decide) t
    simp only [interfaceLine, ofPieces_cons, h.name, hmark] at hline
    obtain ⟨hoptional, htype⟩ := optional_cancel (hcolon _) (hcolon _)
      (List.append_cancel_left (List.append_cancel_left hline))
    have hname := List.append_cancel_right (List.append_cancel_left htype)
    exact ⟨h, valueType_name_injective (String.toList_inj.1 hname), Bool.not_inj hoptional⟩

theorem Agrees.classLine_eq (h : a.Agrees b) : a.classLine = b.classLine := by
  rw [classLine, classLine, h.name, h.valueType, h.isRequired]

/-! The lines of an attribute as blocks, up to the marker behind those of the last attribute. -/

theorem interfaceLine_blocks {line : Text} (hline : EndsLine line)
    (hends : ¬ ";\n".toList <:+ line) :
    Blocks interfaceLine OnOneLine (fun a b => a.interfaceLine = b.interfaceLine) line :=
  .of_lines interfaceLine_eq
    (fun _ ha => ha.declaration (by decide) (by split <;> decide)) (by decide) hline hends

theorem classLine_blocks {line : Text} (hline : EndsLine line) (hends : ¬ ";\n".toList <:+ line) :
    Blocks classLine OnOneLine (fun a b => a.classLine = b.classLine) line :=
  .of_lines Attribute.classLine_eq
    (fun _ ha => ha.declaration (by decide) (by split <;> decide)) (by decide) hline hends

theorem definition_blocks {line : Text} (hline : EndsLine line)
    (hends : ¬ ": \x7b\n".toList <:+ line) : Blocks definition OnOneLine SameDefinition line where
  cancel := definition_cancel
  goesOn := by
    intro a r s ha
    have hname : '\n' ∉ "        ".toList ++ a.name.toList := by simp [ha.name]
    have hstop : EndsLine ": \x7b\n".toList := by decide
    rw [definition_append, ← List.append_assoc]
    exact hstop.ne hline hname hends

end Attribute

namespace Region

/-- What stands in a region is read back, if the line of its end marker ends behind it. -/
theorem wrap_cancel {f : Attribute → Text} {same : Attribute → Attribute → Prop} {region : Region}
    {xs ys : List Attribute} {after r s : Text} (hafter : after.head? = some '\n')
    (h : Blocks f Attribute.OnOneLine same (region.endMarker.toList ++ ['\n']))
    (hxs : ∀ a ∈ xs, a.OnOneLine) (hys : ∀ b ∈ ys, b.OnOneLine)
    (heq : region.wrap (xs.flatMap f) ++ (after ++ r) =
      region.wrap (ys.flatMap f) ++ (after ++ s)) : List.Forall₂ same xs ys ∧ r = s := by
  obtain ⟨rest, rfl⟩ := List.head?_eq_some_iff.1 hafter
  have hregroup (zs : List Attribute) (t : Text) :
      region.wrap (zs.flatMap f) ++ ('\n' :: rest ++ t) = (region.beginMarker.toList ++ ['\n']) ++
        (zs.flatMap f ++ ((region.endMarker.toList ++ ['\n']) ++ (rest ++ t))) := by
    simp [wrap]
  rw [hregroup, hregroup] at heq
  obtain ⟨hsame, hrest⟩ := h.cancel_all hxs hys (List.append_cancel_left heq)
  exact ⟨hsame, List.append_cancel_left hrest⟩

end Region

namespace Model

variable {m n : Model}

/-- Models that agree in all that their files tell of them, column by column. -/
structure Agrees (m n : Model) : Prop where
  name : m.name = n.name
  attributes : List.Forall₂ Attribute.Agrees m.attributes n.attributes

theorem onOneLine_of_texts (h : ∀ t ∈ m.texts, '\n' ∉ t) : ∀ a ∈ m.attributes, a.OnOneLine :=
  fun a ha t ht => h t (List.mem_cons_of_mem _ (List.mem_flatMap.2 ⟨a, ha, ht⟩))

theorem name_of_file (hm : '\n' ∉ m.name.toList) (hn : '\n' ∉ n.name.toList)
    (h : m.file = n.file) : m.name = n.name := by
  have hstop : EndsLine "Attributes \x7b\n".toList := by decide
  simp only [file, interfaceHead, ofPieces_cons, ofPieces_nil, List.append_nil,
    List.append_assoc] at h
  have hname := List.append_cancel_left (List.append_cancel_left h)
  exact String.toList_inj.1 (hstop.cancel hm hn hname).1

theorem agrees_of_file (hm : ∀ t ∈ m.texts, '\n' ∉ t) (hn : ∀ t ∈ n.texts, '\n' ∉ t)
    (h : m.file = n.file) : m.Agrees n := by
  have hname : m.name = n.name :=
    name_of_file (hm _ List.mem_cons_self) (hn _ List.mem_cons_self) h
  have hfirst := onOneLine_of_texts hm
  have hsecond := onOneLine_of_texts hn
  simp only [file, hname, List.append_assoc] at h
  obtain ⟨hlines, h⟩ := Region.wrap_cancel rfl
    (Attribute.interfaceLine_blocks (by decide) (by decide)) hfirst hsecond
    (List.append_cancel_left h)
  obtain ⟨-, h⟩ := Region.wrap_cancel rfl
    (Attribute.classLine_blocks (by decide) (by decide)) hfirst hsecond h
  -- nothing follows the foot of the file
  rw [← List.append_nil (fileFoot n.name)] at h
  obtain ⟨hdefinitions, -⟩ := Region.wrap_cancel rfl
    (Attribute.definition_blocks (by decide) (by decide)) hfirst hsecond h
  refine ⟨hname, hdefinitions.mp ?_ hlines⟩
  intro a b hdefinition hline
  exact Attribute.agrees_iff.2 ⟨hdefinition, hline⟩

theorem Agrees.file_eq (h : m.Agrees n) : m.file = n.file := by
  have hlines {f : Attribute → Text} (hf : ∀ a b : Attribute, a.Agrees b → f a = f b) :
      m.attributes.flatMap f = n.attributes.flatMap f := by
    have hmap : List.Forall₂ (· = ·) (m.attributes.map f) (n.attributes.map f) :=
      List.rel_map hf h.attributes
    rw [List.forall₂_eq_eq_eq] at hmap
    rw [List.flatMap_def, List.flatMap_def, hmap]
  have hinterface : m.interfaceLines = n.interfaceLines :=
    hlines fun _ _ hab => (Attribute.agrees_iff.1 hab).2
  have hclass : m.classLines = n.classLines := hlines fun _ _ hab => hab.classLine_eq
  have hdefinitions : m.definitions = n.definitions := hlines fun _ _ hab => hab.definition_eq
  rw [file, file, h.name, hinterface, hclass, hdefinitions]

/-- A fresh rendering that leaves the file of a model as it is has the columns of that model. -/
theorem agrees_of_merge (hm : ∀ t ∈ m.texts, '\n' ∉ t) (hn : ∀ t ∈ n.texts, '\n' ∉ t)
    (h : (merge Region.ofModel n.fragments m.file).result = .ok m.file) :
    List.Forall₂ Attribute.Agrees m.attributes n.attributes := by
  -- the merge gives the file of a model that has the name of the one and the columns of the other
  let merged : Model := ⟨m.name, n.attributes⟩
  have hmerged : ∀ t ∈ merged.texts, '\n' ∉ t := by
    intro t ht
    rcases List.mem_cons.1 ht with rfl | ht
    · exact hm _ List.mem_cons_self
    · exact hn t (List.mem_cons_of_mem _ ht)
  have htidy : ∀ r ∈ m.layout.regions, r.IsTidy m.layout.text := by
    rw [m.layout_text]
    exact (wellFormed_of_merge h).1
  have hresult := (Layout.fits_of_tidy htidy).merge_result n.fragments
  have hrefill : m.layout.refill n.fragments = merged.layout := layout_refill (n := merged) rfl
  rw [hrefill, merged.layout_text, m.layout_text] at hresult
  have hfile : m.file = merged.file := Except.ok.inj (h.symm.trans hresult)
  exact (agrees_of_file hm hmerged hfile).attributes

end Model

/-- Two models have the same file exactly if they agree in all that a file tells of a model. So if
the file of a model is left unchanged by another one, these have the same columns. -/
theorem file_recovers_model {m n : Model} (hm : ∀ t ∈ m.texts, '\n' ∉ t)
    (hn : ∀ t ∈ n.texts, '\n' ∉ t) :
    (m.file = n.file ↔ m.Agrees n) ∧
      ∀ (s : Store) (dir : String), s.readText (Target.model dir n).path = .ok m.file →
        ((Target.model dir n).write s).result = .ok .unchanged →
        List.Forall₂ Attribute.Agrees m.attributes n.attributes := by
  constructor
  · exact ⟨Model.agrees_of_file hm hn, Model.Agrees.file_eq⟩
  · intro s dir hread hunchanged
    exact Model.agrees_of_merge hm hn ((Target.write_unchanged_iff hread).1 hunchanged)

/-- A key that may be null or not, with a default that is written the same. -/
def keyedModel (allowNull : Bool) (default : DefaultValue) : Model :=
  ⟨"t", [⟨"id?: \x7b", "BIGINT", .number, allowNull, false, some default, true⟩]⟩

/-- A working directory with the file of a model. -/
def storeOf (m : Model) : Store :=
  ⟨[], [([m.name ++ ".ts"], .file (.text m.file) 0o600)]⟩

theorem file_recovers_model_keyed :
    let m := keyedModel true (.literal "NOW".toList)
    let n := keyedModel false .now
    (∀ t ∈ m.texts, '\n' ∉ t) ∧ (∀ t ∈ n.texts, '\n' ∉ t) ∧ m ≠ n ∧ m.file = n.file ∧
      (storeOf m).readText (Target.model "" n).path = .ok m.file ∧
      ((Target.model "" n).write (storeOf m)).result = .ok .unchanged ∧
      List.Forall₂ Attribute.Agrees m.attributes n.attributes := by
  intro m n
  have hm : ∀ t ∈ m.texts, '\n' ∉ t := by decide
  have hn : ∀ t ∈ n.texts, '\n' ∉ t := by decide
  have hagrees : m.Agrees n := ⟨rfl, .cons ⟨⟨rfl, rfl, rfl, rfl, nofun, rfl⟩, rfl, rfl⟩ .nil⟩
  obtain ⟨hfile, hunchanged⟩ := file_recovers_model hm hn
  have hsame : m.file = n.file := hfile.2 hagrees
  have hread : (storeOf m).readText (Target.model "" n).path = .ok m.file := by
    dsimp only [m, n]
    rfl
  have hmerge : (merge Region.ofModel n.fragments m.file).result = .ok m.file := by
    have hclean : m.layout.Clean := m.layout_clean (by decide)
    have hresult := hclean.fits.merge_result n.fragments
    rw [Model.layout_refill hagrees.name, m.layout_text, n.layout_text] at hresult
    exact hresult.trans (congrArg Except.ok hsame.symm)
  have hwrite : ((Target.model "" n).write (storeOf m)).result = .ok .unchanged :=
    (Target.write_unchanged_iff hread).2 hmerge
  exact ⟨hm, hn, by decide, hsame, hread, hwrite, hunchanged _ "" hread hwrite⟩

end SqlModels
