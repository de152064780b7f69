import SqlModels.Model.Mapping
import SqlModels.Model.Render
import SqlModels.Proofs.Schema.Options
import SqlModels.Proofs.Text.Literal
import SqlModels.Schema.Column

/-!
Default values of columns. The last string declared as a default is what the generated code says:
its literal reads back as that string, unless the string has a decimal digit behind a NUL, which
makes a literal that the strict language refuses.
-/

namespace SqlModels

open Text.Quoted

/-- A quoted literal becomes a default value that is written the same way. -/
theorem DefaultValue.text_ofLiteral_encode (content : Text) :
    (ofLiteral (encode content)).text = encode content := by
  have hnow : ¬nowSpellings.any (Text.eqIgnoringCase (encode content) ·.toList) = true := by
    simp [nowSpellings, Text.eqIgnoringCase, encode]
  rw [ofLiteral, if_neg hnow]
  split_ifs with hempty
  · have hquotes : encode content = ['\"', '\"'] := by
      simpa [encode] using hempty
    rw [hquotes]
    rfl
  · rfl

namespace Column

/-- The last default of a column is the one that it has. -/
theorem declare_default (name : String) (type : Sql.DataType) (before : List Sql.ColumnOption)
    (value : Sql.Expr) {after : List Sql.ColumnOption} (h : ∀ other, .default other ∉ after) :
    (declare name type (before ++ .default value :: after)).1.options.default =
      some (defaultLiteral value) := by
  have hafter : after.filterMap Sql.ColumnOption.default? = [] := by
    refine List.filterMap_eq_nil_iff.2 fun option hoption => ?_
    cases option with
    | default other => exact absurd hoption (h other)
    | _ => rfl
  rw [declare_eq]
  simp [hafter, Sql.ColumnOption.default?]

end Column

/-! ### What a string default is written as -/

/-- A string declared as the default of a column is written as a literal that reads back as the
string if no decimal digit stands behind a NUL in it, and as one that cannot be read otherwise. -/
theorem defaultLine_reads_back {policy : TypePolicy} {key : List String} {name : String}
    {type : Sql.DataType} {before after : List Sql.ColumnOption} {quote : Sql.StringKind}
    {content : Text} {a : Attribute} (hquote : quote = .single ∨ quote = .double)
    (hlast : ∀ value, .default value ∉ after)
    (ha : Attribute.ofColumn policy key
      (Column.declare name type (before ++ .default (.quoted quote content) :: after)).1 = .ok a) :
    ∃ literal, a.defaultLine = "          defaultValue: ".toList ++ literal ++ ",\n".toList ∧
      (¬HasOctal content → decode literal = some content) ∧
      (HasOctal content → decode literal = none) := by
  have hliteral : defaultLiteral (.quoted quote content) = encode content := by
    rcases hquote with rfl | rfl <;> rfl
  have hdefault : a.defaultValue = some (.ofLiteral (encode content)) := by
    rw [Attribute.ofColumn] at ha
    split at ha
    · cases ha
    · cases ha
      dsimp only
      rw [Column.declare_default name type before _ hlast, hliteral, Option.map_some]
  refine ⟨encode content, ?_, (decode_encode content).2, (decode_encode content).1⟩
  rw [Attribute.defaultLine, hdefault]
  dsimp only
  rw [DefaultValue.text_ofLiteral_encode]

/-- Quotes, line ends and combining marks come back from the literal. -/
theorem defaultLine_reads_back_marks :
    ∃ a literal,
      Attribute.ofColumn {} [] (Column.declare "a" (.plain .text)
        [.notNull, .default (.quoted .single ['e', '\u0301', '\n', '\"']), .unique]).1 = .ok a ∧
      a.defaultLine = "          defaultValue: ".toList ++ literal ++ ",\n".toList ∧
      decode literal = some ['e', '\u0301', '\n', '\"'] := by
  obtain ⟨literal, hline, hreads, -⟩ := @defaultLine_reads_back {} [] "a" (.plain .text)
    [.notNull] [.unique] .single ['e', '\u0301', '\n', '\"'] _ (.inl rfl) (by simp) rfl
  exact ⟨_, literal, rfl, hline, hreads (by decide)⟩

/-- A NUL with a digit behind it becomes an octal escape, and nothing reads it back. -/
theorem defaultLine_octal :
    ∃ a, Attribute.ofColumn {} []
        (Column.declare "a" (.character .varchar (some ⟨5, none⟩))
          [.default (.quoted .single ['\x00', '1'])]).1 = .ok a ∧
      a.defaultLine = "          defaultValue: \"\\01\",\n".toList ∧
      decode "\"\\01\"".toList = none := by
  have hencode : encode ['\x00', '1'] = "\"\\01\"".toList := by decide +kernel
  refine ⟨_, rfl, ?_, by decide⟩
  change "          defaultValue: ".toList ++ (DefaultValue.ofLiteral (encode _)).text ++ _ = _
  rw [DefaultValue.text_ofLiteral_encode, hencode]
  rfl

end SqlModels
