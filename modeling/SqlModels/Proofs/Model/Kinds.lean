import Mathlib.Data.List.Basic
import SqlModels.Model.Mapping
import SqlModels.Proofs.Sql.Lexemes
import SqlModels.Proofs.Text.Literal
import SqlModels.Schema.Column
import SqlModels.Sql.Parser.Operand

/-!
The kinds of default values. A kind is told by nothing but a text, so expressions of different kinds
may not be printed alike: what the grammar reads has something in its text that neither the current
moment nor an empty string has, or it is one of them.
-/

namespace SqlModels

open Sql (Expr Ident Keyword Name Word isDigit isWordPart)

variable {c : Char} {text inside rest : Text}

/-! ### Texts -/

theorem Text.lower_or_upper_eq (c : Char) : c.toLower = c ∨ c.toLower.toUpper = c := by
  have hletters : ∀ n ∈ List.range' 65 26, (Char.ofNat n).toLower.toUpper = Char.ofNat n := by
    decide
  by_cases hc : c.toNat ∈ List.range' 65 26
  · exact .inr (Char.ofNat_toNat c ▸ hletters c.toNat hc)
  · refine .inl (dif_neg ?_)
    simp [UInt32.le_iff_toNat_le] at hc ⊢
    omega

/-- A character is as its lower case and the upper case of that are. -/
theorem Text.of_lower {p : Char → Prop} (hlower : p c.toLower) (hupper : p c.toLower.toUpper) :
    p c := by
  rcases Text.lower_or_upper_eq c with he | he
  · exact he ▸ hlower
  · exact he ▸ hupper

namespace DefaultValue

/-- The texts that stand for no literal, but for the letter case. -/
def spellings : List Text :=
  nowSpellings.map String.toList ++ [[], ['\"', '\"'], ['\'', '\'']]

/-- Whether no spelling holds a character. -/
def foreign (c : Char) : Bool :=
  spellings.all fun s => !(s.map Char.toLower).contains c.toLower

/-- Whether no spelling starts with a character. -/
def foreignHead (c : Char) : Bool :=
  spellings.all fun s => (s.map Char.toLower).head? ≠ some c.toLower

theorem ofLiteral_eq_now_iff : ofLiteral text = .now ↔
    text.map Char.toLower = "CURRENT_TIMESTAMP".toList.map Char.toLower ∨
      text.map Char.toLower = "CURRENT_TIMESTAMP()".toList.map Char.toLower := by
  have h : ofLiteral text = .now ↔
      nowSpellings.any (fun s => Text.eqIgnoringCase text s.toList) = true := by
    unfold ofLiteral
    split_ifs with h <;> simpa using h
  simpa [nowSpellings, Text.eqIgnoringCase] using h

theorem ofLiteral_of_not_spelling
    (h : ∀ s ∈ spellings, text.map Char.toLower ≠ s.map Char.toLower) :
    ofLiteral text = .literal text := by
  have hnot (s : Text) (hs : s ∈ spellings) : text ≠ s := fun he => h s hs (he ▸ rfl)
  have hempty : text ≠ [] ∧ text ≠ ['\"', '\"'] ∧ text ≠ ['\'', '\''] :=
    ⟨hnot _ (by decide), hnot _ (by decide), hnot _ (by decide)⟩
  rw [ofLiteral, if_neg, if_neg (by simp [hempty])]
  simp only [List.any_eq_true, not_exists, not_and]
  exact fun s hs he => h s.toList (List.mem_append_left _ (List.mem_map_of_mem hs)) (eq_of_beq he)

/-- What holds a foreign character is a literal. -/
theorem ofLiteral_of_mem (hc : c ∈ text) (h : foreign c = true) :
    ofLiteral text = .literal text := by
  refine ofLiteral_of_not_spelling fun s hs he => ?_
  have hnot := List.all_eq_true.1 h s hs
  rw [← he, Bool.not_eq_true', List.contains_eq_mem, decide_eq_false_iff_not] at hnot
  exact hnot (List.mem_map_of_mem hc)

theorem ofLiteral_of_head (h : foreignHead c = true) :
    ofLiteral (c :: rest) = .literal (c :: rest) := by
  refine ofLiteral_of_not_spelling fun s hs he => ?_
  have hnot := List.all_eq_true.1 h s hs
  simp [← he] at hnot

theorem foreign_of_isDigit (h : isDigit c = true) : foreign c = true := by
  have hspellings : ∀ s ∈ spellings,
      (s.map Char.toLower).all (fun d => !isDigit d && !isDigit d.toUpper) = true := by
    decide
  refine List.all_eq_true.2 fun s hs => ?_
  simp only [Bool.not_eq_true', List.contains_eq_mem, decide_eq_false_iff_not]
  intro hc
  have hnot := List.all_eq_true.1 (hspellings s hs) c.toLower hc
  simp only [Bool.and_eq_true, Bool.not_eq_true'] at hnot
  obtain ⟨hlower, hupper⟩ := hnot
  cases h.symm.trans (Text.of_lower (p := fun a => isDigit a = false) hlower hupper)

/-- A call is the current moment only if there is nothing in its parentheses. -/
theorem ofLiteral_call_eq_now_iff : ofLiteral (text ++ '(' :: inside ++ [')']) = .now ↔
    Text.eqIgnoringCase text "CURRENT_TIMESTAMP".toList = true ∧ inside = [] := by
  let name := "CURRENT_TIMESTAMP".toList.map Char.toLower
  have hname : name ++ '(' :: [')'] = "CURRENT_TIMESTAMP()".toList.map Char.toLower := by decide
  have hcall : (text ++ '(' :: inside ++ [')']).map Char.toLower =
      text.map Char.toLower ++ '(' :: (inside.map Char.toLower ++ [')']) := by
    simp
  have hbare : text.map Char.toLower ++ '(' :: (inside.map Char.toLower ++ [')']) ≠ name := by
    intro he
    have hparen : '(' ∈ name := he ▸ by simp
    exact absurd hparen (by decide)
  rw [ofLiteral_eq_now_iff, hcall, or_iff_right hbare, ← hname, eq_comm,
    List.append_cons_inj_of_notMem (by decide) (by decide)]
  constructor
  · rintro ⟨htext, -, hinside⟩
    exact ⟨beq_iff_eq.2 htext.symm, by simpa using hinside⟩
  · rintro ⟨htext, rfl⟩
    exact ⟨(eq_of_beq htext).symm, rfl, rfl⟩

/-- A text with a parenthesis is no empty string. -/
theorem ofLiteral_of_paren (hparen : '(' ∈ text) (h : ofLiteral text ≠ .now) :
    ofLiteral text = .literal text := by
  rw [ofLiteral] at h ⊢
  split_ifs at h ⊢ with hnow hempty
  · exact absurd rfl h
  · have hnil : text = [] ∨ text = ['\"', '\"'] ∨ text = ['\'', '\''] := by
      simpa [or_assoc] using hempty
    rcases hnil with rfl | rfl | rfl <;> exact absurd hparen (by decide)
  · rfl

/-- A bare word is a literal, or the current moment by its name. -/
theorem ofLiteral_word {w : Word} (hw : w.IsLexed) (hbare : w.quoted = false)
    (hname : Text.eqIgnoringCase w.value.toList "CURRENT_TIMESTAMP".toList = false) :
    ofLiteral w.value.toList = .literal w.value.toList := by
  obtain ⟨c, rest, hvalue, hc⟩ := hw hbare
  rw [hvalue] at hname ⊢
  have hhead : foreign c = true → ofLiteral (c :: rest) = .literal (c :: rest) :=
    ofLiteral_of_mem List.mem_cons_self
  rcases hc with rfl | rfl | hdigit | hall
  · exact hhead (by decide)
  · exact hhead (by decide)
  · exact hhead (foreign_of_isDigit hdigit)
  · have hother : ∀ s ∈ spellings, s = "CURRENT_TIMESTAMP".toList ∨ s = [] ∨
        (s.map Char.toLower).any (fun d => !isWordPart d && !isWordPart d.toUpper) = true := by
      decide
    refine ofLiteral_of_not_spelling fun s hs he => ?_
    rcases hother s hs with rfl | rfl | hpart
    · exact absurd (beq_iff_eq.2 he) (Bool.eq_false_iff.1 hname)
    · cases he
    · simp only [← he, List.any_map, List.any_eq_true, Function.comp_apply, Bool.and_eq_true,
        Bool.not_eq_true'] at hpart
      obtain ⟨a, ha, hlower, hupper⟩ := hpart
      have hnot : isWordPart a = false :=
        Text.of_lower (p := fun b => isWordPart b = false) hlower hupper
      cases (hall a ha).symm.trans hnot

open Text.Quoted in
/-- The literal of a string is an empty string only for the empty one. -/
theorem ofLiteral_encode {content : Text} (h : content ≠ []) :
    ofLiteral (encode content) = .literal (encode content) := by
  have hother : ∀ s ∈ spellings, (s.map Char.toLower).head? = some '\"' → s.length = 2 := by decide
  obtain ⟨c, rest, rfl⟩ := List.exists_cons_of_ne_nil h
  obtain ⟨d, behind, hc, -⟩ := encodeChar_head c
  refine ofLiteral_of_not_spelling fun s hs he => ?_
  have hlength : (encode (c :: rest)).length = s.length := by
    simpa using congrArg List.length he
  rw [hother s hs (by rw [← he]; rfl)] at hlength
  simp [encode, hc] at hlength

end DefaultValue

/-- A word that is the name of the current moment but for the letter case is its keyword. -/
theorem Sql.Word.is_currentTimestamp {w : Word} (hbare : w.quoted = false)
    (h : Text.eqIgnoringCase w.value.toList "CURRENT_TIMESTAMP".toList = true) :
    w.is .CURRENT_TIMESTAMP = true := by
  have hraise (s word : Text) (hword : word.map Char.toLower = s.map Char.toLower)
      (hlower : s.map (fun d => Keyword.raiseChar d.toLower) = s.map fun d => [d])
      (hupper : s.map (fun d => Keyword.raiseChar d.toLower.toUpper) = s.map fun d => [d]) :
      word.flatMap Keyword.raiseChar = s := by
    induction s generalizing word with
    | nil => rw [List.map_eq_nil_iff.1 hword, List.flatMap_nil]
    | cons d s ih =>
      obtain ⟨c, word, rfl, hc, hword⟩ := List.map_eq_cons_iff.1 hword
      obtain ⟨hlower, hs⟩ := List.cons.inj hlower
      obtain ⟨hupper, hs'⟩ := List.cons.inj hupper
      have hhead : Keyword.raiseChar c = [d] :=
        Text.of_lower (p := fun a => Keyword.raiseChar a = [d]) (hc ▸ hlower) (hc ▸ hupper)
      rw [List.flatMap_cons, hhead, ih word hword hs hs']
      rfl
  have hspelled : Keyword.raise w.value = Keyword.CURRENT_TIMESTAMP.name.toList :=
    hraise _ _ (eq_of_beq h) (by decide) (by decide)
  simp [Word.is, hbare, Keyword.spelledBy, hspelled]

/-! ### Expressions -/

namespace Sql

open DefaultValue (ofLiteral foreign foreignHead)

/-- The function `CURRENT_TIMESTAMP`, without quotes and in any case of its letters. A word with an
`ſ` in it, which the grammar takes for the function too, has another letter. -/
def Ident.IsNow (i : Ident) : Prop :=
  i.quote = none ∧ Text.eqIgnoringCase i.value.toList "CURRENT_TIMESTAMP".toList = true

/-- The text of a name is that of a single bare word, or no part of any spelling. -/
theorem Name.text_wordIdent (w : Word) (parts : Name) :
    (parts = [] ∧ w.quoted = false ∧ Name.text (Parser.wordIdent w :: parts) = w.value.toList) ∨
      ((parts = [] → w.quoted = true) ∧
        ∃ c ∈ Name.text (Parser.wordIdent w :: parts), foreign c = true) := by
  cases parts with
  | nil =>
    cases hquoted : w.quoted with
    | false => simp [Parser.wordIdent, Name.text, Ident.text, Text.joinWith, hquoted]
    | true =>
      refine .inr ⟨fun _ => rfl, '\x60', ?_, by decide⟩
      simp [Parser.wordIdent, Name.text, Ident.text, Text.joinWith, Text.between, hquoted]
  | cons part parts =>
    have hseveral : part :: parts = [] → w.quoted = true := fun h => by cases h
    exact .inr ⟨hseveral, '.', by simp [Name.text, Text.joinWith], by decide⟩

theorem Name.isNow_iff (w : Word) (parts : Name) :
    Text.eqIgnoringCase (Name.text (Parser.wordIdent w :: parts)) "CURRENT_TIMESTAMP".toList =
      true ↔ parts = [] ∧ (Parser.wordIdent w).IsNow := by
  rcases Name.text_wordIdent w parts with ⟨rfl, hbare, htext⟩ | ⟨hquoted, c, hc, hforeign⟩
  · rw [htext]
    simp [Ident.IsNow, Parser.wordIdent, hbare]
  · constructor
    · intro h
      have hnow := DefaultValue.ofLiteral_eq_now_iff.2 (.inl (eq_of_beq h))
      rw [DefaultValue.ofLiteral_of_mem hc hforeign] at hnow
      cases hnow
    · rintro ⟨rfl, hbare, -⟩
      simp [Parser.wordIdent, hquoted rfl] at hbare

/-- A name is a literal, or the current moment by its only word. -/
theorem Name.ofLiteral_text {w : Word} (hw : w.IsLexed) {parts : Name}
    (hnow : ¬(parts = [] ∧ (Parser.wordIdent w).IsNow)) :
    ofLiteral (Name.text (Parser.wordIdent w :: parts)) =
      .literal (Name.text (Parser.wordIdent w :: parts)) := by
  have hname := Bool.eq_false_iff.2 (mt (Name.isNow_iff w parts).1 hnow)
  rcases Name.text_wordIdent w parts with ⟨-, hbare, htext⟩ | ⟨-, c, hc, hforeign⟩
  · rw [htext] at hname ⊢
    exact DefaultValue.ofLiteral_word hw hbare hname
  · exact DefaultValue.ofLiteral_of_mem hc hforeign

namespace Expr

/-- The current moment: that function, bare or with nothing in parentheses. -/
inductive IsNow : Expr → Prop
  | bare {i : Ident} : i.IsNow → IsNow (.bareCall i)
  | call {i : Ident} : i.IsNow → IsNow (.call [i] false [] [])

inductive IsEmptyString : Expr → Prop
  | single : IsEmptyString (.quoted .single [])
  | double : IsEmptyString (.quoted .double [])

/-- That the default value of an expression tells what the expression is. -/
structure Told (e : Expr) : Prop where
  now_iff : ofLiteral (defaultLiteral e) = .now ↔ e.IsNow
  emptyString_iff : ofLiteral (defaultLiteral e) = .emptyString ↔ e.IsEmptyString
  literal (hnow : ¬e.IsNow) (hempty : ¬e.IsEmptyString) :
    ofLiteral (defaultLiteral e) = .literal (defaultLiteral e)
  /-- An argument of a call can be seen. -/
  text_ne_nil : e.text ≠ []

/-- Whether an expression is printed where it is a default, and is no call of a function. -/
def isPlain : Expr → Bool
  | .quoted .single _ | .quoted .double _ | .null | .boolean _ | .bareCall _ | .call .. => false
  | _ => true

namespace Told

variable {e : Expr}

theorem of_literal (hnow : ¬e.IsNow) (hempty : ¬e.IsEmptyString) (htext : e.text ≠ [])
    (h : ofLiteral (defaultLiteral e) = .literal (defaultLiteral e)) : e.Told where
  now_iff := by simp [h, hnow]
  emptyString_iff := by simp [h, hempty]
  literal _ _ := h
  text_ne_nil := htext

theorem of_now (hnow : e.IsNow) (h : ofLiteral e.text = .now) : e.Told := by
  have hprinted : defaultLiteral e = e.text := by
    cases hnow <;> rfl
  have hempty : ¬e.IsEmptyString := by
    rintro (_ | _) <;> cases hnow
  refine ⟨by simp [hprinted, h, hnow], by simp [hprinted, h, hempty], fun hnot => ?_, ?_⟩
  · exact absurd hnow hnot
  · rintro hnil
    rw [hnil] at h
    cases h

theorem of_printed (hprinted : defaultLiteral e = e.text) (hnow : ¬e.IsNow)
    (hempty : ¬e.IsEmptyString) (h : ofLiteral e.text = .literal e.text) : e.Told := by
  refine .of_literal hnow hempty (fun hnil => ?_) (hprinted ▸ h)
  rw [hnil] at h
  cases h

theorem of_text (he : e.isPlain = true) (h : ofLiteral e.text = .literal e.text) : e.Told := by
  have hprinted : defaultLiteral e = e.text := by
    cases e with
    | quoted kind => cases kind <;> first | rfl | cases he
    | _ => first | rfl | cases he
  refine .of_printed hprinted ?_ ?_ h
  · rintro (_ | _) <;> cases he
  · rintro (_ | _) <;> cases he

/-- What is printed with a character that no spelling holds is a literal. -/
theorem of_mem (he : e.isPlain = true) (hc : c ∈ e.text) (h : foreign c = true) : e.Told :=
  .of_text he (DefaultValue.ofLiteral_of_mem hc h)

theorem of_head (he : e.isPlain = true) (hc : e.text = c :: rest) (h : foreignHead c = true) :
    e.Told :=
  .of_text he (hc ▸ DefaultValue.ofLiteral_of_head h)

/-- A string is what it is by its content and nothing else. -/
theorem quoted (kind : StringKind) (content : Text) : (quoted kind content).Told := by
  have hnow : ¬(Expr.quoted kind content).IsNow := by
    rintro ⟨⟩
  have hplain (hkind : kind = .single ∨ kind = .double) : (Expr.quoted kind content).Told := by
    have hliteral : defaultLiteral (.quoted kind content) = Text.Quoted.encode content := by
      rcases hkind with rfl | rfl <;> rfl
    have htext : (Expr.quoted kind content).text ≠ [] := by
      rcases hkind with rfl | rfl <;> exact List.cons_ne_nil _ _
    by_cases hcontent : content = []
    · subst hcontent
      have hempty : (Expr.quoted kind []).IsEmptyString := by
        rcases hkind with rfl | rfl
        · exact .single
        · exact .double
      have h : ofLiteral (defaultLiteral (.quoted kind [])) = .emptyString := hliteral ▸ rfl
      exact ⟨by simp [h, hnow], by simp [h, hempty], fun _ hnot => absurd hempty hnot, htext⟩
    · refine .of_literal hnow (fun hempty => ?_) htext ?_
      · cases hempty <;> exact hcontent rfl
      · rw [hliteral, DefaultValue.ofLiteral_encode hcontent]
  cases kind with
  | single => exact hplain (.inl rfl)
  | double => exact hplain (.inr rfl)
  | national => exact .of_head rfl rfl (by decide)
  | hex => exact .of_head rfl rfl (by decide)
  | escaped => exact .of_head rfl rfl (by decide)

theorem null : null.Told :=
  .of_literal (by rintro ⟨⟩) (by rintro ⟨⟩) (by decide) (by decide)

theorem boolean (value : Bool) : (boolean value).Told := by
  cases value <;> exact .of_literal (by rintro ⟨⟩) (by rintro ⟨⟩) (by decide) (by decide)

theorem number {digits : Text} {long : Bool} (h : (Token.number digits long).IsLexed) :
    (number digits long).Told := by
  obtain ⟨c, rest, rfl, hc⟩ := h
  refine .of_mem (c := c) rfl ?_ ?_
  · cases long
    · exact List.mem_cons_self
    · exact List.mem_append_left _ List.mem_cons_self
  · rcases hc with rfl | hc
    · decide
    · exact DefaultValue.foreign_of_isDigit hc

/-- Several parts are printed with a blank between them. -/
theorem phrase (a b : Expr) (parts : List Expr) : (phrase (a :: b :: parts)).Told :=
  .of_mem (c := ' ') rfl (by simp [text, joinedText]) (by decide)

theorem phrase_append (a : Expr) (parts : List Expr) {further : List Expr} (h : further ≠ []) :
    (Expr.phrase (a :: parts ++ further)).Told := by
  obtain ⟨b, behind, rfl⟩ := List.exists_cons_of_ne_nil h
  cases parts with
  | nil => exact .phrase a b behind
  | cons part parts => exact .phrase a part (parts ++ b :: behind)

theorem followed (he : e.Told) (parts : List Expr) : (followed e parts).Told := by
  cases parts with
  | nil => exact he
  | cons part parts => exact .phrase e part parts

theorem tuple (items : List Expr) : (tuple items).Told :=
  .of_head rfl rfl (by decide)

theorem grouped (parts : List Expr) : (grouped parts).Told :=
  .of_head rfl rfl (by decide)

/-- A form with a word of its own in front of parentheses is not the function. -/
theorem enclosed {k : Keyword} (parts : List Expr)
    (hk : Text.eqIgnoringCase k.name.toList "CURRENT_TIMESTAMP".toList = false) :
    (enclosed (words [k]) parts).Told := by
  refine .of_text rfl (DefaultValue.ofLiteral_of_paren ?_ fun hnow => ?_)
  · simp [text]
  · rw [text, DefaultValue.ofLiteral_call_eq_now_iff] at hnow
    exact absurd hnow.1 (Bool.eq_false_iff.1 hk)

theorem of_literalOf? {t : Token} (ht : t.IsLexed) (h : Parser.literalOf? t = some e) :
    e.Told := by
  cases t with
  | number digits long =>
    obtain rfl := Option.some.inj h
    exact .number ht
  | quoted kind content =>
    obtain rfl := Option.some.inj h
    exact .quoted kind content
  | placeholder text =>
    obtain rfl := Option.some.inj h
    obtain ⟨rest, rfl⟩ := ht
    exact .of_mem (c := '?') rfl List.mem_cons_self (by decide)
  | _ => cases h

section Words

variable {w : Word}

/-- A name that is not the keyword is not the current moment. -/
theorem name (hw : w.IsLexed) (hk : w.is .CURRENT_TIMESTAMP = false) (parts : Name) :
    (name (Parser.wordIdent w :: parts)).Told := by
  refine .of_text rfl (Name.ofLiteral_text hw fun ⟨_, hquote, hname⟩ => ?_)
  have hbare : w.quoted = false := by simpa [Parser.wordIdent] using hquote
  exact Bool.eq_false_iff.1 hk (Word.is_currentTimestamp hbare hname)

theorem bareCall (hw : w.IsLexed) : (bareCall (Parser.wordIdent w)).Told := by
  have htext : (Expr.bareCall (Parser.wordIdent w)).text = Name.text [Parser.wordIdent w] := rfl
  by_cases hnow : (Parser.wordIdent w).IsNow
  · have hname := eq_of_beq ((Name.isNow_iff w []).2 ⟨rfl, hnow⟩)
    exact .of_now (.bare hnow) (htext ▸ DefaultValue.ofLiteral_eq_now_iff.2 (.inl hname))
  · refine .of_printed rfl ?_ (by rintro ⟨⟩) (htext ▸ Name.ofLiteral_text hw fun h => hnow h.2)
    rintro ⟨h⟩
    exact hnow h

theorem joinedText_eq_nil_iff {separator : Text} {list : List Expr}
    (hlist : ∀ a ∈ list, a.text ≠ []) : joinedText separator list = [] ↔ list = [] := by
  match list, hlist with
  | [], _ => exact ⟨fun _ => rfl, fun _ => rfl⟩
  | [a], hlist => simpa [joinedText] using hlist a List.mem_cons_self
  | a :: b :: list, hlist => simp [joinedText, hlist a List.mem_cons_self]

/-- A call is the current moment if it calls that function and has nothing in its parentheses. -/
theorem call (parts : Name) (distinct : Bool) {list : List Expr} (order : List Expr)
    (hlist : ∀ a ∈ list, a.text ≠ []) :
    (call (Parser.wordIdent w :: parts) distinct list order).Told := by
  let inside := (if distinct then "DISTINCT " else "").toList ++ joinedText ", ".toList list ++
    (if order.isEmpty then "" else " ORDER BY ").toList ++ joinedText ", ".toList order
  have hinside : inside = [] ↔ distinct = false ∧ list = [] ∧ order = [] := by
    cases distinct <;> cases order <;> simp [inside, joinedText, joinedText_eq_nil_iff hlist]
  have htext : (Expr.call (Parser.wordIdent w :: parts) distinct list order).text =
      Name.text (Parser.wordIdent w :: parts) ++ '(' :: inside ++ [')'] := by
    simp [text, inside]
  have hnow : ofLiteral (Expr.call (Parser.wordIdent w :: parts) distinct list order).text = .now ↔
      (Expr.call (Parser.wordIdent w :: parts) distinct list order).IsNow := by
    rw [htext, DefaultValue.ofLiteral_call_eq_now_iff, Name.isNow_iff, hinside]
    constructor
    · rintro ⟨⟨rfl, h⟩, rfl, rfl, rfl⟩
      exact .call h
    · rintro (_ | h)
      exact ⟨⟨rfl, h⟩, rfl, rfl, rfl⟩
  by_cases h : (Expr.call (Parser.wordIdent w :: parts) distinct list order).IsNow
  · exact .of_now h (hnow.2 h)
  · have hliteral := DefaultValue.ofLiteral_of_paren (by simp [htext]) (mt hnow.1 h)
    exact .of_printed rfl h (by rintro ⟨⟩) hliteral

end Words

end Told

end Expr

end Sql

end SqlModels
