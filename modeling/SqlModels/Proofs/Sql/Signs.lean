import SqlModels.Proofs.Sql.Behind
import SqlModels.Proofs.Sql.Unfolding

/-!
Why a type is unsigned. The grammar takes an `UNSIGNED` behind integer types only, and the folding
makes names of all others, so whether a column is unsigned is up to what stands behind the word of
its type.
-/

namespace SqlModels.Sql

open SqlModels.Sql.Parser

/-- The words of the types whose `UNSIGNED` the grammar takes. -/
def integerWords : List Keyword :=
  [.TINYINT, .SMALLINT, .MEDIUMINT, .INT, .INTEGER, .BIGINT, .INT2, .INT4, .INT8]

/-- That an `UNSIGNED` follows the word of a numeric or an integer type, and the arguments behind
that. -/
def HasSign (word : Located) (behind : List Located) : Prop :=
  ∃ k ∈ numericKeywords ++ integerWords, word.token.is k = true ∧
    ∃ arguments more, HasUnsigned k behind arguments more

/-- Whether a type is neither an array nor named in several parts. -/
def DataType.isBare : DataType → Bool
  | .array _ => false
  | .custom name _ => name.length = 1
  | _ => true

/-- Whether a word is written like those that the folding makes. -/
def Token.isMarked : Token → Bool
  | .word w => (ColumnType.splitMark (lowerCase w.value).toList).2
  | _ => false

variable {source ts us rest behind : List Located} {t word : Located} {type : DataType}

/-- Whether a type is neither a custom one nor an unsigned integer. -/
def DataType.isOrdinary : DataType → Bool
  | .custom _ _ => false
  | .integer _ _ unsigned => !unsigned
  | _ => true

/-- A parser gives nothing but such types. -/
def Ordinary (p : Parser DataType) : Prop :=
  Reads p fun type _ => type.isOrdinary = true

namespace Ordinary

theorem decimalType (kind : DecimalKind) : Ordinary (decimalType kind) :=
  .bind fun _ => .ite (.bind fun _ => .pure fun _ => rfl) (.pure fun _ => rfl)

theorem characterType (kind : CharacterKind) : Ordinary (characterType kind) :=
  .bind fun _ => .ite (.bind fun _ => .pure fun _ => rfl) (.pure fun _ => rfl)

theorem sizedType (kind : SizedKind) : Ordinary (sizedType kind) :=
  .bind fun _ => .pure fun _ => rfl

theorem charType (fixed varying : CharacterKind) (large : SizedKind) :
    Ordinary (charType fixed varying large) :=
  .bind fun _ => .ite (characterType varying)
    (.bind fun _ => .ite (sizedType large) (characterType fixed))

theorem clockType (kind : ClockKind) : Ordinary (clockType kind) :=
  .bind fun _ => .bind fun _ => .pure fun _ => rfl

/-- Of the rules of the type keywords only those of integers give other types. -/
theorem typeRules (element : Parser DataType) : ∀ r ∈ typeRules element,
    (r.1 ∈ integerWords ∧ ∃ kind, r.2 = integerType kind) ∨
      (r.1 ∉ integerWords ∧ Ordinary r.2) := by
  have hother {k : Keyword} {rule : Parser DataType} (hk : k ∉ integerWords) (h : Ordinary rule) :
      (k ∈ integerWords ∧ ∃ kind, rule = integerType kind) ∨ (k ∉ integerWords ∧ Ordinary rule) :=
    .inr ⟨hk, h⟩
  unfold Parser.typeRules
  iterate 9 refine List.forall_mem_cons.2 ⟨.inl ⟨by decide, _, rfl⟩, ?_⟩
  iterate 5 refine List.forall_mem_cons.2 ⟨hother (by decide) (decimalType _), ?_⟩
  refine List.forall_mem_cons.2 ⟨hother (by decide) (.bind fun _ => .pure fun _ => rfl), ?_⟩
  refine List.forall_mem_cons.2 ⟨hother (by decide) (.bind fun _ => .pure fun _ => rfl), ?_⟩
  refine List.forall_mem_cons.2 ⟨hother (by decide) (characterType _), ?_⟩
  iterate 2 refine List.forall_mem_cons.2 ⟨hother (by decide) (charType _ _ _), ?_⟩
  iterate 6 refine List.forall_mem_cons.2 ⟨hother (by decide) (sizedType _), ?_⟩
  iterate 2 refine List.forall_mem_cons.2 ⟨hother (by decide) (clockType _), ?_⟩
  iterate 4
    refine List.forall_mem_cons.2 ⟨hother (by decide) (.bind fun _ => .pure fun _ => rfl), ?_⟩
  refine List.forall_mem_cons.2 ⟨hother (k := .ARRAY) (by decide)
    (.bind fun _ => .bind fun _ => .bind fun _ => .pure fun _ => rfl), ?_⟩
  iterate 13 refine List.forall_mem_cons.2 ⟨hother (by decide) (.pure fun _ => rfl), ?_⟩
  exact List.forall_mem_nil _

end Ordinary

/-- No rule of a type keyword gives a custom type. -/
theorem typeRules_custom (element : Parser DataType) :
    ∀ r ∈ typeRules element, ∀ ts rest n modifiers, r.2 ts ≠ .ok (.custom n modifiers) rest := by
  intro r hr ts rest n modifiers h
  rcases Ordinary.typeRules element r hr with ⟨-, kind, hrule⟩ | ⟨-, hordinary⟩
  · simp [hrule, integerType, bind_eq_ok, map_eq_ok] at h
  · cases hordinary.reads h

theorem integerType_ok {kind : IntegerKind} (h : integerType kind us = .ok type rest) :
    ∃ size behind unsigned, size? us = .ok size behind ∧
      keyword? .UNSIGNED behind = .ok unsigned rest ∧ type = .integer kind size unsigned := by
  obtain ⟨size, behind, hsize, h⟩ := bind_eq_ok.1 h
  obtain ⟨unsigned, rest', hkeyword, h⟩ := bind_eq_ok.1 h
  obtain ⟨rfl, rfl⟩ := pure_eq_ok.1 h
  exact ⟨size, behind, unsigned, hsize, hkeyword, rfl⟩

/-- An unsigned integer is read with its `UNSIGNED` at the end. -/
theorem typeRules_unsigned (element : Parser DataType) :
    ∀ r ∈ typeRules element, ∀ ts rest kind width, r.2 ts = .ok (.integer kind width true) rest →
      r.1 ∈ integerWords ∧
        ∃ size behind, size? ts = .ok size behind ∧ keyword? .UNSIGNED behind = .ok true rest := by
  intro r hr ts rest kind width h
  rcases Ordinary.typeRules element r hr with ⟨hword, kind', hrule⟩ | ⟨-, hordinary⟩
  · rw [hrule] at h
    obtain ⟨size, behind, unsigned, hsize, hkeyword, htype⟩ := integerType_ok h
    obtain ⟨-, -, rfl⟩ := DataType.integer.inj htype
    exact ⟨hword, size, behind, hsize, hkeyword⟩
  · cases hordinary.reads h

/-- A type that is no array is read by the rule of its keyword, or as a custom type where the word
is no such keyword. -/
theorem dataType_cases (h : dataType ts = .ok type rest)
    (harray : ∀ element, type ≠ .array element) : ∃ t us element, ts = t :: us ∧
      ((∃ r ∈ typeRules element, t.token.is r.1 = true ∧ r.2 us = .ok type rest) ∨
        (customType ts = .ok type rest ∧ (∃ w, t.token = .word w) ∧
          ∀ r ∈ typeRules element, t.token.is r.1 = false)) := by
  obtain ⟨base, behind, hbase, hbrackets⟩ := dataType_eq_ok.1 h
  obtain ⟨rfl, rfl⟩ : base = type ∧ behind = rest := by
    rcases bracketsUpTo_eq_ok hbrackets with ⟨rfl, rfl⟩ | ⟨element, helement⟩
    · exact ⟨rfl, rfl⟩
    · exact absurd helement (harray element)
  generalize dataTypeUpTo _ = element at hbase
  rcases ts with _ | ⟨⟨token, place⟩, ts⟩
  · cases hbase
  refine ⟨_, _, element, rfl, ?_⟩
  cases token with
  | word w =>
    rw [baseType_word] at hbase
    split at hbase
    · next k rule hfind =>
      have hword := List.find?_some hfind
      exact .inl ⟨_, List.mem_of_find?_eq_some hfind, hword, hbase⟩
    · next hfind =>
      have hother := List.find?_eq_none.1 hfind
      exact .inr ⟨hbase, ⟨w, rfl⟩, fun r hr => Bool.eq_false_iff.2 (hother r hr)⟩
  | _ =>
    obtain ⟨found, _, hfound, hbase⟩ := bind_eq_ok.1 hbase
    obtain ⟨rfl, rfl⟩ := EStateM.Result.ok.inj hfound
    cases hbase

/-- Why a type is unsigned that is read up to a place: it is an integer type with an `UNSIGNED` at
its end, or it has a name that says so. -/
inductive UnsignedUpTo (ts rest : List Located) : DataType → Prop
  | integer (kind : IntegerKind) (width : Option Nat) (front : List Located) (u : Located) :
      ts = front ++ u :: rest → u.token.is .UNSIGNED →
        UnsignedUpTo ts rest (.integer kind width true)
  | named (name : Name) (modifiers : List Text) : Stands ts name.last →
      (ColumnType.ofCustom name.last modifiers).2 = true →
        UnsignedUpTo ts rest (.custom name modifiers)

theorem ofSql_unsigned (h : (ColumnType.ofSql type).2 = true) :
    (∃ kind width, type = .integer kind width true) ∨
      ∃ name modifiers, type = .custom name modifiers ∧
        (ColumnType.ofCustom name.last modifiers).2 = true := by
  unfold ColumnType.ofSql at h
  split at h
  all_goals simp_all

theorem dataType_unsigned (h : dataType ts = .ok type rest) :
    (ColumnType.ofSql type).2 = true ↔ UnsignedUpTo ts rest type := by
  constructor
  · intro hunsigned
    rcases ofSql_unsigned hunsigned with ⟨kind, width, rfl⟩ | ⟨name, modifiers, rfl, hname⟩
    · obtain ⟨t, us, element, rfl, ⟨r, hr, -, hrule⟩ | ⟨hcustom, -⟩⟩ := dataType_cases h nofun
      · obtain ⟨-, size, behind, hsize, hkeyword⟩ :=
          typeRules_unsigned element r hr us rest _ _ hrule
        obtain ⟨u, rfl, hu⟩ := keyword?_true hkeyword
        obtain ⟨front, rfl⟩ := Follows.takes (s := .finish) (q := size?) hsize
        exact .integer kind width (t :: front) u rfl hu
      · simp [customType, bind_eq_ok, pure_eq_ok, ite_eq_ok, map_eq_ok] at hcustom
    · obtain ⟨t, us, element, rfl, ⟨r, hr, -, hrule⟩ | ⟨hcustom, -⟩⟩ := dataType_cases h nofun
      · exact absurd hrule (typeRules_custom element r hr us rest name modifiers)
      · have hstands := (Yields.customType.yields List.suffix_rfl hcustom).1
        exact .named name modifiers (hstands name modifiers rfl) hname
  · rintro (⟨kind, width, front, u, -, -⟩ | ⟨name, modifiers, -, hname⟩)
    · rfl
    · exact hname

section Follows

theorem HasSign.of_numeric {k : Keyword} {arguments more : List Located}
    (hword : word.token.numericKeyword? = some k) (h : HasUnsigned k behind arguments more) :
    HasSign word behind := by
  obtain ⟨hk, his⟩ := Token.numericKeyword?_eq_some hword
  exact ⟨k, List.mem_append_left _ hk, his, arguments, more, h⟩

/-- An `UNSIGNED` in front of folded tokens stands in front of the tokens themselves. -/
theorem sign_of_foldUnsigned {u : Located} (hu : u.token.is .UNSIGNED = true)
    (h : foldUnsigned ts = u :: us) : ∃ more, ts = u :: more := by
  have hmarks : ∀ k ∈ numericKeywords, (unsignedWord k).is .UNSIGNED = false := by decide
  cases ts with
  | nil => simp [foldUnsigned_nil] at h
  | cons t ts =>
    cases ht : t.token.numericKeyword? with
    | none =>
      rw [foldUnsigned_other ht] at h
      exact ⟨ts, (List.cons.inj h).1 ▸ rfl⟩
    | some k =>
      cases hsplit : Located.splitUnsigned? k ts with
      | none =>
        rw [foldUnsigned_signed ht hsplit] at h
        obtain ⟨rfl, -⟩ := List.cons.inj h
        exact nomatch hu.symm.trans (Token.numericKeyword?_apart ht).1
      | some split =>
        rw [foldUnsigned_unsigned ht hsplit, List.cons_append] at h
        obtain ⟨rfl, -⟩ := List.cons.inj h
        exact nomatch hu.symm.trans (hmarks k (Token.numericKeyword?_eq_some ht).1)

theorem not_numeric_of_not_word {t : Located} (h : ∀ w, t.token ≠ .word w) :
    t.token.numericKeyword? = none := by
  cases hk : t.token.numericKeyword? with
  | none => rfl
  | some k =>
    obtain ⟨w, hw⟩ := numericKeyword?_word hk
    exact absurd hw (h w)

theorem sizes_not_word {o n c : Located} {value : Nat} (ho : o.token = .symbol .leftParen)
    (hn : n.token.Spells value) (hc : c.token = .symbol .rightParen) :
    ∀ t ∈ [o, n, c], ∀ w, t.token ≠ .word w := by
  obtain ⟨written, long, hn, -⟩ := hn
  simp [ho, hn, hc]

/-- The sizes of an integer that is read stand in front of what is folded, and so does the
`UNSIGNED` behind them. -/
theorem hasUnsigned_of_integer (k : Keyword) {size : Option Nat} {further : List Located}
    (hsize : size? (foldUnsigned behind) = .ok size further)
    (hsign : keyword? .UNSIGNED further = .ok true rest) :
    ∃ arguments more, HasUnsigned k behind arguments more := by
  obtain ⟨u, rfl, hu⟩ := keyword?_true hsign
  rcases size?_ok hsize with ⟨-, hfold, -⟩ | ⟨o, n, c, value, -, hfold, ho, hn, hc⟩
  · obtain ⟨more, rfl⟩ := sign_of_foldUnsigned hu hfold
    exact ⟨[], more, .plain .none hu more⟩
  · have hsizes := sizes_not_word ho hn hc
    have hfold : foldUnsigned behind = [o, n, c] ++ u :: rest := hfold
    obtain ⟨behind, rfl⟩ := isPrefix_of_foldUnsigned hsizes hfold
    rw [foldUnsigned_append_other fun t ht => not_numeric_of_not_word (hsizes t ht)] at hfold
    obtain ⟨more, rfl⟩ := sign_of_foldUnsigned hu (List.append_cancel_left hfold)
    obtain ⟨written, long, hn, -⟩ := hn
    have hgroup : ArgumentGroup (o :: [n] ++ [c]) := .closed ho (by simp [hn]) hc
    exact ⟨_, more, .plain hgroup hu more⟩

/-- Where an `UNSIGNED` follows the word of an integer and its arguments, it is read. -/
theorem integer_of_hasUnsigned {k : Keyword} {size : Option Nat} {unsigned : Bool}
    {further arguments more : List Located} (hk : k ∈ integerWords)
    (h : HasUnsigned k behind arguments more)
    (hsize : size? (foldUnsigned behind) = .ok size further)
    (hsign : keyword? .UNSIGNED further = .ok unsigned rest) : unsigned = true := by
  cases h with
  | precision => exact absurd hk (by decide)
  | @plain _ _ u hgroup hu _ =>
    have hother : u.token.numericKeyword? = none := by
      cases hu' : u.token.numericKeyword? with
      | none => rfl
      | some k => exact nomatch hu.symm.trans (Token.numericKeyword?_apart hu').1
    have hread (hfurther : further = u :: foldUnsigned more) : unsigned = true := by
      rw [hfurther, keyword?_pos hu] at hsign
      exact (EStateM.Result.ok.inj hsign).1.symm
    have hrest : foldUnsigned (u :: more) = u :: foldUnsigned more := foldUnsigned_other hother
    cases hgroup with
    | none =>
      rw [List.nil_append, hrest] at hsize
      rcases size?_ok hsize with ⟨-, hfold, -⟩ | ⟨o, n, c, value, -, hfold, ho, -, -⟩
      · exact hread hfold.symm
      · obtain ⟨rfl, -⟩ := List.cons.inj hfold
        simp [ho, Token.is] at hu
    | @closed o inner c ho hinner hc =>
      have hparen : o.token.numericKeyword? = none := not_numeric_of_not_word (by simp [ho])
      rw [List.append_assoc, List.cons_append, foldUnsigned_other hparen] at hsize
      rcases size?_ok hsize with ⟨-, -, hhead⟩ | ⟨o', n, c', value, -, hfold, -, hn, hc'⟩
      · exact absurd ho (hhead o rfl)
      have hfold : foldUnsigned (inner ++ ([c] ++ u :: more)) = [n, c'] ++ further :=
        (List.cons.inj hfold).2
      obtain ⟨written, long, hn, -⟩ := hn
      have hwords : ∀ t ∈ [n, c'], ∀ w, t.token ≠ .word w := by simp [hn, hc']
      obtain ⟨behind, hbehind⟩ := isPrefix_of_foldUnsigned hwords hfold
      -- the parenthesis that closes the size is the first one
      rcases inner with _ | ⟨a, _ | ⟨b, inner⟩⟩ <;>
        simp only [List.cons_append, List.nil_append, List.cons.injEq] at hbehind
      · obtain ⟨rfl, -⟩ := hbehind
        cases hn.symm.trans hc
      · obtain ⟨rfl, rfl, rfl⟩ := hbehind
        have hsame := foldUnsigned_append_other
          (fun t ht => not_numeric_of_not_word (hwords t ht)) (u :: more)
        rw [hrest] at hsame
        exact hread (List.append_cancel_left (hfold.symm.trans hsame))
      · obtain ⟨-, rfl, -⟩ := hbehind
        exact absurd hc' (hinner c' (by simp))

/-- The words of types are told apart. -/
theorem Token.is_unique {t : Token} {k k' : Keyword} (hk : k ∈ numericKeywords ++ integerWords)
    (hk' : k' ∈ (typeRules dataType).map Prod.fst) (ht : t.is k = true) (ht' : t.is k' = true) :
    k = k' := by
  have hnames : ∀ k ∈ numericKeywords ++ integerWords, ∀ k' ∈ (typeRules dataType).map Prod.fst,
      k.name.toList = k'.name.toList → k = k' := by
    decide
  by_contra hne
  have hother : t.is k' = false := is_of_name_ne ht fun hname => hne (hnames k hk k' hk' hname)
  exact nomatch ht'.symm.trans hother

theorem Token.numericKeyword?_of_is {t : Token} {k : Keyword} (hk : k ∈ numericKeywords)
    (ht : t.is k = true) : t.numericKeyword? = some k := by
  have hkeys : ∀ k ∈ numericKeywords, k ∈ (typeRules dataType).map Prod.fst := by decide
  cases hfound : t.numericKeyword? with
  | none => exact absurd ht (List.find?_eq_none.1 hfound k hk)
  | some k' =>
    obtain ⟨hk', ht'⟩ := numericKeyword?_eq_some hfound
    rw [is_unique (List.mem_append_left _ hk) (hkeys k' hk') ht ht']

/-- The rule that a word of an integer type is read by. -/
theorem integerType_of_word {element : Parser DataType} {k : Keyword} (hk : k ∈ integerWords)
    (ht : t.token.is k = true)
    (h : (∃ r ∈ typeRules element, t.token.is r.1 = true ∧ r.2 us = .ok type rest) ∨
      (customType (t :: us) = .ok type rest ∧ (∃ w, t.token = .word w) ∧
        ∀ r ∈ typeRules element, t.token.is r.1 = false)) :
    ∃ kind, integerType kind us = .ok type rest := by
  have hkeys : ∀ k ∈ integerWords, k ∈ (typeRules dataType).map Prod.fst := by decide
  rcases h with ⟨r, hr, hrt, hrule⟩ | ⟨-, -, hnone⟩
  · have hmem : r.1 ∈ (typeRules element).map Prod.fst := List.mem_map_of_mem hr
    have hsame := Token.is_unique (List.mem_append_right _ hk) hmem ht hrt
    rcases Ordinary.typeRules element r hr with ⟨-, kind, hinteger⟩ | ⟨hother, -⟩
    · exact ⟨kind, hinteger ▸ hrule⟩
    · exact absurd (hsame ▸ hk) hother
  · obtain ⟨r, hr, rfl⟩ : ∃ r ∈ typeRules element, r.1 = k := List.mem_map.1 (hkeys k hk)
    exact nomatch ht.symm.trans (hnone r hr)

theorem unsignedName {k : Keyword} (hk : k ∈ numericKeywords) (modifiers : List Text) :
    (ColumnType.ofCustom (unsignedMark ++ k.name) modifiers).2 = true := by
  simp only [numericKeywords, List.mem_cons, List.not_mem_nil, or_false] at hk
  rcases hk with rfl | rfl | rfl | rfl | rfl <;> rfl

/-- Only names with the mark of unsigned types are unsigned. -/
theorem splitMark_of_unsigned {name : String} {modifiers : List Text}
    (h : (ColumnType.ofCustom name modifiers).2 = true) :
    (ColumnType.splitMark (lowerCase name).toList).2 = true := by
  unfold ColumnType.ofCustom at h
  dsimp only at h
  split at h
  iterate 8 exact h
  exact absurd h Bool.false_ne_true

theorem dataType_hasSign (hbehind : Gapless behind) (hfrom : FoldedFrom source t us word behind)
    (hcovered : ¬Covered source word behind) (hread : dataType (t :: us) = .ok type rest)
    (hbare : type.isBare = true) (hword : word.token.isMarked = false) :
    (ColumnType.ofSql type).2 = true ↔ HasSign word behind := by
  have harray (element : DataType) : type ≠ .array element := by
    rintro rfl
    cases hbare
  cases hfrom with
  | inside hinside => exact absurd hinside hcovered
  | @marked _ _ k between rest' hk hsplit =>
    refine iff_of_true ?_ (.of_numeric hk ((Located.splitUnsigned?_iff hbehind).1 hsplit))
    have hnumeric := (Token.numericKeyword?_eq_some hk).1
    obtain ⟨base, further, hbase, hbrackets⟩ := dataType_eq_ok.1 hread
    rw [baseType_unsigned hnumeric] at hbase
    obtain ⟨more, modifiers, rfl⟩ := customType_cons rfl hbase
    rcases bracketsUpTo_eq_ok hbrackets with ⟨rfl, rfl⟩ | ⟨element, helement⟩
    · obtain rfl := List.eq_nil_of_length_eq_zero (Nat.succ.inj (of_decide_eq_true hbare))
      exact unsignedName hnumeric modifiers
    · exact absurd helement (harray element)
  | kept hsigned =>
    obtain ⟨_, us, element, hts, hcases⟩ := dataType_cases hread harray
    obtain ⟨ht, hus⟩ := List.cons.inj hts
    subst ht hus
    constructor
    · intro hunsigned
      rcases ofSql_unsigned hunsigned with ⟨kind, width, rfl⟩ | ⟨name, modifiers, rfl, hname⟩
      · rcases hcases with ⟨r, hr, his, hrule⟩ | ⟨hcustom, -⟩
        · obtain ⟨hk, size, further, hsize, hsign⟩ :=
            typeRules_unsigned element r hr _ rest kind width hrule
          exact ⟨r.1, List.mem_append_right _ hk, his, hasUnsigned_of_integer r.1 hsize hsign⟩
        · simp [customType, bind_eq_ok, pure_eq_ok, ite_eq_ok, map_eq_ok] at hcustom
      · rcases hcases with ⟨r, hr, -, hrule⟩ | ⟨hcustom, ⟨w, hw⟩, -⟩
        · exact absurd hrule (typeRules_custom element r hr _ rest name modifiers)
        · have hident : identOf? t.token = some (wordIdent w) := by
            rw [hw]
            rfl
          obtain ⟨more, modifiers, htype⟩ := customType_cons hident hcustom
          obtain ⟨rfl, rfl⟩ := DataType.custom.inj htype
          obtain rfl := List.eq_nil_of_length_eq_zero (Nat.succ.inj (of_decide_eq_true hbare))
          have hmarked : t.token.isMarked = true := by
            rw [hw]
            exact splitMark_of_unsigned hname
          exact nomatch hword.symm.trans hmarked
    · rintro ⟨k, hk, his, arguments, more, hhas⟩
      rcases List.mem_append.1 hk with hk | hk
      · have hnumeric : t.token.numericKeyword? = some k := Token.numericKeyword?_of_is hk his
        have hsome := (Located.splitUnsigned?_iff hbehind).2 hhas
        exact nomatch (hsigned k hnumeric).symm.trans hsome
      · obtain ⟨kind, hrule⟩ := integerType_of_word hk his hcases
        obtain ⟨size, further, unsigned, hsize, hsign, rfl⟩ := integerType_ok hrule
        obtain rfl := integer_of_hasUnsigned hk hhas hsize hsign
        rfl

end Follows

end SqlModels.Sql
