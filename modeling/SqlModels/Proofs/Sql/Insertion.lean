import SqlModels.Proofs.Sql.Declared

/-!
An `UNSIGNED` put behind the type of a column. The folding takes it into the name of the type, and
the statements stay what they are but for that type.
-/

namespace SqlModels.Sql

open SqlModels.Sql.Parser

/-- The word of an unsigned numeric type is none of those that are looked for around a column. -/
theorem unsignedWord_is {k k' : Keyword} (hk : k ∈ numericKeywords)
    (hk' : k' ∈ .PRECISION :: secondWords) : (unsignedWord k).is k' = false := by
  have hwords : ∀ k ∈ numericKeywords, ∀ k' ∈ .PRECISION :: secondWords,
      (unsignedWord k).is k' = false := by decide
  exact hwords k hk k' hk'

namespace Parser

variable {t : Located} {ts rest : List Located} {modifiers : List Text} {m : Text}

theorem readModifiers_modifier (ht : modifierOf? t.token = some m) :
    readModifiers (t :: ts) = .ok modifiers rest ↔
      ∃ modifiers', modifiers = m :: modifiers' ∧ readModifiers ts = .ok modifiers' rest := by
  have hsymbol (y : Symbol) : t.token ≠ .symbol y := fun he => by simp [he, modifierOf?] at ht
  rw [readModifiers, if_neg (hsymbol _), if_neg (hsymbol _)]
  simp only [ht]
  cases readModifiers ts with
  | ok modifiers' behind => simp [eq_comm, and_comm]
  | error fault behind => simp

/-- An identifier among modifiers is a modifier. -/
theorem modifierOf?_of_identifier {i : Ident} (ht : identOf? t.token = some i)
    (h : readModifiers (t :: ts) = .ok modifiers rest) : ∃ m, modifierOf? t.token = some m := by
  obtain ⟨token, place⟩ := t
  cases token with
  | word w => exact ⟨_, rfl⟩
  | quoted kind content =>
    cases kind with
    | single => exact ⟨content, rfl⟩
    | double => exact nomatch h
    | _ => exact nomatch ht
  | _ => exact nomatch ht

theorem readModifiers_paren (ht : t.token = .symbol .leftParen) :
    readModifiers (t :: ts) ≠ .ok modifiers rest := by
  simp [readModifiers, ht, modifierOf?]

end Parser

namespace Declared

variable {ts : List Located} {word : Located} {k : Keyword} {arguments : List Located}
  {base : DataType}

/-- The arguments of a type as they are written are those that are read. -/
theorem reads_arguments (d : Declared ts) (hword : word.token.numericKeyword? = some k)
    (harguments : Arguments k arguments base)
    (hstart : d.start = d.name :: word :: (arguments ++ foldUnsigned d.behind)) :
    Arguments k arguments d.type ∧ ∀ other,
      bracketsUpTo ((foldUnsigned d.behind).countP fun t => !t.token.is .PRECISION) other
        (foldUnsigned d.behind) = .ok other (foldUnsigned d.behind) := by
  obtain ⟨base', arguments', us, hus, harguments', -, hbrackets⟩ := d.numericRule_ok hword hstart
  rcases bracketsUpTo_ok hbrackets with ⟨htype, hrest, hother⟩ | ⟨t, vs, ht, hbracket, pre, hpre⟩
  · rw [← hrest] at hus hother
    rw [htype, List.append_cancel_right hus]
    exact ⟨harguments', hother⟩
  · -- brackets would be among the arguments
    rw [ht, ← hpre, ← List.cons_append, ← List.append_assoc] at hus
    have hmem : t ∈ arguments := by simp [List.append_cancel_right hus]
    exact absurd hbracket (harguments.tokens hmem).2.2

/-- The tokens of a type without `UNSIGNED` stay as they are. -/
theorem foldUnsigned_written (hword : word.token.numericKeyword? = some k)
    (harguments : Arguments k arguments base) (hgapless : Gapless arguments) :
    foldUnsigned (word :: arguments) = word :: arguments := by
  have hnone : Located.splitUnsigned? k arguments = none :=
    Located.splitUnsigned?_eq_none hgapless fun t ht => (harguments.tokens ht).2.1
  rw [foldUnsigned_signed hword hnone, harguments.foldUnsigned_eq]

/-- Where modifiers start with the name of a column and the word of an unsigned type, they start
with the name and the type without `UNSIGNED` as well, for no arguments in parentheses are among
them. -/
theorem readModifiers_insert {name : Located} {column : Ident} {behind rest : List Located}
    {modifiers : List Text} {place : Position} (hname : identOf? name.token = some column)
    (hword : word.token.numericKeyword? = some k) (harguments : Arguments k arguments base)
    (h : readModifiers (name :: ⟨unsignedWord k, place⟩ :: (Arguments.kept arguments ++ behind)) =
      .ok modifiers rest) :
    ∃ modifiers', readModifiers (name :: word :: (arguments ++ behind)) = .ok modifiers' rest := by
  obtain ⟨m, hm⟩ := modifierOf?_of_identifier hname h
  obtain ⟨modifiers₁, -, h₁⟩ := (readModifiers_modifier hm).1 h
  obtain ⟨modifiers₂, -, h₂⟩ := (readModifiers_modifier rfl).1 h₁
  obtain ⟨w, hw⟩ := numericKeyword?_word hword
  have hm' : modifierOf? word.token = some word.token.text := by rw [hw]; rfl
  have hgroup {o : Located} {us : List Located} (ho : o.token = .symbol .leftParen)
      (he : arguments = o :: us) : False := by
    have hkept : Arguments.kept (o :: us) = o :: Arguments.kept us :=
      List.filter_cons_of_pos (by simp [ho, Token.is])
    rw [he, hkept, List.cons_append] at h₂
    exact readModifiers_paren ho h₂
  suffices harguments : ∃ modifiers₃, readModifiers (arguments ++ behind) = .ok modifiers₃ rest by
    obtain ⟨modifiers₃, h₃⟩ := harguments
    exact ⟨m :: word.token.text :: modifiers₃, (readModifiers_modifier hm).2
      ⟨_, rfl, (readModifiers_modifier hm').2 ⟨modifiers₃, rfl, h₃⟩⟩⟩
  cases harguments with
  | decimal | float | double | real => exact ⟨modifiers₂, h₂⟩
  | @doublePrecision p hp =>
    have hkept : Arguments.kept [p] = [] := by simp [Arguments.kept, hp]
    have hprecision : modifierOf? p.token = some p.token.text := by
      cases hp' : p.token with
      | word w => rfl
      | _ => simp [hp', Token.is] at hp
    rw [hkept, List.nil_append] at h₂
    exact ⟨p.token.text :: modifiers₂, (readModifiers_modifier hprecision).2 ⟨modifiers₂, rfl, h₂⟩⟩
  | digits _ ho | decimals _ ho | floatDigits ho =>
    exact (hgroup ho rfl).elim

theorem identOf_name (d : Declared ts) : identOf? d.name.token = some d.column := by
  obtain ⟨t, us, he, hident, -⟩ := typedName_eq_ok.1 d.reads
  obtain ⟨rfl, -⟩ := List.cons.inj he
  exact hident

/-- The column with the word that the folding makes of its type and of an `UNSIGNED`. -/
def made (d : Declared ts) (word : Located) (k : Keyword) (arguments : List Located) :
    List Located :=
  d.name :: ⟨unsignedWord k, word.place⟩ :: (Arguments.kept arguments ++ foldUnsigned d.behind)

section Made

variable (d : Declared ts) (hword : word.token.numericKeyword? = some k)
  (hstart : d.start = d.name :: word :: (arguments ++ foldUnsigned d.behind))

include hword

theorem typedName_made (harguments : Arguments k arguments d.type)
    (hbrackets : ∀ other, bracketsUpTo ((foldUnsigned d.behind).countP fun t =>
      !t.token.is .PRECISION) other (foldUnsigned d.behind) = .ok other (foldUnsigned d.behind))
    (hopen : ∀ u ∈ (foldUnsigned d.behind).head?,
      u.token ≠ .symbol .leftParen ∧ u.token ≠ .symbol .period) :
    typedName (d.made word k arguments) = .ok (d.column, .custom [⟨unsignedMark ++ k.name, none⟩]
      (Arguments.modifiers arguments)) (foldUnsigned d.behind) := by
  refine typedName_eq_ok.2 ⟨d.name, _, rfl, d.identOf_name, ?_⟩
  have hk := (Token.numericKeyword?_eq_some hword).1
  exact dataType_eq_ok.2 ⟨_, foldUnsigned d.behind,
    harguments.reads_custom hk _ _ fun u hu => (hopen u hu).symm, hbrackets _⟩

include hstart

theorem count_made : (d.start.countP fun t => !t.token.is .PRECISION) =
    (d.made word k arguments).countP fun t => !t.token.is .PRECISION := by
  have hsigned : word.token.is .PRECISION = false := (Token.numericKeyword?_apart hword).2.1
  have hunsigned : (unsignedWord k).is .PRECISION = false :=
    unsignedWord_is (Token.numericKeyword?_eq_some hword).1 List.mem_cons_self
  rw [hstart]
  simp [made, List.countP_cons, List.countP_append, Arguments.kept, List.countP_filter, hsigned,
    hunsigned]

theorem second_made {k' : Keyword} (hk' : k' ∈ secondWords) :
    (∀ t ∈ d.start[1]?, t.token.is k' = false) ∧
      ∀ t ∈ (d.made word k arguments)[1]?, t.token.is k' = false := by
  refine ⟨fun t ht => ?_, fun t ht => ?_⟩
  · rw [hstart] at ht
    obtain rfl := Option.some.inj ht
    exact Token.is_secondWord hword hk'
  · obtain rfl := Option.some.inj ht
    exact unsignedWord_is (Token.numericKeyword?_eq_some hword).1 (List.mem_cons_of_mem _ hk')

theorem readModifiers_made (harguments : Arguments k arguments base) {modifiers : List Text}
    {rest : List Located} (h : readModifiers (d.made word k arguments) = .ok modifiers rest) :
    ∃ modifiers', readModifiers d.start = .ok modifiers' rest :=
  hstart ▸ readModifiers_insert d.identOf_name hword harguments h

end Made

section Insert

variable (d : Declared ts) (hwritten : d.written = word :: arguments)
  (hword : word.token.numericKeyword? = some k) (harguments : Arguments k arguments base)
  (hgapless : Gapless ts)

include hwritten hword harguments hgapless

theorem start_eq : d.start = d.name :: word :: (arguments ++ foldUnsigned d.behind) := by
  have hsub : Gapless arguments := fun t ht => hgapless t <| by
    rw [d.parts, hwritten]
    simp [ht]
  rw [start, hwritten, foldUnsigned_written hword harguments hsub]
  rfl

/-- The site of a column whose type gets an `UNSIGNED`, in the tokens that make of it. -/
theorem exists_site {list : List Statement} {rest right : List Located}
    (hrun : statements typedName (foldUnsigned ts) = .ok list rest)
    (hright : right.map Located.token = (d.made word k arguments).map Located.token) :
    ∃ x : Site, x.left = d.start ∧ x.column = d.column ∧ x.type = d.type ∧
      x.behind = foldUnsigned d.behind ∧ x.right = right ∧
      x.type' = .custom [⟨unsignedMark ++ k.name, none⟩] (Arguments.modifiers arguments) := by
  have hstart := d.start_eq hwritten hword harguments hgapless
  obtain ⟨hreads, hbrackets⟩ := d.reads_arguments hword harguments hstart
  -- the tokens are those of the column as it is made, so no parser of types tells the two apart
  have hahead : Seam.finish.Ahead (d.made word k arguments) right := .of_same hright.symm
  have hnamed : Follows .finish typedName typedName := inferInstance
  obtain ⟨behind', hreads', hbehind'⟩ := hnamed.follows hahead
    (d.typedName_made hword hreads hbrackets (d.not_open hrun hword hstart)) List.nil_suffix
  have hsecond : ∀ k' ∈ secondWords, (∀ t ∈ d.start[1]?, t.token.is k' = false) ∧
      ∀ t ∈ right[1]?, t.token.is k' = false := by
    intro k' hk'
    obtain ⟨hleft, hmade⟩ := d.second_made hword hstart hk'
    refine ⟨hleft, fun t ht => ?_⟩
    obtain ⟨u, hu, htoken⟩ := Option.map_eq_some_iff.1 (hahead.second.trans (congrArg _ ht))
    exact htoken ▸ hmade u hu
  exact ⟨{
    left := d.start
    right := right
    guarded := True
    clear := trivial
    count_eq := (d.count_made hword hstart).trans hahead.count
    head_eq := (congrArg _ (congrArg List.head? hstart)).trans hahead.head
    column := d.column
    type := d.type
    type' := _
    behind := foldUnsigned d.behind
    behind' := behind'
    reads := d.reads
    reads' := hreads'
    alike := hbehind'
    second := hsecond
    modifiers := fun {modifiers rest'} h => by
      have hmodifiers : Follows .finish readModifiers readModifiers := inferInstance
      obtain ⟨rest₁, h₁, hrest₁⟩ := hmodifiers.follows hahead.symm h List.nil_suffix
      obtain ⟨modifiers', hleft⟩ := d.readModifiers_made hword hstart hreads h₁
      exact ⟨modifiers', rest₁, hleft, hrest₁.symm⟩ },
    rfl, rfl, rfl, rfl, rfl, rfl⟩

/-- The folding of the tokens with an `UNSIGNED` behind the type. -/
theorem foldUnsigned_insert (honly : NumericWordsAreTypes ts) {list : List Statement}
    {rest : List Located} (hrun : statements typedName (foldUnsigned ts) = .ok list rest)
    {u : Located} (hu : u.token.is .UNSIGNED) :
    foldUnsigned (d.before ++ (d.written ++ u :: d.behind)) =
      d.front ++ d.made word k arguments := by
  have hts : ts = d.before ++ word :: (arguments ++ d.behind) := by
    conv_lhs => rw [d.parts, hwritten]
    simp
  have hinserted : Gapless (d.before ++ word :: (arguments ++ u :: d.behind)) := by
    intro t ht
    by_cases he : t = u
    · exact he ▸ Token.isGap_of_is hu
    · refine hgapless t ?_
      rw [hts]
      simpa [he] using ht
  have hfold : foldUnsigned (d.before ++ word :: (arguments ++ d.behind)) =
      foldUnsigned d.before ++ (foldUnsigned d.written ++ foldUnsigned d.behind) :=
    (congrArg foldUnsigned hts).symm.trans d.folds
  have hopens : ∀ t rest k', t :: rest <:+ d.before → t.token.numericKeyword? = some k' →
      Located.splitUnsigned? k' (rest ++ word :: (arguments ++ d.behind)) = none →
        ¬OpensGroup k' rest := by
    rintro t rest' k' ⟨pre, hpre⟩ ht hsplit
    have hts' : ts = pre ++ t :: (rest' ++ word :: (arguments ++ d.behind)) := by
      conv_lhs => rw [hts, ← hpre]
      simp
    obtain ⟨d', hd'⟩ := honly _ _ _ hts' (by simp [ht])
    exact d'.not_opensGroup hrun (hd' ▸ hts') hgapless ht hword hsplit
  have hbehind : Gapless (arguments ++ u :: d.behind) :=
    fun t ht => hinserted t (by simp only [List.mem_append, List.mem_cons] at ht ⊢; tauto)
  rw [hwritten, List.cons_append,
    foldUnsigned_append hword (hts ▸ hgapless) hinserted hfold hopens,
    foldUnsigned_unsigned hword (harguments.splitUnsigned? hu hbehind), d.named, made]
  simp

/-- The statements as a function of the type of a column, and with an `UNSIGNED` put behind that
type. -/
theorem insert_unsigned (hclear : Unambiguous d.front d.start) (honly : NumericWordsAreTypes ts)
    (hnumbers : ∀ t ∈ ts, ∀ written long, t.token = .number written long → written ≠ [])
    {list : List Statement} {rest : List Located}
    (hrun : statements typedName (foldUnsigned ts) = .ok list rest)
    {u : Located} (hu : u.token.is .UNSIGNED) {ts' : List Located}
    (htokens : ts'.map Located.token =
      (d.before ++ (d.written ++ u :: d.behind)).map Located.token) :
    ∃ S custom rest', ListHole (Statement.Hole d.column) S ∧ S d.type = list ∧
      (∀ σ, statements (d.reading σ) (foldUnsigned ts) = .ok (S σ) rest) ∧
      statements typedName (foldUnsigned ts') = .ok (S custom) rest' ∧
      ColumnType.ofSql custom = ((ColumnType.ofSql d.type).1, true) ∧
        (ColumnType.ofSql d.type).2 = false := by
  obtain ⟨front', right, hfold', hfront, hright⟩ : ∃ front' right,
      foldUnsigned ts' = front' ++ right ∧ d.front.map Located.token = front'.map Located.token ∧
        right.map Located.token = (d.made word k arguments).map Located.token := by
    have hfolds := foldUnsigned_tokens htokens
    rw [d.foldUnsigned_insert hwritten hword harguments hgapless honly hrun hu,
      List.map_append] at hfolds
    obtain ⟨front', right, hfold', hfront, hright⟩ := List.map_eq_append_iff.1 hfolds
    exact ⟨front', right, hfold', hfront.symm, hright⟩
  obtain ⟨x, hleft, hcolumn, htype, hbehind, hxright, htype'⟩ :=
    d.exists_site hwritten hword harguments hgapless hrun hright
  obtain ⟨S, ⟨hS, -⟩, hσ, hnext⟩ := (d.crossing hrun hleft).hole
  have hahead : x.Ahead (foldUnsigned ts) (foldUnsigned ts') := by
    rw [hfold', ← hxright, d.fold_eq, ← hleft]
    exact .of_tokens (fun _ => hleft.symm ▸ hclear) hfront
  obtain ⟨rest', hrun', -⟩ := hnext _ hahead
  have hlist : S d.type = list := by
    have hsigned := hσ typedName x.type (fun _ _ _ _ => rfl) x.reads
    exact htype ▸ (EStateM.Result.ok.inj (hsigned.symm.trans hrun)).1
  have harguments' := (d.reads_arguments hword harguments
    (d.start_eq hwritten hword harguments hgapless)).1
  have hnumbers' :
      ∀ t ∈ arguments, ∀ written long, t.token = .number written long → written ≠ [] := by
    intro t ht
    refine hnumbers t ?_
    rw [d.parts, hwritten]
    simp [ht]
  refine ⟨S, x.type', rest', hcolumn ▸ hS, hlist, fun σ => ?_, hrun', ?_⟩
  · refine hσ (d.reading σ) σ (fun us _ _ hne => if_neg fun he => hne (he.trans hleft.symm)) ?_
    rw [hleft, reading, if_pos rfl, hcolumn, hbehind]
  · rw [htype']
    exact harguments'.ofSql_custom hnumbers'

end Insert

end Declared

end SqlModels.Sql
