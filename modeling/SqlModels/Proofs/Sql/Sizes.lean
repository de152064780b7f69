import SqlModels.Proofs.Sql.Unfolding

/-!
The sizes of decimals. A decimal without an `UNSIGNED` is read with the sizes that stand behind its
word, or not at all. One with an `UNSIGNED` is read with them if nothing else stands in its place,
and else with whatever numbers are found there.
-/

namespace SqlModels.Sql

open SqlModels.Sql.Parser

/-- The digits and decimals that the arguments of a decimal stand for. -/
inductive Sizes : List Located → Nat → Nat → Prop
  | none : Sizes [] 10 0
  | digits {o n c p} (ho : o.token = .symbol .leftParen) (hn : n.token.Spells p)
      (hc : c.token = .symbol .rightParen) : Sizes [o, n, c] p 0
  | decimals {o n m d c p s} (ho : o.token = .symbol .leftParen) (hn : n.token.Spells p)
      (hm : m.token = .symbol .comma) (hd : d.token.Spells s)
      (hc : c.token = .symbol .rightParen) : Sizes [o, n, m, d, c] p s

/-- That a decimal has an `UNSIGNED`, but not just its sizes in front of that, or more of a type
behind it. -/
def Loose (k : Keyword) (behind : List Located) : Prop :=
  (Located.splitUnsigned? k behind).isSome ∧ ∀ arguments p s u rest, Sizes arguments p s →
    u.token.is .UNSIGNED = true → behind = arguments ++ u :: rest →
      ∃ t ∈ rest.head?, t.token = .symbol .leftParen ∨ t.token = .symbol .period

/-- What a decimal is read as, by the tokens behind its word. -/
inductive DecimalRead (k : Keyword) : List Located → DataType → Prop
  | signed {arguments behind p s type} (h : Sizes arguments p s)
      (hbare : arguments = [] → ∀ t ∈ behind.head?, t.token ≠ .symbol .leftParen)
      (htype : ColumnType.ofSql type = (.decimal p s, false)) :
      DecimalRead k (arguments ++ behind) type
  | unsigned {arguments p s u type} (h : Sizes arguments p s) (hu : u.token.is .UNSIGNED = true)
      (htype : ColumnType.ofSql type = (.decimal p s, true)) (behind : List Located) :
      DecimalRead k (arguments ++ u :: behind) type
  | array (behind : List Located) (element : DataType) : DecimalRead k behind (.array element)
  | loose {behind} (h : Loose k behind) (more : Name) (modifiers : List Text) :
      DecimalRead k behind (.custom (⟨unsignedMark ++ k.name, none⟩ :: more) modifiers)

variable {source ts us behind arguments : List Located} {t word : Located} {k : Keyword}
  {kind : DecimalKind} {type : DataType} {p s : Nat}

theorem Arguments.sizes (h : Arguments k arguments type) (hk : (k, kind) ∈ decimalWords) :
    ∃ p s, Sizes arguments p s ∧ ColumnType.ofSql type = (.decimal p s, false) := by
  cases h with
  | decimal hk => exact ⟨10, 0, .none, ofSql_decimal hk _⟩
  | digits hk ho hn hc => exact ⟨_, 0, .digits ho hn hc, ofSql_decimal hk _⟩
  | decimals hk ho hn hm hd hc => exact ⟨_, _, .decimals ho hn hm hd hc, ofSql_decimal hk _⟩
  | _ => simp [decimalWords] at hk

namespace Sizes

theorem exists_arguments (h : Sizes arguments p s) (hk : (k, kind) ∈ decimalWords) :
    ∃ type, Arguments k arguments type ∧ ColumnType.ofSql type = (.decimal p s, false) := by
  cases h with
  | none => exact ⟨_, .decimal hk, Arguments.ofSql_decimal hk _⟩
  | digits ho hn hc => exact ⟨_, .digits hk ho hn hc, Arguments.ofSql_decimal hk _⟩
  | decimals ho hn hm hd hc => exact ⟨_, .decimals hk ho hn hm hd hc, Arguments.ofSql_decimal hk _⟩

theorem not_word (h : Sizes arguments p s) : ∀ t ∈ arguments, ∀ w, t.token ≠ .word w := by
  cases h with
  | none => exact List.forall_mem_nil _
  | digits ho hn hc =>
    obtain ⟨written, long, hn, -⟩ := hn
    simp [ho, hn, hc]
  | decimals ho hn hm hd hc =>
    obtain ⟨written, long, hn, -⟩ := hn
    obtain ⟨written', long', hd, -⟩ := hd
    simp [ho, hn, hm, hd, hc]

/-- Arguments end at the first closing parenthesis. -/
theorem closes (h : Sizes arguments p s) : arguments = [] ∨ ∃ front c, arguments = front ++ [c] ∧
    ∀ t ∈ front, t.token ≠ .symbol .rightParen := by
  cases h with
  | none => exact .inl rfl
  | @digits o n c p ho hn hc =>
    obtain ⟨written, long, hn, -⟩ := hn
    exact .inr ⟨[o, n], c, rfl, by simp [ho, hn]⟩
  | @decimals o n m d c p s ho hn hm hd hc =>
    obtain ⟨written, long, hn, -⟩ := hn
    obtain ⟨written', long', hd, -⟩ := hd
    exact .inr ⟨[o, n, m, d], c, rfl, by simp [ho, hn, hm, hd]⟩

end Sizes

section Folding

/-- The arguments of a type word that is kept stand behind it in the list itself. -/
theorem FoldedFrom.prefix_behind (h : FoldedFrom source t us word behind)
    (ht : t.token.numericKeyword? = some k) (hsizes : Sizes arguments p s)
    (hus : arguments <+: us) : arguments <+: behind := by
  cases h with
  | kept _ =>
    obtain ⟨more, hmore⟩ := hus
    exact isPrefix_of_foldUnsigned hsizes.not_word hmore.symm
  | @inside _ inner u rest _ hclose =>
    refine List.IsPrefix.trans ?_ (List.prefix_append inner _)
    rcases hsizes.closes with rfl | ⟨front, c, rfl, hfront⟩
    · exact List.nil_prefix
    rcases List.prefix_or_prefix_of_prefix hus (List.prefix_append inner _) with hprefix | hprefix
    · exact hprefix
    rcases List.prefix_concat_iff.1 hprefix with rfl | hinner
    · exact List.prefix_rfl
    · obtain ⟨close, hmem, hclose⟩ := hclose
      rcases List.mem_cons.1 hmem with rfl | hmem
      · obtain ⟨w, hw⟩ := numericKeyword?_word ht
        cases hclose.symm.trans hw
      · exact absurd hclose (hfront close (hinner.subset hmem))
  | marked hword _ => exact nomatch (numericKeyword?_unsignedWord hword).symm.trans ht

/-- A symbol behind a type word that is kept stays behind it. -/
theorem FoldedFrom.head {y : Symbol} {u : Located} (h : FoldedFrom source t us word behind)
    (ht : t.token.numericKeyword? = some k) (hu : u.token = .symbol y) (hhead : u ∈ behind.head?) :
    u ∈ us.head? := by
  cases h with
  | kept _ =>
    cases behind with
    | nil => cases hhead
    | cons v behind =>
      obtain rfl := Option.some.inj hhead
      have hother : v.token.numericKeyword? = none := by rw [hu]; rfl
      rw [foldUnsigned_other hother]
      rfl
  | @inside _ inner v rest _ hclose =>
    cases inner with
    | nil =>
      obtain ⟨c, hc, hclose⟩ := hclose
      obtain rfl := List.mem_singleton.1 hc
      obtain ⟨w, hw⟩ := numericKeyword?_word ht
      cases hclose.symm.trans hw
    | cons _ inner => exact hhead
  | marked hword _ => exact nomatch (numericKeyword?_unsignedWord hword).symm.trans ht

end Folding

/-- A decimal is read with the sizes behind its word, unless these are loose. -/
theorem dataType_decimal {rest : List Located} (hfrom : FoldedFrom source t us word behind)
    (hbehind : Gapless behind)
    (hnumbers : ∀ t ∈ behind, ∀ written long, t.token = .number written long → written ≠ [])
    (hword : word.token.numericKeyword? = some k) (hk : (k, kind) ∈ decimalWords)
    (hread : dataType (t :: us) = .ok type rest) : DecimalRead k behind type := by
  have hnumeric := (Token.numericKeyword?_eq_some hword).1
  obtain ⟨base, further, hbase, hbrackets⟩ := dataType_eq_ok.1 hread
  rcases bracketsUpTo_eq_ok hbrackets with ⟨rfl, rfl⟩ | ⟨element, rfl⟩
  swap
  · exact .array behind element
  have hsigned (ht : t.token.numericKeyword? = some k) : DecimalRead k behind type := by
    rw [baseType_numeric ht] at hbase
    obtain ⟨arguments, rfl, harguments, hbare⟩ := numericRule_ok hnumeric hbase
    obtain ⟨p, s, hsizes, htype⟩ := harguments.sizes hk
    obtain ⟨more, rfl⟩ := hfrom.prefix_behind ht hsizes (List.prefix_append arguments _)
    refine .signed hsizes (fun hnil u hhead hu => ?_) htype
    subst hnil
    have hwords : ∀ word ∈ decimalWords, word.1 ∈ [Keyword.DECIMAL, .NUMERIC, .FLOAT] := by decide
    exact (hbare rfl u (hfrom.head ht hu hhead)).1 (hwords _ hk) hu
  cases hfrom with
  | kept _ | inside _ _ => exact hsigned hword
  | @marked _ _ k' between rest hword' hsplit =>
    obtain rfl := Option.some.inj (hword'.symm.trans hword)
    by_cases hloose : Loose k' behind
    · rw [baseType_unsigned hnumeric] at hbase
      obtain ⟨more, modifiers, rfl⟩ := customType_cons rfl hbase
      exact .loose hloose more modifiers
    · obtain ⟨arguments, p, s, u, behind', hsizes, hu, rfl, hhead⟩ :
          ∃ arguments p s u behind', Sizes arguments p s ∧ u.token.is .UNSIGNED = true ∧
            behind = arguments ++ u :: behind' ∧ ∀ t ∈ behind'.head?,
              ¬(t.token = .symbol .leftParen ∨ t.token = .symbol .period) := by
        simpa [Loose, hsplit] using hloose
      obtain ⟨native, harguments, hnative⟩ := hsizes.exists_arguments hk
      obtain ⟨rfl, rfl⟩ := Prod.mk.inj
        (Option.some.inj ((harguments.splitUnsigned? hu hbehind).symm.trans hsplit))
      have hend : ∀ v ∈ (foldUnsigned behind').head?,
          v.token ≠ .symbol .period ∧ v.token ≠ .symbol .leftParen := fun v hv =>
        ⟨fun he => hhead v (head_foldUnsigned he hv) (.inr he),
          fun he => hhead v (head_foldUnsigned he hv) (.inl he)⟩
      obtain ⟨rfl, -⟩ := EStateM.Result.ok.inj
        ((harguments.reads_custom hnumeric _ word.place hend).symm.trans hbase)
      have hsame := harguments.ofSql_custom fun t ht => hnumbers t (List.mem_append_left _ ht)
      exact .unsigned hsizes hu (by rw [hsame.1, hnative]) behind'

end SqlModels.Sql
