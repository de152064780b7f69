import SqlModels.Proofs.Sql.Layout
import SqlModels.Proofs.Sql.Sources

/-!
Where the types of columns stand in a text. They are read in the folded tokens, and each of these
has the place of a token of the text, by which the one is told from the other.
-/

namespace SqlModels.Sql

open SqlModels.Sql.Parser

section Order

/-- The order of places in a text. -/
def Position.Before (p q : Position) : Prop :=
  p.line < q.line ∨ p.line = q.line ∧ p.column < q.column

namespace Position.Before

variable {p q r : Position}

theorem trans (h : p.Before q) (h' : q.Before r) : p.Before r := by
  unfold Before at *
  omega

theorem irrefl (p : Position) : ¬p.Before p := by
  unfold Before
  omega

theorem past (p : Position) (c : Char) (text : Text) : p.Before (p.past (c :: text)) := by
  have hnext (p : Position) (c : Char) : p.Before (p.next c) := by
    unfold Position.next
    split
    · exact .inl (Nat.lt_succ_self _)
    · exact .inr ⟨rfl, Nat.lt_succ_self _⟩
  induction text generalizing p c with
  | nil => exact hnext p c
  | cons d text ih => exact (hnext p c).trans (ih (p.next c) d)

end Position.Before

variable {ts : List Located}

/-- Every token stands behind those in front of it. -/
def InOrder (ts : List Located) : Prop :=
  ts.Pairwise fun t u => t.place.Before u.place

theorem tokensFrom_inOrder {p : Position} {text : Text} (h : tokensFrom p text = .ok ts) :
    InOrder ts := by
  have hplaces {p : Position} {text : Text} {ts : List Located} (h : tokensFrom p text = .ok ts) :
      (∀ t ∈ ts, t.place = p ∨ p.Before t.place) ∧ InOrder ts := by
    fun_induction tokensFrom p text generalizing ts with
    | case1 p =>
      cases h
      exact ⟨List.forall_mem_nil _, .nil⟩
    | case2 => cases h
    | case3 => cases h
    | case4 p c rest token length hread tokens htokens ih =>
      cases h
      obtain ⟨hfirst, horder⟩ := ih htokens
      have hbehind : ∀ t ∈ tokens, p.Before t.place := by
        intro t ht
        have hpast := Position.Before.past p c (rest.take (length - 1))
        rcases hfirst t ht with heq | hbefore
        · exact heq ▸ hpast
        · exact hpast.trans hbefore
      exact ⟨List.forall_mem_cons.2 ⟨.inl rfl, fun t ht => .inr (hbehind t ht)⟩,
        .cons hbehind horder⟩
  exact (hplaces h).2

/-- A token is told by its place. -/
theorem InOrder.suffix_unique (h : InOrder ts) {t u : Located} {behind further : List Located}
    (ht : t :: behind <:+ ts) (hu : u :: further <:+ ts) (hplace : t.place = u.place) :
    t :: behind = u :: further := by
  have happart {t u : Located} {behind further : List Located} (ht : t :: behind <:+ ts)
      (hu : u :: further <:+ behind) : t.place ≠ u.place := by
    intro hplace
    have hpairwise := List.Pairwise.sublist ht.sublist h
    have hbefore := (List.pairwise_cons.1 hpairwise).1 u (hu.subset List.mem_cons_self)
    exact Position.Before.irrefl _ (hplace ▸ hbefore)
  rcases List.suffix_or_suffix_of_suffix ht hu with hsuffix | hsuffix
  · exact (List.suffix_cons_iff.1 hsuffix).resolve_right fun hinner => happart hu hinner hplace.symm
  · refine ((List.suffix_cons_iff.1 hsuffix).resolve_right fun hinner => ?_).symm
    exact happart ht hinner hplace

end Order

/-- That the type of a declaration, which is read in folded tokens, starts at a word of a list. -/
def Placed.StandsAt (source : List Located) (p : Placed) (word : Located)
    (behind : List Located) : Prop :=
  word :: behind <:+ source ∧ ∃ name t us, p.start = name :: t :: us ∧ t.place = word.place

/-- That a place in a list is among the arguments of another word that names a numeric type and has
an `UNSIGNED`: these go up to the first closing parenthesis. -/
def Covered (source : List Located) (word : Located) (behind : List Located) : Prop :=
  ∃ other k front arguments rest, other.token.numericKeyword? = some k ∧
    other :: (front ++ word :: behind) <:+ source ∧
    HasUnsigned k (front ++ word :: behind) arguments rest ∧ rest.length < behind.length

theorem not_covered {before behind : List Located} {word : Located}
    (h : ∀ t ∈ before, t.token.numericKeyword? = none) :
    ¬Covered (before ++ word :: behind) word behind := by
  rintro ⟨other, k, front, arguments, rest, hother, ⟨more, hmore⟩, -, -⟩
  have hsame : (more ++ other :: front) ++ word :: behind = before ++ word :: behind := by
    simpa using hmore
  have hmem : other ∈ before := List.append_cancel_right hsame ▸ by simp
  exact nomatch hother.symm.trans (h other hmem)

/-- What stands in a folded list at the place of a token, and what stands behind it there. -/
inductive FoldedFrom (source : List Located) :
    Located → List Located → Located → List Located → Prop
  | kept {t behind} (hsigned : ∀ k, t.token.numericKeyword? = some k →
      Located.splitUnsigned? k behind = none) : FoldedFrom source t (foldUnsigned behind) t behind
  /-- A token in front of the `UNSIGNED` of another one. -/
  | inside {t inner u rest} (hcovered : Covered source t (inner ++ u :: rest))
      (hclose : ∃ c ∈ t :: inner, c.token = .symbol .rightParen) :
      FoldedFrom source t (inner ++ foldUnsigned rest) t (inner ++ u :: rest)
  | marked {word behind k between rest} (hword : word.token.numericKeyword? = some k)
      (hsplit : Located.splitUnsigned? k behind = some (between, rest)) :
      FoldedFrom source ⟨unsignedWord k, word.place⟩ (between ++ foldUnsigned rest) word behind

variable {source ts us behind between : List Located} {t word : Located} {k : Keyword}

theorem Placed.StandsAt.unique {p : Placed} {word' : Located} {behind' : List Located}
    (hsource : InOrder source) (h : p.StandsAt source word behind)
    (h' : p.StandsAt source word' behind') : word = word' ∧ behind = behind' := by
  obtain ⟨hword, _, _, _, hstart, hplace⟩ := h
  obtain ⟨hword', _, _, _, hstart', hplace'⟩ := h'
  obtain ⟨-, htail⟩ := List.cons.inj (hstart.symm.trans hstart')
  obtain ⟨rfl, -⟩ := List.cons.inj htail
  exact List.cons.inj (hsource.suffix_unique hword hword' (hplace.symm.trans hplace'))

/-- What stands between a type word and its `UNSIGNED` ends with a closing parenthesis. -/
theorem Located.splitUnsigned?_closed (hts : Gapless ts)
    (h : Located.splitUnsigned? k ts = some (between, behind)) :
    between = [] ∨ ∃ front c, between = front ++ [c] ∧ c.token = .symbol .rightParen := by
  have hgroup : ArgumentGroup between := by
    cases (Located.splitUnsigned?_iff hts).1 h with
    | plain hgroup | precision _ hgroup => exact hgroup
  cases hgroup with
  | none => exact .inl rfl
  | closed _ _ hc => exact .inr ⟨_, _, rfl, hc⟩

namespace FoldedFrom

theorem place (h : FoldedFrom source t us word behind) : word.place = t.place := by
  cases h <;> rfl

theorem mono (hts : ts <:+ source) (h : FoldedFrom ts t us word behind) :
    FoldedFrom source t us word behind := by
  cases h with
  | kept hsigned => exact .kept hsigned
  | inside hcovered hclose =>
    obtain ⟨other, k, front, arguments, rest, hother, hfront, hunsigned⟩ := hcovered
    exact .inside ⟨other, k, front, arguments, rest, hother, hfront.trans hts, hunsigned⟩ hclose
  | marked hword hsplit => exact .marked hword hsplit

end FoldedFrom

/-- What stands in front of an `UNSIGNED` that is folded into a word stays there. -/
theorem foldedFrom_inside {u v : Located} {front inner : List Located} (hts : Gapless (u :: ts))
    (hu : u.token.numericKeyword? = some k)
    (hsplit : Located.splitUnsigned? k ts = some (front ++ t :: inner, behind))
    (hv : (front ++ t :: inner) ++ v :: behind <:+ ts) :
    t :: (inner ++ v :: behind) <:+ u :: ts ∧
      FoldedFrom (u :: ts) t (inner ++ foldUnsigned behind) t (inner ++ v :: behind) := by
  have hclose : ∃ c ∈ t :: inner, c.token = .symbol .rightParen := by
    obtain ⟨group, c, hgroup, hc⟩ :=
      (Located.splitUnsigned?_closed hts.tail hsplit).resolve_left (by simp)
    have hlast := congrArg List.getLast? hgroup
    rw [List.getLast?_append_cons, List.getLast?_concat] at hlast
    exact ⟨c, List.mem_of_getLast? hlast, hc⟩
  obtain ⟨before, rfl⟩ := hv
  have hsame : before ++ ((front ++ t :: inner) ++ v :: behind) =
      (before ++ front) ++ t :: (inner ++ v :: behind) := by simp
  have hunsigned := (Located.splitUnsigned?_iff hts.tail).1 hsplit
  rw [hsame] at hunsigned ⊢
  refine ⟨⟨u :: (before ++ front), rfl⟩, .inside ?_ hclose⟩
  refine ⟨u, k, _, _, _, hu, List.suffix_rfl, hunsigned, ?_⟩
  simp only [List.length_append, List.length_cons]
  omega

/-- Wherever a folded list is read, it is the folding of the list from some place on. -/
theorem exists_foldedFrom (hts : Gapless ts) (h : t :: us <:+ foldUnsigned ts) :
    ∃ word behind, word :: behind <:+ ts ∧ FoldedFrom ts t us word behind := by
  have hlater {u : Located} {rest behind : List Located} (hbehind : behind <:+ rest)
      (h : ∃ word more, word :: more <:+ behind ∧ FoldedFrom behind t us word more) :
      ∃ word more, word :: more <:+ u :: rest ∧ FoldedFrom (u :: rest) t us word more := by
    obtain ⟨word, more, hsuffix, hfrom⟩ := h
    have hrest := hbehind.trans (List.suffix_cons u rest)
    exact ⟨word, more, hsuffix.trans hrest, hfrom.mono hrest⟩
  fun_induction foldUnsigned ts with
  | case1 => simp at h
  | case2 u rest hu ih =>
    rcases List.suffix_cons_iff.1 h with he | hrest
    · obtain ⟨rfl, rfl⟩ := List.cons.inj he
      refine ⟨_, rest, List.suffix_rfl, .kept fun k hk => ?_⟩
      cases hu.symm.trans hk
    · exact hlater List.suffix_rfl (ih hts.tail hrest)
  | case3 u rest k hu hsplit ih =>
    rcases List.suffix_cons_iff.1 h with he | hrest
    · obtain ⟨rfl, rfl⟩ := List.cons.inj he
      refine ⟨_, rest, List.suffix_rfl, .kept fun k' hk => ?_⟩
      exact Option.some.inj (hu.symm.trans hk) ▸ hsplit
    · exact hlater List.suffix_rfl (ih hts.tail hrest)
  | case4 u rest k hu between behind hsplit ih =>
    obtain ⟨v, -, hv⟩ := Located.splitUnsigned?_eq_some hts.tail hsplit
    have hbehind := Located.splitUnsigned?_suffix hts.tail hsplit
    have hfurther (hrest : t :: us <:+ foldUnsigned behind) :
        ∃ word more, word :: more <:+ u :: rest ∧ FoldedFrom (u :: rest) t us word more :=
      hlater hbehind (ih (fun w hw => hts.tail w (hbehind.subset hw)) hrest)
    rw [List.cons_append] at h
    rcases List.suffix_cons_iff.1 h with he | ⟨front, hfront⟩
    · obtain ⟨rfl, rfl⟩ := List.cons.inj he
      exact ⟨u, rest, List.suffix_rfl, .marked hu hsplit⟩
    rcases List.append_eq_append_iff.1 hfront with ⟨more, rfl, hmore⟩ | ⟨more, rfl, hmore⟩
    · cases more with
      | nil => exact hfurther ⟨[], hmore⟩
      | cons x inner =>
        obtain ⟨rfl, rfl⟩ := List.cons.inj hmore
        exact ⟨t, _, foldedFrom_inside hts hu hsplit hv⟩
    · exact hfurther ⟨more, hmore.symm⟩

theorem head_foldUnsigned {y : Symbol} (ht : t.token = .symbol y)
    (h : t ∈ (foldUnsigned ts).head?) : t ∈ ts.head? := by
  cases ts with
  | nil => simp [foldUnsigned_nil] at h
  | cons u ts =>
    cases hu : u.token.numericKeyword? with
    | none =>
      rw [foldUnsigned_other hu] at h
      exact h
    | some k =>
      obtain ⟨w, place, rest, hfold⟩ := foldUnsigned_word hu ts
      rw [hfold] at h
      obtain rfl := Option.some.inj h
      cases ht

theorem nameUpTo_head {count : Nat} {i : Ident} {n : Name} {rest : List Located}
    (hi : identifier ts = .ok i us) (h : nameUpTo count ts = .ok n rest) :
    ∃ more, n = i :: more := by
  cases count with
  | zero =>
    rw [nameUpTo, bind_of_ok hi] at h
    obtain ⟨rfl, -⟩ := pure_eq_ok.1 h
    exact ⟨[], rfl⟩
  | succ count =>
    rw [nameUpTo, bind_of_ok hi] at h
    obtain ⟨period, us₁, -, h₁⟩ := bind_eq_ok.1 h
    cases period with
    | false =>
      obtain ⟨rfl, -⟩ := pure_eq_ok.1 h₁
      exact ⟨[], rfl⟩
    | true =>
      obtain ⟨more, us₂, -, h₂⟩ := bind_eq_ok.1 h₁
      obtain ⟨rfl, -⟩ := pure_eq_ok.1 h₂
      exact ⟨more, rfl⟩

theorem customType_cons {rest : List Located} {i : Ident} {type : DataType}
    (ht : identOf? t.token = some i) (h : customType (t :: us) = .ok type rest) :
    ∃ more modifiers, type = .custom (i :: more) modifiers := by
  have hi : identifier (t :: us) = .ok i us := by rw [identifier_cons, ht]
  obtain ⟨n, us₁, hname, h₁⟩ := bind_eq_ok.1 h
  obtain ⟨more, rfl⟩ := nameUpTo_head hi (remaining_bind_eq_ok.1 hname)
  obtain ⟨found, us₃, -, h₂⟩ := bind_eq_ok.1 h₁
  cases found with
  | false =>
    obtain ⟨rfl, -⟩ := pure_eq_ok.1 h₂
    exact ⟨more, [], rfl⟩
  | true =>
    obtain ⟨modifiers, us₄, -, h₃⟩ := bind_eq_ok.1 h₂
    obtain ⟨rfl, -⟩ := pure_eq_ok.1 h₃
    exact ⟨more, modifiers, rfl⟩

end SqlModels.Sql
