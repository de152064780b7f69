import SqlModels.Sql.Unsigned

/-!
How the folding of unsigned types goes along a token list. It looks at tokens only, never at gaps or
places, and from a type word on no further than behind the parenthesis group of its arguments.
-/

namespace SqlModels.Sql

/-- Another account of tokens: the same ones at places of its own, with gaps or without. -/
structure Retells (g : Located → Option Located) : Prop where
  token : ∀ {t t'}, g t = some t' → t'.token = t.token
  gap : ∀ {t}, g t = none → t.isGap = true
  place : ∀ {t t'}, g t = some t' → ∀ token : Token, token.isGap = false →
    g ⟨token, t.place⟩ = some ⟨token, t'.place⟩

/-- The tokens that are no gaps. -/
def significant (ts : List Located) : List Located :=
  ts.filter fun t => !t.token.isGap

namespace Token

theorem numericKeyword?_eq_some {t : Token} {k : Keyword} (h : t.numericKeyword? = some k) :
    k ∈ numericKeywords ∧ t.is k = true :=
  ⟨List.mem_of_find?_eq_some h, List.find?_some h⟩

/-- Words of different keywords. -/
theorem is_of_name_ne {t : Token} {k k' : Keyword} (h : t.is k = true)
    (hne : k.name.toList ≠ k'.name.toList) : t.is k' = false := by
  cases t with
  | word w =>
    simp only [Token.is, Word.is, Keyword.spelledBy, Bool.and_eq_true, beq_iff_eq] at h
    simp only [Token.is, Word.is, Keyword.spelledBy, h.2, Bool.and_eq_false_iff]
    exact .inr (beq_eq_false_iff_ne.2 hne)
  | _ => rfl

/-- A type word is no other word that the folding looks for, and no symbol. -/
theorem numericKeyword?_apart {t : Token} {k : Keyword} (h : t.numericKeyword? = some k) :
    t.is .UNSIGNED = false ∧ t.is .PRECISION = false ∧ ∀ y, t ≠ .symbol y := by
  obtain ⟨hk, ht⟩ := numericKeyword?_eq_some h
  have hnames : ∀ k ∈ numericKeywords, k.name.toList ≠ Keyword.UNSIGNED.name.toList ∧
      k.name.toList ≠ Keyword.PRECISION.name.toList := by decide
  refine ⟨is_of_name_ne ht (hnames k hk).1, is_of_name_ne ht (hnames k hk).2, ?_⟩
  rintro y rfl
  exact nomatch ht

theorem numericKeyword?_precision {t : Token} (h : t.is .PRECISION = true) :
    t.numericKeyword? = none := by
  cases hk : t.numericKeyword? with
  | none => rfl
  | some k => simp [(numericKeyword?_apart hk).2.1] at h

theorem isGap_of_is {t : Token} {k : Keyword} (h : t.is k = true) : t.isGap = false := by
  cases t with
  | word w => rfl
  | _ => exact absurd h (by simp [Token.is])

end Token

namespace Located

variable {g : Located → Option Located} {ts between behind : List Located} {k : Keyword}

theorem splitGaps_cons (t : Located) (ts : List Located) : splitGaps (t :: ts) =
    if t.isGap then (t :: (splitGaps ts).1, (splitGaps ts).2) else ([], t :: ts) := by
  cases h : t.isGap <;> simp [splitGaps, h]

theorem isGap_head_splitGaps (ts : List Located) :
    ∀ t ∈ (splitGaps ts).2.head?, t.isGap = false := by
  intro t ht
  have hhead := List.head?_dropWhile_not isGap ts
  rw [show (ts.dropWhile isGap).head? = some t from ht] at hhead
  simpa using hhead

theorem isGap_head_splitPrecision (k : Keyword) (ts : List Located) :
    ∀ t ∈ (splitPrecision k ts).2.head?, t.isGap = false := by
  have hts := isGap_head_splitGaps ts
  rw [splitPrecision]
  cases hsplit : splitGaps ts with
  | mk gaps rest =>
    rw [hsplit] at hts
    cases rest with
    | nil => exact hts
    | cons t rest =>
      dsimp only
      split
      · exact isGap_head_splitGaps rest
      · exact hts

theorem isGap_head_splitArguments? {ts : List Located} (hts : ∀ t ∈ ts.head?, t.isGap = false)
    (h : splitArguments? ts = some (between, behind)) : ∀ t ∈ behind.head?, t.isGap = false := by
  cases ts with
  | nil =>
    obtain ⟨-, rfl⟩ := Prod.mk.inj (Option.some.inj h)
    exact nofun
  | cons t ts =>
    rw [splitArguments?] at h
    split at h
    · obtain ⟨⟨group, rest⟩, -, he⟩ := Option.map_eq_some_iff.1 h
      obtain ⟨-, rfl⟩ := Prod.mk.inj he
      exact isGap_head_splitGaps rest
    · obtain ⟨-, rfl⟩ := Prod.mk.inj (Option.some.inj h)
      exact hts

end Located

section Fold

variable {t : Located} {rest between behind : List Located} {k : Keyword}

theorem foldUnsigned_nil : foldUnsigned [] = [] := by
  rw [foldUnsigned]

theorem foldUnsigned_other (ht : t.token.numericKeyword? = none) :
    foldUnsigned (t :: rest) = t :: foldUnsigned rest := by
  rw [foldUnsigned]
  split
  · rfl
  · next hk => cases ht.symm.trans hk

/-- The folding goes over tokens that name no numeric types. -/
theorem foldUnsigned_append_other {front : List Located}
    (hfront : ∀ t ∈ front, t.token.numericKeyword? = none) (ts : List Located) :
    foldUnsigned (front ++ ts) = front ++ foldUnsigned ts := by
  induction front with
  | nil => rfl
  | cons t front ih =>
    obtain ⟨ht, hfront⟩ := List.forall_mem_cons.1 hfront
    rw [List.cons_append, foldUnsigned_other ht, ih hfront, List.cons_append]

theorem foldUnsigned_eq_self {ts : List Located}
    (hts : ∀ t ∈ ts, t.token.numericKeyword? = none) : foldUnsigned ts = ts := by
  simpa [foldUnsigned_nil] using foldUnsigned_append_other hts []

theorem foldUnsigned_signed (ht : t.token.numericKeyword? = some k)
    (hsplit : Located.splitUnsigned? k rest = none) :
    foldUnsigned (t :: rest) = t :: foldUnsigned rest := by
  rw [foldUnsigned]
  split
  · rfl
  · next hk =>
    obtain rfl := Option.some.inj (ht.symm.trans hk)
    split
    · rfl
    · next h => cases hsplit.symm.trans h

theorem foldUnsigned_unsigned (ht : t.token.numericKeyword? = some k)
    (hsplit : Located.splitUnsigned? k rest = some (between, behind)) :
    foldUnsigned (t :: rest) =
      ⟨unsignedWord k, t.place⟩ :: between ++ foldUnsigned behind := by
  rw [foldUnsigned]
  split
  · next hk => cases ht.symm.trans hk
  · next hk =>
    obtain rfl := Option.some.inj (ht.symm.trans hk)
    split
    · next h => cases hsplit.symm.trans h
    · next h =>
      obtain ⟨rfl, rfl⟩ := Prod.mk.inj (Option.some.inj (hsplit.symm.trans h))
      rfl

end Fold

namespace Retells

variable {g : Located → Option Located} (hg : Retells g) {k : Keyword}

include hg

open Located

theorem isGap {t t' : Located} (h : g t = some t') : t'.isGap = t.isGap := by
  rw [Located.isGap, hg.token h, Located.isGap]

theorem some_of_is {t : Located} (h : t.token.is k = true) : ∃ t', g t = some t' := by
  cases hgt : g t with
  | some t' => exact ⟨t', rfl⟩
  | none =>
    have := hg.gap hgt
    rw [Located.isGap, Token.isGap_of_is h] at this
    exact nomatch this

theorem splitGaps (ts : List Located) : splitGaps (ts.filterMap g) =
    ((splitGaps ts).1.filterMap g, (splitGaps ts).2.filterMap g) := by
  induction ts with
  | nil => rfl
  | cons t ts ih =>
    rw [splitGaps_cons, List.filterMap_cons]
    cases hgt : g t with
    | none => rw [if_pos (hg.gap hgt), ih, List.filterMap_cons, hgt]
    | some t' =>
      dsimp only
      rw [splitGaps_cons, hg.isGap hgt]
      split
      · rw [ih, List.filterMap_cons, hgt]
      · rw [List.filterMap_nil, List.filterMap_cons, hgt]

theorem splitGroup? (ts : List Located) : splitGroup? (ts.filterMap g) =
    (splitGroup? ts).map fun split => (split.1.filterMap g, split.2.filterMap g) := by
  induction ts with
  | nil => rfl
  | cons t ts ih =>
    rw [Located.splitGroup?, List.filterMap_cons]
    cases hgt : g t with
    | none =>
      have hparen : t.token ≠ .symbol .rightParen := fun h => by
        have := hg.gap hgt
        simp [Located.isGap, h, Token.isGap] at this
      dsimp only
      rw [if_neg hparen, ih, Option.map_map]
      refine Option.map_congr fun split _ => ?_
      simp [hgt]
    | some t' =>
      dsimp only
      rw [Located.splitGroup?, hg.token hgt]
      split
      · simp [hgt]
      · rw [ih, Option.map_map, Option.map_map]
        refine Option.map_congr fun split _ => ?_
        simp [hgt]

theorem splitPrecision (ts : List Located) : splitPrecision k (ts.filterMap g) =
    ((splitPrecision k ts).1.filterMap g, (splitPrecision k ts).2.filterMap g) := by
  have hhead := isGap_head_splitGaps ts
  rw [Located.splitPrecision, Located.splitPrecision, hg.splitGaps]
  cases hsplit : Located.splitGaps ts with
  | mk gaps rest =>
    rw [hsplit] at hhead
    cases rest with
    | nil => rfl
    | cons t rest =>
      cases hgt : g t with
      | none => exact absurd (hg.gap hgt) (by simp [hhead t rfl])
      | some t' =>
        simp only [List.filterMap_cons, hgt, hg.token hgt]
        split
        · simp [hg.splitGaps]
        · simp [hgt]

theorem splitArguments? {ts : List Located} (hts : ∀ t ∈ ts.head?, t.isGap = false) :
    splitArguments? (ts.filterMap g) =
      (splitArguments? ts).map fun split => (split.1.filterMap g, split.2.filterMap g) := by
  cases ts with
  | nil => rfl
  | cons t ts =>
    cases hgt : g t with
    | none => exact absurd (hg.gap hgt) (by simp [hts t rfl])
    | some t' =>
      have hcons : (t :: ts).filterMap g = t' :: ts.filterMap g := List.filterMap_cons_some hgt
      rw [hcons, Located.splitArguments?, Located.splitArguments?, hg.token hgt]
      split
      · rw [← hcons, hg.splitGroup?, Option.map_map, Option.map_map]
        refine Option.map_congr fun split _ => ?_
        simp [hg.splitGaps]
      · simp [hcons]

theorem splitUnsigned? (ts : List Located) : splitUnsigned? k (ts.filterMap g) =
    (splitUnsigned? k ts).map fun split => (split.1.filterMap g, split.2.filterMap g) := by
  have hts := isGap_head_splitPrecision k ts
  have harguments := hg.splitArguments? hts
  simp only [Located.splitUnsigned?, hg.splitPrecision, harguments]
  cases hsplit : Located.splitArguments? (Located.splitPrecision k ts).2 with
  | none => rfl
  | some split =>
    obtain ⟨arguments, rest⟩ := split
    cases rest with
    | nil => rfl
    | cons u behind =>
      have hu : u.isGap = false := isGap_head_splitArguments? hts hsplit u rfl
      cases hgu : g u with
      | none => exact absurd (hg.gap hgu) (by simp [hu])
      | some u' =>
        simp only [Option.map_some, List.filterMap_cons, hgu, hg.token hgu]
        split <;> simp

/-- The folding does not tell one account from another. -/
theorem foldUnsigned (ts : List Located) :
    foldUnsigned (ts.filterMap g) = (foldUnsigned ts).filterMap g := by
  fun_induction Sql.foldUnsigned ts with
  | case1 => rw [List.filterMap_nil, foldUnsigned_nil]
  | case2 t rest hk ih =>
    rw [List.filterMap_cons, List.filterMap_cons]
    cases hgt : g t with
    | none => exact ih
    | some t' => exact (foldUnsigned_other (by rw [hg.token hgt, hk])).trans (by rw [ih])
  | case3 t rest k hk hsplit ih =>
    obtain ⟨t', hgt⟩ := hg.some_of_is (Token.numericKeyword?_eq_some hk).2
    rw [List.filterMap_cons_some hgt, List.filterMap_cons_some hgt, ← ih]
    refine foldUnsigned_signed (by rw [hg.token hgt, hk]) ?_
    rw [hg.splitUnsigned?, hsplit]
    rfl
  | case4 t rest k hk between behind hsplit ih =>
    obtain ⟨t', hgt⟩ := hg.some_of_is (Token.numericKeyword?_eq_some hk).2
    have hword := hg.place hgt (unsignedWord k) rfl
    rw [List.filterMap_cons_some hgt, List.cons_append, List.filterMap_cons_some hword,
      List.filterMap_append, ← ih]
    refine foldUnsigned_unsigned (by rw [hg.token hgt, hk]) ?_
    rw [hg.splitUnsigned?, hsplit]
    rfl

end Retells

theorem foldUnsigned_significant (ts : List Located) :
    significant (foldUnsigned ts) = foldUnsigned (significant ts) := by
  have hg : Retells fun t => if t.token.isGap then none else some t :=
    ⟨fun {t t'} h => by split at h <;> simp_all,
      fun {t} h => by split at h <;> simp_all [Located.isGap],
      fun {t t'} h token htoken => by split at h <;> simp_all⟩
  have hsignificant (ts : List Located) :
      ts.filterMap (fun t => if t.token.isGap then none else some t) = significant ts := by
    induction ts with
    | nil => rfl
    | cons t ts ih => cases ht : t.token.isGap <;> simpa [significant, ht] using ih
  rw [← hsignificant, ← hsignificant, hg.foldUnsigned]

/-- Lists of the same tokens are folded to lists of the same tokens. -/
theorem foldUnsigned_tokens {ts ts' : List Located}
    (h : ts.map Located.token = ts'.map Located.token) :
    (foldUnsigned ts).map Located.token = (foldUnsigned ts').map Located.token := by
  have hg : Retells fun t => some ⟨t.token, .start⟩ :=
    ⟨fun h => by rw [← Option.some.inj h], nofun, fun h token _ => by rw [← Option.some.inj h]⟩
  have htokens (ts : List Located) : ts.map Located.token =
      (ts.filterMap fun t => some ⟨t.token, .start⟩).map Located.token := by
    simp [Function.comp_def]
  have hsame : (ts.filterMap fun t => some (⟨t.token, .start⟩ : Located)) =
      ts'.filterMap fun t => some ⟨t.token, .start⟩ := by
    have := congrArg (List.map fun token => (⟨token, .start⟩ : Located)) h
    simpa [Function.comp_def] using this
  rw [htokens, htokens (foldUnsigned ts'), ← hg.foldUnsigned, ← hg.foldUnsigned, hsame]

/-- That a list holds no gaps. -/
def Gapless (ts : List Located) : Prop :=
  ∀ t ∈ ts, t.isGap = false

theorem gapless_significant (ts : List Located) : Gapless (significant ts) := by
  intro t ht
  simpa [Located.isGap] using (List.mem_filter.1 ht).2

theorem Gapless.tail {t : Located} {ts : List Located} (h : Gapless (t :: ts)) : Gapless ts :=
  fun u hu => h u (List.mem_cons_of_mem t hu)

theorem Gapless.splitGaps {ts : List Located} (h : Gapless ts) :
    Located.splitGaps ts = ([], ts) := by
  cases ts with
  | nil => rfl
  | cons t ts => rw [Located.splitGaps_cons, h t List.mem_cons_self, if_neg Bool.false_ne_true]

/-- That a type word is followed by a parenthesis group that is not closed. -/
inductive OpensGroup : Keyword → List Located → Prop
  | plain {k t group} (ht : t.token = .symbol .leftParen)
      (hgroup : ∀ u ∈ group, u.token ≠ .symbol .rightParen) : OpensGroup k (t :: group)
  | precision {p t group} (hp : p.token.is .PRECISION) (ht : t.token = .symbol .leftParen)
      (hgroup : ∀ u ∈ group, u.token ≠ .symbol .rightParen) : OpensGroup .DOUBLE (p :: t :: group)

namespace Located

variable {k : Keyword} {front ts between arguments behind : List Located}

/-- What follows a type word, behind the `PRECISION` of a `DOUBLE PRECISION`. -/
def behindPrecision (k : Keyword) : List Located → List Located
  | [] => []
  | t :: ts => if k = .DOUBLE && t.token.is .PRECISION then ts else t :: ts

theorem behindPrecision_of_symbol {t : Located} {y : Symbol} (ht : t.token = .symbol y) :
    behindPrecision k (t :: ts) = t :: ts := by
  simp [behindPrecision, ht, Token.is]

theorem splitPrecision_of_gapless (h : Gapless ts) :
    splitPrecision k ts = ([], behindPrecision k ts) := by
  rw [splitPrecision, h.splitGaps]
  cases ts with
  | nil => rfl
  | cons t ts =>
    simp only [h.tail.splitGaps, behindPrecision]
    split <;> rfl

theorem gapless_behindPrecision (h : Gapless ts) : Gapless (behindPrecision k ts) := by
  cases ts with
  | nil => exact h
  | cons t ts =>
    rw [behindPrecision]
    split
    · exact h.tail
    · exact h

theorem splitGroup?_append_eq (h : splitGroup? ts = some (between, behind)) :
    between ++ behind = ts := by
  induction ts generalizing between with
  | nil => exact nomatch h
  | cons t ts ih =>
    rw [splitGroup?] at h
    split at h
    · obtain ⟨rfl, rfl⟩ := Prod.mk.inj (Option.some.inj h)
      rfl
    · obtain ⟨⟨group, rest⟩, hgroup, he⟩ := Option.map_eq_some_iff.1 h
      obtain ⟨rfl, rfl⟩ := Prod.mk.inj he
      exact congrArg (t :: ·) (ih hgroup)

theorem splitGroup?_append (h : splitGroup? front = some (between, behind)) :
    splitGroup? (front ++ ts) = some (between, behind ++ ts) := by
  induction front generalizing between with
  | nil => exact nomatch h
  | cons t front ih =>
    rw [List.cons_append, splitGroup?]
    rw [splitGroup?] at h
    split at h
    · next ht =>
      obtain ⟨rfl, rfl⟩ := Prod.mk.inj (Option.some.inj h)
      rw [if_pos ht]
    · next ht =>
      obtain ⟨⟨group, rest⟩, hgroup, he⟩ := Option.map_eq_some_iff.1 h
      obtain ⟨rfl, rfl⟩ := Prod.mk.inj he
      rw [if_neg ht, ih hgroup]
      rfl

theorem splitGroup?_eq_none (h : splitGroup? ts = none) :
    ∀ t ∈ ts, t.token ≠ .symbol .rightParen := by
  induction ts with
  | nil => exact nofun
  | cons t ts ih =>
    rw [splitGroup?] at h
    split at h
    · cases h
    · next ht => exact List.forall_mem_cons.2 ⟨ht, ih (by simpa using h)⟩

theorem splitArguments?_of_group {t : Located} (h : Gapless (t :: ts))
    (ht : t.token = .symbol .leftParen) : splitArguments? (t :: ts) = splitGroup? (t :: ts) := by
  rw [splitArguments?, if_pos ht]
  cases hgroup : splitGroup? (t :: ts) with
  | none => rfl
  | some split =>
    obtain ⟨group, rest⟩ := split
    have hrest : Gapless rest := fun u hu => h u (splitGroup?_append_eq hgroup ▸ by simp [hu])
    simp [hrest.splitGaps]

theorem splitArguments?_of_none {t : Located} (ht : t.token ≠ .symbol .leftParen) :
    splitArguments? (t :: ts) = some ([], t :: ts) := by
  rw [splitArguments?, if_neg ht]

/-- Takes an `UNSIGNED` off what stands behind arguments. -/
def takeUnsigned? (split : List Located × List Located) : Option (List Located × List Located) :=
  match split.2 with
  | [] => none
  | u :: behind => if u.token.is .UNSIGNED then some (split.1, behind) else none

theorem splitUnsigned?_of_gapless (h : Gapless ts) :
    splitUnsigned? k ts = (splitArguments? (behindPrecision k ts)).bind takeUnsigned? := by
  simp only [splitUnsigned?, splitPrecision_of_gapless h]
  cases splitArguments? (behindPrecision k ts) with
  | none => rfl
  | some split =>
    obtain ⟨arguments, rest⟩ := split
    cases rest <;> simp [takeUnsigned?]

theorem takeUnsigned?_append (h : takeUnsigned? (between, front) = some (arguments, behind)) :
    takeUnsigned? (between, front ++ ts) = some (arguments, behind ++ ts) := by
  cases front with
  | nil => exact nomatch h
  | cons u front =>
    simp only [takeUnsigned?, List.cons_append] at h ⊢
    split at h
    · next hu =>
      obtain ⟨rfl, rfl⟩ := Prod.mk.inj (Option.some.inj h)
      rw [if_pos hu]
    · exact nomatch h

theorem takeUnsigned?_append_none (h : takeUnsigned? (between, front) = none) {x : Located}
    (hx : x.token.is .UNSIGNED = false) : takeUnsigned? (between, front ++ x :: ts) = none := by
  cases front with
  | nil => simp [takeUnsigned?, hx]
  | cons u front =>
    simp only [takeUnsigned?, List.cons_append] at h ⊢
    split at h
    · exact nomatch h
    · next hu => rw [if_neg hu]

theorem behindPrecision_append {t : Located} (h : behindPrecision k front = t :: behind) :
    behindPrecision k (front ++ ts) = t :: behind ++ ts := by
  cases front with
  | nil => exact nomatch h
  | cons u front =>
    simp only [behindPrecision, List.cons_append] at h ⊢
    split at h
    · next hu =>
      rw [if_pos hu, h]
      rfl
    · next hu =>
      rw [if_neg hu, ← List.cons_append, h]
      rfl

/-- What is told by the first tokens stays told. -/
theorem splitUnsigned?_append (h : Gapless (front ++ ts))
    (hsplit : splitUnsigned? k front = some (between, behind)) :
    splitUnsigned? k (front ++ ts) = some (between, behind ++ ts) := by
  have hfront : Gapless front := fun t ht => h t (List.mem_append_left ts ht)
  rw [splitUnsigned?_of_gapless hfront] at hsplit
  rw [splitUnsigned?_of_gapless h]
  obtain ⟨⟨arguments, rest⟩, harguments, htake⟩ := Option.bind_eq_some_iff.1 hsplit
  refine Option.bind_eq_some_iff.2 ⟨(arguments, rest ++ ts), ?_, takeUnsigned?_append htake⟩
  have hbehind := gapless_behindPrecision (k := k) hfront
  have hall := gapless_behindPrecision (k := k) h
  cases hprecision : behindPrecision k front with
  | nil =>
    rw [hprecision] at harguments
    obtain ⟨rfl, rfl⟩ := Prod.mk.inj (Option.some.inj harguments)
    exact nomatch htake
  | cons t rest₁ =>
    rw [hprecision] at harguments hbehind
    rw [behindPrecision_append hprecision, List.cons_append] at hall ⊢
    by_cases ht : t.token = .symbol .leftParen
    · rw [splitArguments?_of_group hbehind ht] at harguments
      rw [splitArguments?_of_group hall ht, ← List.cons_append]
      exact splitGroup?_append harguments
    · rw [splitArguments?_of_none ht] at harguments
      obtain ⟨rfl, rfl⟩ := Prod.mk.inj (Option.some.inj harguments)
      exact splitArguments?_of_none ht

theorem opensGroup {t : Located} {group : List Located} (h : behindPrecision k ts = t :: group)
    (ht : t.token = .symbol .leftParen)
    (hgroup : ∀ u ∈ t :: group, u.token ≠ .symbol .rightParen) : OpensGroup k ts := by
  have hrest : ∀ u ∈ group, u.token ≠ .symbol .rightParen :=
    fun u hu => hgroup u (List.mem_cons_of_mem t hu)
  cases ts with
  | nil => exact nomatch h
  | cons u ts =>
    rw [behindPrecision] at h
    split at h
    · next hu =>
      simp only [Bool.and_eq_true, decide_eq_true_eq] at hu
      obtain ⟨rfl, hu⟩ := hu
      exact h ▸ .precision hu ht hrest
    · exact h ▸ .plain ht hrest

/-- Where the first tokens tell of no `UNSIGNED`, a type word behind them does not change that,
unless they open a group. -/
theorem splitUnsigned?_append_none {x : Located} {kx : Keyword} (h : Gapless (front ++ x :: ts))
    (hsplit : splitUnsigned? k front = none) (hopens : ¬OpensGroup k front)
    (hx : x.token.numericKeyword? = some kx) : splitUnsigned? k (front ++ x :: ts) = none := by
  obtain ⟨hunsigned, hprecision, hsymbol⟩ := Token.numericKeyword?_apart hx
  have hfront : Gapless front := fun t ht => h t (List.mem_append_left _ ht)
  rw [splitUnsigned?_of_gapless hfront] at hsplit
  rw [splitUnsigned?_of_gapless h]
  have hbehind := gapless_behindPrecision (k := k) hfront
  have hall := gapless_behindPrecision (k := k) h
  cases hrest : behindPrecision k front with
  | nil =>
    have hword : behindPrecision k (front ++ x :: ts) = x :: ts := by
      cases front with
      | nil => simp [behindPrecision, hprecision]
      | cons t front =>
        simp only [behindPrecision, List.cons_append] at hrest ⊢
        split at hrest
        · next ht => rw [if_pos ht, hrest]; rfl
        · cases hrest
    rw [hword, splitArguments?_of_none (hsymbol _)]
    simp [takeUnsigned?, hunsigned]
  | cons t rest =>
    rw [hrest] at hsplit hbehind
    rw [behindPrecision_append hrest, List.cons_append] at hall ⊢
    by_cases ht : t.token = .symbol .leftParen
    · rw [splitArguments?_of_group hbehind ht] at hsplit
      rw [splitArguments?_of_group hall ht, ← List.cons_append]
      cases hgroup : splitGroup? (t :: rest) with
      | none => exact absurd (opensGroup hrest ht (splitGroup?_eq_none hgroup)) hopens
      | some split =>
        obtain ⟨group, behind⟩ := split
        rw [hgroup] at hsplit
        rw [splitGroup?_append hgroup]
        exact takeUnsigned?_append_none hsplit hunsigned
    · rw [splitArguments?_of_none ht] at hsplit
      rw [splitArguments?_of_none ht]
      have hnone : takeUnsigned? ([], t :: rest) = none := hsplit
      exact takeUnsigned?_append_none hnone hunsigned

theorem behindPrecision_suffix (k : Keyword) (ts : List Located) : behindPrecision k ts <:+ ts := by
  cases ts with
  | nil => exact List.suffix_rfl
  | cons t ts =>
    rw [behindPrecision]
    split
    · exact List.suffix_cons t ts
    · exact List.suffix_rfl

theorem splitArguments?_append_eq (h : Gapless ts)
    (harguments : splitArguments? ts = some (arguments, behind)) : arguments ++ behind = ts := by
  cases ts with
  | nil =>
    obtain ⟨rfl, rfl⟩ := Prod.mk.inj (Option.some.inj harguments)
    rfl
  | cons t ts =>
    by_cases ht : t.token = .symbol .leftParen
    · rw [splitArguments?_of_group h ht] at harguments
      exact splitGroup?_append_eq harguments
    · rw [splitArguments?_of_none ht] at harguments
      obtain ⟨rfl, rfl⟩ := Prod.mk.inj (Option.some.inj harguments)
      rfl

/-- An `UNSIGNED` that is found stands between the arguments and what is behind. -/
theorem splitUnsigned?_eq_some (h : Gapless ts)
    (hsplit : splitUnsigned? k ts = some (between, behind)) :
    ∃ u, u.token.is .UNSIGNED = true ∧ between ++ u :: behind <:+ ts := by
  rw [splitUnsigned?_of_gapless h] at hsplit
  obtain ⟨⟨arguments, rest⟩, harguments, htake⟩ := Option.bind_eq_some_iff.1 hsplit
  have happend := splitArguments?_append_eq (gapless_behindPrecision h) harguments
  cases rest with
  | nil => exact nomatch htake
  | cons u rest =>
    simp only [takeUnsigned?] at htake
    split at htake
    · next hu =>
      obtain ⟨rfl, rfl⟩ := Prod.mk.inj (Option.some.inj htake)
      exact ⟨u, hu, happend ▸ behindPrecision_suffix k ts⟩
    · exact nomatch htake

/-- What stands behind an `UNSIGNED` stands behind the type word. -/
theorem splitUnsigned?_suffix (h : Gapless ts)
    (hsplit : splitUnsigned? k ts = some (between, behind)) : behind <:+ ts := by
  obtain ⟨u, -, hsuffix⟩ := splitUnsigned?_eq_some h hsplit
  exact ((List.suffix_cons u behind).trans (List.suffix_append between _)).trans hsuffix

theorem splitUnsigned?_eq_none (h : Gapless ts) (hts : ∀ t ∈ ts, t.token.is .UNSIGNED = false) :
    splitUnsigned? k ts = none := by
  cases hsplit : splitUnsigned? k ts with
  | none => rfl
  | some split =>
    obtain ⟨u, hu, hsuffix⟩ := splitUnsigned?_eq_some h hsplit
    exact absurd hu (by simp [hts u (hsuffix.subset (by simp))])

end Located

/-- Tokens without an `UNSIGNED` stay as they are. -/
theorem foldUnsigned_of_signed {ts : List Located} (h : Gapless ts)
    (hts : ∀ t ∈ ts, t.token.is .UNSIGNED = false) : foldUnsigned ts = ts := by
  induction ts with
  | nil => exact foldUnsigned_nil
  | cons t ts ih =>
    have hrest := (List.forall_mem_cons.1 hts).2
    cases hk : t.token.numericKeyword? with
    | none => rw [foldUnsigned_other hk, ih h.tail hrest]
    | some k =>
      rw [foldUnsigned_signed hk (Located.splitUnsigned?_eq_none h.tail hrest), ih h.tail hrest]

/-- A type word that is marked names no numeric type any more. -/
theorem numericKeyword?_unsignedWord {t : Token} {k : Keyword} (ht : t.numericKeyword? = some k) :
    (unsignedWord k).numericKeyword? = none := by
  have hwords : ∀ k ∈ numericKeywords, (unsignedWord k).numericKeyword? = none := by decide
  exact hwords k (Token.numericKeyword?_eq_some ht).1

/-- A type word that is kept has no `UNSIGNED`. -/
theorem splitUnsigned?_of_kept {t : Located} {k : Keyword} {ts us : List Located}
    (ht : t.token.numericKeyword? = some k) (h : foldUnsigned (t :: ts) = t :: us) :
    Located.splitUnsigned? k ts = none := by
  cases hsplit : Located.splitUnsigned? k ts with
  | none => rfl
  | some split =>
    rw [foldUnsigned_unsigned ht hsplit] at h
    have hword : (⟨unsignedWord k, t.place⟩ : Located) = t := (List.cons.inj h).1
    rw [← hword, numericKeyword?_unsignedWord ht] at ht
    exact nomatch ht

section Append

variable {front ts ts' folded : List Located}

/-- A list that starts with the folding of its front goes on with the folding of the rest. -/
theorem foldUnsigned_cancel (h : Gapless (front ++ ts))
    (hfold : foldUnsigned (front ++ ts) = foldUnsigned front ++ folded) :
    folded = foldUnsigned ts := by
  fun_induction foldUnsigned front with
  | case1 => exact hfold.symm
  | case2 t rest ht ih =>
    rw [List.cons_append, foldUnsigned_other ht] at hfold
    exact ih h.tail (List.cons.inj hfold).2
  | case3 t rest k ht hsplit ih =>
    rw [List.cons_append, foldUnsigned_signed ht (splitUnsigned?_of_kept ht hfold)] at hfold
    exact ih h.tail (List.cons.inj hfold).2
  | case4 t rest k ht between behind hsplit ih =>
    have hgapless : Gapless rest := fun u hu => h.tail u (List.mem_append_left ts hu)
    have hbehind := Located.splitUnsigned?_suffix hgapless hsplit
    rw [List.cons_append, foldUnsigned_unsigned ht (Located.splitUnsigned?_append h.tail hsplit),
      List.append_assoc, List.append_cancel_left_eq] at hfold
    refine ih (fun u hu => h.tail u ?_) hfold
    rcases List.mem_append.1 hu with hu | hu
    · exact List.mem_append_left ts (hbehind.subset hu)
    · exact List.mem_append_right rest hu

/-- The front of a list is folded alike whatever stands behind it, if a type word does and no type
word of the front opens a group that the front does not close. -/
theorem foldUnsigned_append {x : Located} {kx : Keyword} (hx : x.token.numericKeyword? = some kx)
    (h : Gapless (front ++ ts)) (h' : Gapless (front ++ x :: ts'))
    (hfold : foldUnsigned (front ++ ts) = foldUnsigned front ++ folded)
    (hopens : ∀ t rest k, t :: rest <:+ front → t.token.numericKeyword? = some k →
      Located.splitUnsigned? k (rest ++ ts) = none → ¬OpensGroup k rest) :
    foldUnsigned (front ++ x :: ts') = foldUnsigned front ++ foldUnsigned (x :: ts') := by
  fun_induction foldUnsigned front with
  | case1 => rfl
  | case2 t rest ht ih =>
    rw [List.cons_append, foldUnsigned_other ht] at hfold ⊢
    exact congrArg (t :: ·) (ih h.tail h'.tail (List.cons.inj hfold).2
      fun u us k hus => hopens u us k (hus.trans (List.suffix_cons t rest)))
  | case3 t rest k ht hsplit ih =>
    have hall : Located.splitUnsigned? k (rest ++ ts) = none := splitUnsigned?_of_kept ht hfold
    have hnone := Located.splitUnsigned?_append_none h'.tail hsplit
      (hopens t rest k List.suffix_rfl ht hall) hx
    rw [List.cons_append, foldUnsigned_signed ht hall] at hfold
    rw [List.cons_append, foldUnsigned_signed ht hnone]
    exact congrArg (t :: ·) (ih h.tail h'.tail (List.cons.inj hfold).2
      fun u us k hus => hopens u us k (hus.trans (List.suffix_cons t rest)))
  | case4 t rest k ht between behind hsplit ih =>
    have hgapless : Gapless rest := fun u hu => h.tail u (List.mem_append_left ts hu)
    have hbehind := Located.splitUnsigned?_suffix hgapless hsplit
    have hsub {us : List Located} (hus : Gapless (rest ++ us)) : Gapless (behind ++ us) := by
      intro u hu
      rcases List.mem_append.1 hu with hu | hu
      · exact hus u (List.mem_append_left us (hbehind.subset hu))
      · exact hus u (List.mem_append_right rest hu)
    rw [List.cons_append, foldUnsigned_unsigned ht (Located.splitUnsigned?_append h.tail hsplit),
      List.append_assoc, List.append_cancel_left_eq] at hfold
    rw [List.cons_append, foldUnsigned_unsigned ht (Located.splitUnsigned?_append h'.tail hsplit),
      ih (hsub h.tail) (hsub h'.tail) hfold fun u us k hus =>
        hopens u us k (hus.trans (hbehind.trans (List.suffix_cons t rest))), List.append_assoc]

end Append

theorem numericKeyword?_word {t : Token} {k : Keyword} (h : t.numericKeyword? = some k) :
    ∃ w, t = .word w := by
  cases t with
  | word w => exact ⟨w, rfl⟩
  | _ => exact nomatch h

/-- A type word is folded to a word. -/
theorem foldUnsigned_word {t : Located} {k : Keyword} (ht : t.token.numericKeyword? = some k)
    (ts : List Located) : ∃ w place rest, foldUnsigned (t :: ts) = ⟨.word w, place⟩ :: rest := by
  cases hsplit : Located.splitUnsigned? k ts with
  | none =>
    obtain ⟨w, hw⟩ := numericKeyword?_word ht
    exact ⟨w, t.place, foldUnsigned ts, by rw [foldUnsigned_signed ht hsplit, ← hw]⟩
  | some split => exact ⟨_, _, _, foldUnsigned_unsigned ht hsplit⟩

/-- Symbols and numbers that the folding of a list starts with are those the list starts with. -/
theorem isPrefix_of_foldUnsigned {folded more ts : List Located}
    (hfolded : ∀ t ∈ folded, ∀ w, t.token ≠ .word w) (h : foldUnsigned ts = folded ++ more) :
    folded <+: ts := by
  induction folded generalizing ts with
  | nil => exact List.nil_prefix
  | cons u folded ih =>
    obtain ⟨hu, hrest⟩ := List.forall_mem_cons.1 hfolded
    cases ts with
    | nil => simp [foldUnsigned_nil] at h
    | cons t ts =>
      cases ht : t.token.numericKeyword? with
      | none =>
        rw [foldUnsigned_other ht, List.cons_append, List.cons.injEq] at h
        exact List.cons_prefix_cons.2 ⟨h.1.symm, ih hrest h.2⟩
      | some k =>
        obtain ⟨w, place, rest, hword⟩ := foldUnsigned_word ht ts
        exact absurd rfl ((List.cons.inj (hword.symm.trans h)).1 ▸ hu w)

/-- They stand in front of every type word. -/
theorem prefix_of_foldUnsigned {front behind folded ts : List Located} {x : Located} {kx : Keyword}
    (hx : x.token.numericKeyword? = some kx) (hfolded : ∀ t ∈ folded, ∀ w, t.token ≠ .word w)
    (h : foldUnsigned (front ++ x :: behind) = folded ++ ts) : folded <+: front := by
  rcases List.prefix_or_prefix_of_prefix (isPrefix_of_foldUnsigned hfolded h)
    (List.prefix_append front _) with hprefix | ⟨more, rfl⟩
  · exact hprefix
  cases more with
  | nil => simp
  | cons t more =>
    obtain ⟨rfl, -⟩ : t = x ∧ more <+: behind := by
      simpa using isPrefix_of_foldUnsigned hfolded h
    obtain ⟨w, hw⟩ := numericKeyword?_word hx
    exact absurd hw (hfolded t (by simp) w)

/-- The folding makes no tokens but the words of unsigned types, each of a word that names a numeric
type and has an `UNSIGNED`. -/
theorem mem_foldUnsigned {ts : List Located} {t : Located} (h : Gapless ts)
    (ht : t ∈ foldUnsigned ts) : t ∈ ts ∨ ∃ before word behind k, ts = before ++ word :: behind ∧
      word.token.numericKeyword? = some k ∧ (Located.splitUnsigned? k behind).isSome ∧
        t.token = unsignedWord k := by
  fun_induction foldUnsigned ts with
  | case1 => cases ht
  | case2 u rest hu ih | case3 u rest k hu hsplit ih =>
    rcases List.mem_cons.1 ht with rfl | ht
    · exact .inl List.mem_cons_self
    rcases ih h.tail ht with hmem | ⟨before, word, behind, k, rfl, hword, hunsigned, htoken⟩
    · exact .inl (List.mem_cons_of_mem u hmem)
    · exact .inr ⟨u :: before, word, behind, k, rfl, hword, hunsigned, htoken⟩
  | case4 u rest k hu between behind hsplit ih =>
    obtain ⟨v, -, front, hfront⟩ := Located.splitUnsigned?_eq_some h.tail hsplit
    have hrest : rest = front ++ between ++ [v] ++ behind := by simp [← hfront]
    have hgapless : Gapless behind := fun w hw => h.tail w (by simp [hrest, hw])
    rw [List.cons_append] at ht
    rcases List.mem_cons.1 ht with rfl | ht
    · exact .inr ⟨[], u, rest, k, rfl, hu, by rw [hsplit]; rfl, rfl⟩
    rcases List.mem_append.1 ht with ht | ht
    · exact .inl (List.mem_cons_of_mem u (by simp [hrest, ht]))
    rcases ih hgapless ht with hmem | ⟨before, word, behind', k', rfl, hword, hunsigned, htoken⟩
    · exact .inl (List.mem_cons_of_mem u (by simp [hrest, hmem]))
    · exact .inr ⟨u :: (front ++ between ++ [v] ++ before), word, behind', k', by simp [hrest],
        hword, hunsigned, htoken⟩

end SqlModels.Sql
