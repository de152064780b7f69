import Mathlib.Data.List.TakeWhile
import SqlModels.Proofs.Sql.Folding

/-!
What the folding of unsigned types does to the single tokens. It keeps them, marks the words of
types, and drops each `UNSIGNED` that a mark stands for, in the order of the list and at the places
the tokens have.
-/

namespace SqlModels.Sql

/-- What becomes of a token. -/
inductive Edit
  | kept (t : Located)
  /-- A type word that becomes the word of an unsigned type. -/
  | marked (t : Located) (k : Keyword)
  | dropped (t : Located)

namespace Edit

def source : Edit → Located
  | kept t | marked t _ | dropped t => t

/-- What stands in the place of the token, if anything does. -/
def result? : Edit → Option Located
  | kept t => some t
  | marked t k => some ⟨unsignedWord k, t.place⟩
  | dropped _ => none

def isMarked : Edit → Bool
  | marked _ _ => true
  | _ => false

/-- Whether an `UNSIGNED` is dropped. -/
def dropsUnsigned : Edit → Bool
  | dropped t => t.token.is .UNSIGNED
  | _ => false

@[simp] theorem result?_kept (t : Located) : (kept t).result? = some t := rfl

@[simp] theorem source_comp_kept : source ∘ kept = id := rfl

@[simp] theorem result?_comp_kept : result? ∘ kept = some := rfl

theorem place_result? {e : Edit} {t : Located} (h : e.result? = some t) :
    t.place = e.source.place := by
  cases e with
  | kept | marked =>
    obtain rfl := Option.some.inj h
    rfl
  | dropped => cases h

/-- The edits between a type word and its `UNSIGNED`. -/
inductive Between : Keyword → List Edit → Prop
  | plain {k} (ts : List Located) : Between k (ts.map kept)
  | precision {p : Located} {gaps : List Located} (hp : p.token.is .PRECISION = true)
      (hgaps : ∀ g ∈ gaps, g.isGap = true) (ts : List Located) :
      Between .DOUBLE (gaps.map kept ++ dropped p :: ts.map kept)

/-- The edits of a folding, type by type. -/
inductive Folding : List Edit → Prop
  | nil : Folding []
  | kept {t edits} (ht : ∀ k, t.token.numericKeyword? = some k →
      Located.splitUnsigned? k (edits.map source) = none) :
      Folding edits → Folding (kept t :: edits)
  | type {t k between u edits} (ht : t.token.numericKeyword? = some k)
      (hbetween : Between k between) (hu : u.token.is .UNSIGNED = true) :
      Folding edits → Folding (marked t k :: (between ++ dropped u :: edits))

variable {k : Keyword} {edits front before behind rest between : List Edit}

theorem Between.quiet (h : Between k between) {e : Edit} (he : e ∈ between) :
    e.isMarked = false ∧ e.dropsUnsigned = false := by
  have hkept {ts : List Located} (he : e ∈ ts.map kept) :
      e.isMarked = false ∧ e.dropsUnsigned = false := by
    obtain ⟨t, -, rfl⟩ := List.mem_map.1 he
    exact ⟨rfl, rfl⟩
  cases h with
  | plain ts => exact hkept he
  | precision hp hgaps ts =>
    rcases List.mem_append.1 he with he | he
    · exact hkept he
    rcases List.mem_cons.1 he with rfl | he
    · exact ⟨rfl, Token.is_of_name_ne hp (by decide)⟩
    · exact hkept he

/-- An element that the front does not hold stands at its end or behind that. -/
theorem split_behind {e f : Edit} (h : front ++ f :: rest = before ++ e :: behind)
    (hfront : e ∉ front) : (before = front ∧ e = f ∧ behind = rest) ∨
      ∃ more, before = front ++ f :: more ∧ rest = more ++ e :: behind := by
  rcases List.append_eq_append_iff.1 h with ⟨more, rfl, hmore⟩ | ⟨more, rfl, hmore⟩
  · cases more with
    | nil =>
      obtain ⟨rfl, rfl⟩ := List.cons.inj hmore
      exact .inl ⟨List.append_nil front, rfl, rfl⟩
    | cons x more =>
      obtain ⟨rfl, rfl⟩ := List.cons.inj hmore
      exact .inr ⟨more, rfl, rfl⟩
  · cases more with
    | nil =>
      obtain ⟨rfl, rfl⟩ := List.cons.inj hmore
      exact .inl ⟨(List.append_nil before).symm, rfl, rfl⟩
    | cons x more =>
      obtain ⟨rfl, -⟩ := List.cons.inj hmore
      exact absurd (List.mem_append_right before List.mem_cons_self) hfront

/-- A token that is dropped behind some edits: an `UNSIGNED`, or the `PRECISION` of a `DOUBLE` that
is marked. -/
def Drops (before : List Edit) (t : Located) : Prop :=
  t.token.is .UNSIGNED = true ∨ t.token.is .PRECISION = true ∧
    ∃ (front : List Edit) (word : Located) (gaps : List Located),
      before = front ++ marked word .DOUBLE :: gaps.map kept ∧ ∀ g ∈ gaps, g.isGap = true

theorem Drops.mono {t : Located} (h : Drops rest t) (hrest : rest <:+ before) : Drops before t := by
  obtain ⟨skipped, rfl⟩ := hrest
  refine h.imp_right fun ⟨ht, front, word, gaps, hrest, hgaps⟩ => ?_
  exact ⟨ht, skipped ++ front, word, gaps, by rw [hrest, List.append_assoc], hgaps⟩

theorem suffix_behind (front : List Edit) (e : Edit) (rest : List Edit) :
    rest <:+ front ++ e :: rest :=
  (List.suffix_cons e rest).trans (List.suffix_append front _)

theorem not_mem_kept {t : Located} {ts : List Located} : dropped t ∉ ts.map kept := by
  simp

namespace Folding

theorem marked_word (h : Folding edits) {t : Located} (ht : marked t k ∈ edits) :
    t.token.numericKeyword? = some k := by
  induction h with
  | nil => cases ht
  | kept _ _ ih => exact ih (by simpa using ht)
  | @type u k' between v edits hu hbetween _ _ ih =>
    rcases List.mem_cons.1 ht with he | ht
    · cases he
      exact hu
    rcases List.mem_append.1 ht with ht | ht
    · exact absurd (hbetween.quiet ht).1 (by simp [isMarked])
    · exact ih (by simpa using ht)

/-- Behind a marked word the next `UNSIGNED` is dropped, and no other word is marked before. -/
theorem marked_pairs (h : Folding edits) {t : Located}
    (hedits : edits = before ++ marked t k :: behind) : ∃ between u rest,
      behind = between ++ dropped u :: rest ∧ u.token.is .UNSIGNED = true ∧
      ∀ e ∈ between, e.isMarked = false ∧ e.dropsUnsigned = false := by
  induction h generalizing before with
  | nil => simp at hedits
  | @kept x edits _ _ ih =>
    cases before with
    | nil => cases hedits
    | cons e before => exact ih (List.cons.inj hedits).2
  | @type x k' between u edits hx hbetween hu _ ih =>
    cases before with
    | nil =>
      obtain ⟨-, rfl⟩ := List.cons.inj hedits
      exact ⟨between, u, edits, rfl, hu, fun e he => hbetween.quiet he⟩
    | cons e before =>
      have hword : marked t k ∉ between := fun he => by simpa [isMarked] using (hbetween.quiet he).1
      rcases split_behind (List.cons.inj hedits).2 hword with ⟨-, he, -⟩ | ⟨more, -, hmore⟩
      · cases he
      · exact ih hmore

theorem drops (h : Folding edits) {t : Located} (hedits : edits = before ++ dropped t :: behind) :
    Drops before t := by
  induction h generalizing before with
  | nil => simp at hedits
  | @kept x edits _ _ ih =>
    cases before with
    | nil => cases hedits
    | cons e before => exact (ih (List.cons.inj hedits).2).mono (List.suffix_cons e before)
  | @type x k between u edits hx hbetween hu _ ih =>
    cases before with
    | nil => cases hedits
    | cons e before =>
      obtain ⟨rfl, hrest⟩ := List.cons.inj hedits
      -- behind kept tokens only the `UNSIGNED` is dropped, or something further behind
      have hbehind {before : List Edit} {ts : List Located}
          (h : ts.map Edit.kept ++ dropped u :: edits = before ++ dropped t :: behind) :
          Drops before t := by
        rcases split_behind h not_mem_kept with ⟨-, he, -⟩ | ⟨more, rfl, hmore⟩
        · cases he
          exact .inl hu
        · exact (ih hmore).mono (suffix_behind _ _ more)
      cases hbetween with
      | plain ts => exact (hbehind hrest).mono (List.suffix_cons _ before)
      | @precision p gaps hp hgaps ts =>
        rw [List.append_assoc, List.cons_append] at hrest
        rcases split_behind hrest not_mem_kept with ⟨rfl, he, -⟩ | ⟨more, rfl, hmore⟩
        · cases he
          exact .inr ⟨hp, [], x, gaps, rfl, hgaps⟩
        · exact (hbehind hmore).mono ((suffix_behind _ _ more).trans (List.suffix_cons _ _))

/-- A type word that is kept has no `UNSIGNED`, unless it stands before that of another one. -/
theorem kept_cases (h : Folding edits) {t : Located} (hedits : edits = before ++ .kept t :: behind)
    (ht : t.token.numericKeyword? = some k) :
    Located.splitUnsigned? k (behind.map source) = none ∨ ∃ front word k' between,
      before = front ++ marked word k' :: between ∧ ∀ e ∈ between, e.dropsUnsigned = false := by
  induction h generalizing before with
  | nil => simp at hedits
  | @kept x edits hx _ ih =>
    cases before with
    | nil =>
      obtain ⟨he, rfl⟩ := List.cons.inj hedits
      cases he
      exact .inl (hx k ht)
    | cons e before =>
      refine (ih (List.cons.inj hedits).2).imp_right
        fun ⟨front, word, k', between, hbefore, h⟩ => ?_
      exact ⟨e :: front, word, k', between, by rw [hbefore, List.cons_append], h⟩
  | @type x k₁ between u edits hx hbetween hu _ ih =>
    cases before with
    | nil => cases hedits
    | cons e before =>
      obtain ⟨rfl, hrest⟩ := List.cons.inj hedits
      rcases List.append_eq_append_iff.1 hrest with ⟨more, rfl, hmore⟩ | ⟨more, rfl, hmore⟩
      · cases more with
        | nil => cases hmore
        | cons f more =>
          refine (ih (List.cons.inj hmore).2).imp_right
            fun ⟨front, word, k', between', hbefore, h⟩ => ?_
          exact ⟨.marked x k₁ :: (between ++ f :: front), word, k', between', by simp [hbefore], h⟩
      · exact .inr ⟨[], x, k₁, before, rfl,
          fun e he => (hbetween.quiet (List.mem_append_left more he)).2⟩

theorem countP_eq (h : Folding edits) : edits.countP isMarked = edits.countP dropsUnsigned := by
  induction h with
  | nil => rfl
  | kept _ _ ih => simpa [isMarked, dropsUnsigned] using ih
  | @type t k between u edits _ hbetween hu _ ih =>
    have hmarked : between.countP isMarked = 0 :=
      List.countP_eq_zero.2 fun e he => by simp [hbetween.quiet he]
    have hdropped : between.countP dropsUnsigned = 0 :=
      List.countP_eq_zero.2 fun e he => by simp [hbetween.quiet he]
    have hword : isMarked (.marked t k) = true ∧ dropsUnsigned (.marked t k) = false := ⟨rfl, rfl⟩
    have hlast : isMarked (.dropped u) = false ∧ dropsUnsigned (.dropped u) = true := ⟨rfl, hu⟩
    simp [hword, hlast, hmarked, hdropped, ih]

end Folding

end Edit

namespace Located

variable {k : Keyword} {ts arguments behind between : List Located}

theorem splitGaps_append (ts : List Located) : (splitGaps ts).1 ++ (splitGaps ts).2 = ts :=
  List.takeWhile_append_dropWhile

theorem isGap_of_mem_splitGaps {t : Located} (ht : t ∈ (splitGaps ts).1) : t.isGap = true :=
  List.mem_takeWhile_imp ht

theorem splitArguments?_parts (h : splitArguments? ts = some (arguments, behind)) :
    arguments ++ behind = ts := by
  cases ts with
  | nil =>
    obtain ⟨rfl, rfl⟩ := Prod.mk.inj (Option.some.inj h)
    rfl
  | cons t ts =>
    rw [splitArguments?] at h
    split at h
    · obtain ⟨⟨group, rest⟩, hgroup, he⟩ := Option.map_eq_some_iff.1 h
      obtain ⟨rfl, rfl⟩ := Prod.mk.inj he
      rw [List.append_assoc, splitGaps_append, splitGroup?_append_eq hgroup]
    · obtain ⟨rfl, rfl⟩ := Prod.mk.inj (Option.some.inj h)
      rfl

theorem splitPrecision_parts (k : Keyword) (ts : List Located) : ∃ edits : List Edit,
    edits.map Edit.source ++ (splitPrecision k ts).2 = ts ∧
      edits.filterMap Edit.result? = (splitPrecision k ts).1 ∧
        ∀ more : List Located, Edit.Between k (edits ++ more.map .kept) := by
  have hts := splitGaps_append ts
  have hgaps : ∀ t ∈ (splitGaps ts).1, t.isGap = true := fun _ => isGap_of_mem_splitGaps
  have hplain (gaps more : List Located) : Edit.Between k (gaps.map .kept ++ more.map .kept) := by
    rw [← List.map_append]
    exact .plain (gaps ++ more)
  rw [splitPrecision]
  cases hsplit : splitGaps ts with
  | mk gaps rest =>
  rw [hsplit] at hts hgaps
  cases rest with
  | nil => exact ⟨gaps.map .kept, by simpa using hts, by simp, hplain gaps⟩
  | cons t rest =>
    dsimp only
    split
    · next hprecision =>
      simp only [Bool.and_eq_true, decide_eq_true_eq] at hprecision
      obtain ⟨rfl, ht⟩ := hprecision
      refine ⟨gaps.map .kept ++ .dropped t :: (splitGaps rest).1.map .kept, ?_, ?_, fun more => ?_⟩
      · simp [Edit.source, splitGaps_append, hts]
      · simp [List.filterMap_cons, Edit.result?]
      · rw [List.append_assoc, List.cons_append, ← List.map_append]
        exact .precision ht hgaps _
    · exact ⟨gaps.map .kept, by simpa using hts, by simp, hplain gaps⟩

/-- The tokens up to an `UNSIGNED` are what stands between, and a `PRECISION` behind gaps. -/
theorem splitUnsigned?_parts (h : splitUnsigned? k ts = some (between, behind)) :
    ∃ u edits, u.token.is .UNSIGNED = true ∧ Edit.Between k edits ∧
      edits.map Edit.source ++ u :: behind = ts ∧ edits.filterMap Edit.result? = between := by
  obtain ⟨edits, hts, hkept, hbetween⟩ := splitPrecision_parts k ts
  simp only [splitUnsigned?] at h
  split at h
  · next arguments u rest harguments =>
    have hrest := splitArguments?_parts harguments
    split at h
    · next hu =>
      obtain ⟨rfl, rfl⟩ := Prod.mk.inj (Option.some.inj h)
      refine ⟨u, edits ++ arguments.map .kept, hu, hbetween arguments, ?_, ?_⟩
      · rw [← hrest] at hts
        simpa using hts
      · simp [hkept]
    · cases h
  · cases h

end Located

/-- A folding is made of edits. -/
theorem exists_folding (ts : List Located) : ∃ edits, Edit.Folding edits ∧
    edits.map Edit.source = ts ∧ edits.filterMap Edit.result? = foldUnsigned ts := by
  fun_induction foldUnsigned ts with
  | case1 => exact ⟨[], .nil, rfl, rfl⟩
  | case2 t rest hk ih =>
    obtain ⟨edits, hfolding, hsource, hresult⟩ := ih
    refine ⟨.kept t :: edits, .kept (fun k hk' => by cases hk.symm.trans hk') hfolding, ?_, ?_⟩
    · rw [List.map_cons, hsource]
      rfl
    · rw [← hresult]
      rfl
  | case3 t rest k hk hsplit ih =>
    obtain ⟨edits, hfolding, hsource, hresult⟩ := ih
    refine ⟨.kept t :: edits, .kept (fun k' hk' => ?_) hfolding, ?_, ?_⟩
    · obtain rfl := Option.some.inj (hk.symm.trans hk')
      rw [hsource, hsplit]
    · rw [List.map_cons, hsource]
      rfl
    · rw [← hresult]
      rfl
  | case4 t rest k hk between behind hsplit ih =>
    obtain ⟨edits, hfolding, hsource, hresult⟩ := ih
    obtain ⟨u, inner, hu, hbetween, hrest, hkept⟩ := Located.splitUnsigned?_parts hsplit
    refine ⟨_, .type hk hbetween hu hfolding, ?_, ?_⟩
    · rw [← hrest, ← hsource]
      simp [Edit.source]
    · rw [← hresult, ← hkept]
      simp [List.filterMap_cons, Edit.result?]

/-- The folding keeps all tokens at their places but for type words, which it marks as unsigned, and
for the `UNSIGNED` of each of them, which it drops with the `PRECISION` behind a `DOUBLE`. It passes
over no type word that has an `UNSIGNED`, save those in front of the `UNSIGNED` of another one. -/
theorem foldUnsigned_edits (ts : List Located) : ∃ edits : List Edit,
    edits.map Edit.source = ts ∧ edits.filterMap Edit.result? = foldUnsigned ts ∧
    (∀ e ∈ edits, ∀ t ∈ e.result?, t.place = e.source.place) ∧
    (∀ t k, .marked t k ∈ edits → k ∈ numericKeywords ∧
      ∃ w, t.token = .word w ∧ w.quoted = false ∧ Keyword.raise w.value = k.name.toList) ∧
    (∀ before t behind, edits = before ++ .dropped t :: behind → Edit.Drops before t) ∧
    edits.countP Edit.isMarked = edits.countP Edit.dropsUnsigned ∧
    (∀ before t k behind, edits = before ++ .marked t k :: behind → ∃ between u rest,
      behind = between ++ .dropped u :: rest ∧ u.token.is .UNSIGNED = true ∧
        ∀ e ∈ between, e.isMarked = false ∧ e.dropsUnsigned = false) ∧
    ∀ before t behind k, edits = before ++ .kept t :: behind → t.token.numericKeyword? = some k →
      Located.splitUnsigned? k (behind.map Edit.source) = none ∨ ∃ front word k' between,
        before = front ++ .marked word k' :: between ∧ ∀ e ∈ between, e.dropsUnsigned = false := by
  obtain ⟨edits, hfolding, hsource, hresult⟩ := exists_folding ts
  refine ⟨edits, hsource, hresult, fun e _ t ht => Edit.place_result? ht, fun t k ht => ?_,
    fun _ _ _ => hfolding.drops, hfolding.countP_eq, fun _ _ _ _ => hfolding.marked_pairs,
    fun _ _ _ _ => hfolding.kept_cases⟩
  obtain ⟨hk, his⟩ := Token.numericKeyword?_eq_some (hfolding.marked_word ht)
  obtain ⟨w, hw⟩ := numericKeyword?_word (hfolding.marked_word ht)
  rw [hw, Token.is, Word.is, Bool.and_eq_true, Bool.not_eq_true', Keyword.spelledBy,
    beq_iff_eq] at his
  exact ⟨hk, w, hw, his⟩

end SqlModels.Sql
