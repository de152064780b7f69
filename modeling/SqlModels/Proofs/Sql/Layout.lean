import Mathlib.Data.List.Basic
import SqlModels.Proofs.Sql.Edits

/-!
Layout. The folding of unsigned types and the gaps between tokens have nothing to do with each
other: every gap is kept, and what becomes of the other tokens is told by them alone, wherever they
stand. What that is can be said without gaps, by three rules.
-/

namespace SqlModels.Sql

/-- The arguments of a type: none, or all up to the first closing parenthesis. -/
inductive ArgumentGroup : List Located → Prop
  | none : ArgumentGroup []
  | closed {o inner c} (ho : o.token = .symbol .leftParen)
      (hinner : ∀ t ∈ inner, t.token ≠ .symbol .rightParen)
      (hc : c.token = .symbol .rightParen) : ArgumentGroup (o :: inner ++ [c])

/-- That a type word has an `UNSIGNED`, behind arguments, and behind the `PRECISION` of a
`DOUBLE`. -/
inductive HasUnsigned : Keyword → List Located → List Located → List Located → Prop
  | plain {k arguments u} (h : ArgumentGroup arguments) (hu : u.token.is .UNSIGNED = true)
      (behind : List Located) : HasUnsigned k (arguments ++ u :: behind) arguments behind
  | precision {p arguments u} (hp : p.token.is .PRECISION = true) (h : ArgumentGroup arguments)
      (hu : u.token.is .UNSIGNED = true) (behind : List Located) :
      HasUnsigned .DOUBLE (p :: (arguments ++ u :: behind)) arguments behind

/-- The folding of tokens without gaps, from left to right. -/
inductive FoldsTo : List Located → List Located → Prop
  | nil : FoldsTo [] []
  | kept {t ts us} (ht : ∀ k arguments behind, t.token.numericKeyword? = some k →
      ¬HasUnsigned k ts arguments behind) : FoldsTo ts us → FoldsTo (t :: ts) (t :: us)
  | marked {t k ts arguments behind us} (ht : t.token.numericKeyword? = some k)
      (hu : HasUnsigned k ts arguments behind) :
      FoldsTo behind us → FoldsTo (t :: ts) (⟨unsignedWord k, t.place⟩ :: arguments ++ us)

namespace Located

variable {k : Keyword} {ts front arguments behind : List Located}

theorem splitGroup?_of_closed {c : Located} (hfront : ∀ t ∈ front, t.token ≠ .symbol .rightParen)
    (hc : c.token = .symbol .rightParen) (behind : List Located) :
    splitGroup? (front ++ c :: behind) = some (front ++ [c], behind) := by
  induction front with
  | nil => simp [splitGroup?, hc]
  | cons t front ih =>
    obtain ⟨ht, hfront⟩ := List.forall_mem_cons.1 hfront
    rw [List.cons_append, splitGroup?, if_neg ht, ih hfront]
    rfl

/-- A group is closed by its last token, and by no other one. -/
theorem splitGroup?_closed {group : List Located} (h : splitGroup? ts = some (group, behind)) :
    ∃ front c, group = front ++ [c] ∧ c.token = .symbol .rightParen ∧
      ∀ t ∈ front, t.token ≠ .symbol .rightParen := by
  induction ts generalizing group with
  | nil => exact nomatch h
  | cons t ts ih =>
    rw [splitGroup?] at h
    split at h
    · next ht =>
      obtain ⟨rfl, -⟩ := Prod.mk.inj (Option.some.inj h)
      exact ⟨[], t, rfl, ht, List.forall_mem_nil _⟩
    · next ht =>
      obtain ⟨⟨inner, rest⟩, hinner, he⟩ := Option.map_eq_some_iff.1 h
      obtain ⟨rfl, rfl⟩ := Prod.mk.inj he
      obtain ⟨front, c, rfl, hc, hfront⟩ := ih hinner
      exact ⟨t :: front, c, rfl, hc, List.forall_mem_cons.2 ⟨ht, hfront⟩⟩

theorem splitArguments?_of_arguments {u : Located} (h : Gapless (arguments ++ u :: behind))
    (harguments : ArgumentGroup arguments) (hu : u.token.is .UNSIGNED = true) :
    splitArguments? (arguments ++ u :: behind) = some (arguments, u :: behind) := by
  cases harguments with
  | none =>
    refine splitArguments?_of_none fun hparen => ?_
    simp [hparen, Token.is] at hu
  | @closed o inner c ho hinner hc =>
    have hfront : ∀ t ∈ o :: inner, t.token ≠ .symbol .rightParen :=
      List.forall_mem_cons.2 ⟨by simp [ho], hinner⟩
    have hsplit := splitGroup?_of_closed hfront hc (u :: behind)
    simp only [List.cons_append, List.append_assoc, List.nil_append] at h hsplit ⊢
    rw [splitArguments?_of_group h ho, hsplit]

theorem group_of_splitArguments? (h : Gapless ts)
    (hsplit : splitArguments? ts = some (arguments, behind)) : ArgumentGroup arguments := by
  cases ts with
  | nil =>
    obtain ⟨rfl, -⟩ := Prod.mk.inj (Option.some.inj hsplit)
    exact .none
  | cons t ts =>
    by_cases ht : t.token = .symbol .leftParen
    · rw [splitArguments?_of_group h ht, splitGroup?, if_neg (by simp [ht])] at hsplit
      obtain ⟨⟨group, rest⟩, hgroup, he⟩ := Option.map_eq_some_iff.1 hsplit
      obtain ⟨rfl, rfl⟩ := Prod.mk.inj he
      obtain ⟨inner, c, rfl, hc, hinner⟩ := splitGroup?_closed hgroup
      exact .closed ht hinner hc
    · rw [splitArguments?_of_none ht] at hsplit
      obtain ⟨rfl, -⟩ := Prod.mk.inj (Option.some.inj hsplit)
      exact .none

theorem takeUnsigned?_eq_some {between rest : List Located} :
    takeUnsigned? (between, rest) = some (arguments, behind) ↔
      between = arguments ∧ ∃ u, u.token.is .UNSIGNED = true ∧ rest = u :: behind := by
  cases rest with
  | nil => simp [takeUnsigned?]
  | cons u rest => by_cases hu : u.token.is .UNSIGNED = true <;> simp [takeUnsigned?, hu]

theorem behindPrecision_of_arguments {u : Located} (harguments : ArgumentGroup arguments)
    (hu : u.token.is .UNSIGNED = true) :
    behindPrecision k (arguments ++ u :: behind) = arguments ++ u :: behind := by
  cases harguments with
  | none =>
    have hprecision : u.token.is .PRECISION = false := Token.is_of_name_ne hu (by decide)
    simp [behindPrecision, hprecision]
  | closed ho _ _ => exact behindPrecision_of_symbol ho

/-- Without gaps, the tokens up to an `UNSIGNED` are found exactly if a type has one. -/
theorem splitUnsigned?_iff (h : Gapless ts) :
    splitUnsigned? k ts = some (arguments, behind) ↔ HasUnsigned k ts arguments behind := by
  rw [splitUnsigned?_of_gapless h]
  constructor
  · intro hsplit
    obtain ⟨⟨between, rest⟩, harguments, htake⟩ := Option.bind_eq_some_iff.1 hsplit
    obtain ⟨rfl, u, hu, rfl⟩ := takeUnsigned?_eq_some.1 htake
    have hgapless := gapless_behindPrecision (k := k) h
    have hgroup := group_of_splitArguments? hgapless harguments
    have happend := splitArguments?_append_eq hgapless harguments
    cases ts with
    | nil => simp [behindPrecision] at happend
    | cons t ts =>
      rw [behindPrecision] at happend
      split at happend
      · next ht =>
        simp only [Bool.and_eq_true, decide_eq_true_eq] at ht
        obtain ⟨rfl, ht⟩ := ht
        exact happend ▸ .precision ht hgroup hu behind
      · exact happend ▸ .plain hgroup hu behind
  · rintro (⟨hgroup, hu, behind⟩ | ⟨hp, hgroup, hu, behind⟩)
    · rw [behindPrecision_of_arguments hgroup hu, splitArguments?_of_arguments h hgroup hu]
      exact takeUnsigned?_eq_some.2 ⟨rfl, _, hu, rfl⟩
    · rw [behindPrecision, if_pos (by simp [hp]), splitArguments?_of_arguments h.tail hgroup hu]
      exact takeUnsigned?_eq_some.2 ⟨rfl, _, hu, rfl⟩

end Located

/-- The three rules have one outcome, and the folding comes to it. -/
theorem foldsTo_iff {ts us : List Located} (h : Gapless ts) :
    FoldsTo ts us ↔ us = foldUnsigned ts := by
  constructor
  · intro hfolds
    induction hfolds with
    | nil => exact foldUnsigned_nil.symm
    | @kept t ts us ht _ ih =>
      cases hk : t.token.numericKeyword? with
      | none => rw [foldUnsigned_other hk, ih h.tail]
      | some k =>
        have hsplit : Located.splitUnsigned? k ts = none := by
          refine Option.eq_none_iff_forall_ne_some.2 fun split hsplit => ?_
          exact ht k _ _ hk ((Located.splitUnsigned?_iff h.tail).1 hsplit)
        rw [foldUnsigned_signed hk hsplit, ih h.tail]
    | @marked t k ts arguments behind us ht hu _ ih =>
      have hsplit := (Located.splitUnsigned?_iff h.tail).2 hu
      have hbehind := Located.splitUnsigned?_suffix h.tail hsplit
      rw [foldUnsigned_unsigned ht hsplit, ih fun u hmem => h.tail u (hbehind.subset hmem)]
  · rintro rfl
    fun_induction foldUnsigned ts with
    | case1 => exact .nil
    | case2 t rest ht ih =>
      refine .kept (fun k arguments behind hk => ?_) (ih h.tail)
      cases ht.symm.trans hk
    | case3 t rest k ht hsplit ih =>
      refine .kept (fun k' arguments behind hk hunsigned => ?_) (ih h.tail)
      obtain rfl := Option.some.inj (ht.symm.trans hk)
      cases hsplit.symm.trans ((Located.splitUnsigned?_iff h.tail).2 hunsigned)
    | case4 t rest k ht between behind hsplit ih =>
      have hbehind := Located.splitUnsigned?_suffix h.tail hsplit
      exact .marked ht ((Located.splitUnsigned?_iff h.tail).1 hsplit)
        (ih fun u hmem => h.tail u (hbehind.subset hmem))

namespace Edit

variable {edits : List Edit}

/-- A gap is neither marked nor dropped, and no gap comes of another token. -/
theorem Folding.filter_result? (h : Folding edits) {e : Edit} (he : e ∈ edits) :
    e.result?.filter Located.isGap = (some e.source).filter Located.isGap := by
  cases e with
  | kept t => rfl
  | marked t k =>
    have ht : t.isGap = false :=
      Token.isGap_of_is (Token.numericKeyword?_eq_some (h.marked_word he)).2
    have hword : (⟨unsignedWord k, t.place⟩ : Located).isGap = false := rfl
    exact (Option.filter_some_neg hword).trans (Option.filter_some_neg ht).symm
  | dropped t =>
    obtain ⟨before, behind, hedits⟩ := List.append_of_mem he
    have ht : t.isGap = false := by
      rcases h.drops hedits with hunsigned | ⟨hprecision, -⟩
      · exact Token.isGap_of_is hunsigned
      · exact Token.isGap_of_is hprecision
    exact (Option.filter_some_neg ht).symm

end Edit

/-- The folding keeps all gaps, in their order and at their places. -/
theorem gaps_foldUnsigned (ts : List Located) :
    (foldUnsigned ts).filter Located.isGap = ts.filter Located.isGap := by
  obtain ⟨edits, hfolding, rfl, hresult⟩ := exists_folding ts
  calc (foldUnsigned (edits.map Edit.source)).filter Located.isGap
      = (edits.filterMap Edit.result?).filter Located.isGap := by rw [hresult]
    _ = edits.filterMap fun e => e.result?.filter Located.isGap := List.filter_filterMap
    _ = edits.filterMap fun e => (some e.source).filter Located.isGap :=
        List.filterMap_congr fun _ he => hfolding.filter_result? he
    _ = (edits.filterMap fun e => some e.source).filter Located.isGap :=
        List.filter_filterMap.symm
    _ = (edits.map Edit.source).filter Located.isGap := by rw [List.filterMap_eq_map']

/-- Gaps may be taken out before or after the folding, which keeps them all; between them it goes by
rules that know of no gaps. So however the same tokens are laid out, they are folded to the same
tokens. -/
theorem foldUnsigned_layout (ts : List Located) :
    significant (foldUnsigned ts) = foldUnsigned (significant ts) ∧
      (∀ us, FoldsTo (significant ts) us ↔ us = significant (foldUnsigned ts)) ∧
      (foldUnsigned ts).filter Located.isGap = ts.filter Located.isGap ∧
      ∀ others : List Located,
        (significant others).map Located.token = (significant ts).map Located.token →
          (significant (foldUnsigned others)).map Located.token =
            (significant (foldUnsigned ts)).map Located.token := by
  refine ⟨foldUnsigned_significant ts, fun us => ?_, gaps_foldUnsigned ts, fun others h => ?_⟩
  · rw [foldUnsigned_significant]
    exact foldsTo_iff (gapless_significant ts)
  · rw [foldUnsigned_significant, foldUnsigned_significant]
    exact foldUnsigned_tokens h

/-- A type of two words with a comment, blanks and a line break in it, and on one line without
them. -/
theorem foldUnsigned_layout_spread :
    let word (name : String) : Token := .word ⟨name, false⟩
    let blank : Token := .gap [' ']
    let comment : Token := .gap "-- wide\n".toList
    let size : List Token := [.symbol .leftParen, .number ['8'] false, .symbol .rightParen]
    let onLine (line : Nat) (ts : List Token) : List Located :=
      ts.mapIdx fun column token => ⟨token, ⟨line, column + 1⟩⟩
    let spread : List Located := onLine 1 [word "double", comment] ++
      onLine 2 ([word "Precision", blank] ++ size ++ [comment]) ++
      onLine 3 [blank, word "unsigned", comment]
    let plain : List Located :=
      onLine 1 ([word "double", word "Precision"] ++ size ++ [word "unsigned"])
    (significant plain).map Located.token = (significant spread).map Located.token ∧
      (significant (foldUnsigned plain)).map Located.token = word "UNSIGNED_DOUBLE" :: size ∧
      (significant (foldUnsigned spread)).map Located.token = word "UNSIGNED_DOUBLE" :: size := by
  intro word blank comment size onLine spread plain
  have hplain : (significant (foldUnsigned plain)).map Located.token =
      word "UNSIGNED_DOUBLE" :: size := by
    have htype : (word "double").numericKeyword? = some .DOUBLE := rfl
    have hunsigned : Located.splitUnsigned? .DOUBLE (plain.drop 1) =
        some ((plain.drop 2).take 3, []) := rfl
    have hfold := foldUnsigned_unsigned (t := ⟨word "double", ⟨1, 1⟩⟩) htype hunsigned
    rw [foldUnsigned_nil] at hfold
    exact congrArg (fun ts => (significant ts).map Located.token) hfold
  have hlayout : (significant plain).map Located.token =
      (significant spread).map Located.token := rfl
  have hsame := (foldUnsigned_layout spread).2.2.2 plain hlayout
  exact ⟨hlayout, hplain, hsame.symm.trans hplain⟩

end SqlModels.Sql
