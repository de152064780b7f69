import SqlModels.Proofs.Sql.Statements

/-!
Two token lists that differ in the type of one column. Whatever is read before the column stops at a
comma or a semicolon, or within a few words of it, so up to there both lists are read alike.
-/

namespace SqlModels.Sql

open SqlModels.Sql.Parser

/-- The words that rules look for behind another word where a column may stand. -/
def secondWords : List Keyword :=
  [.NOT, .EXISTS, .CLUSTER, .REPLACE, .ALTER]

/-- Where the name and the type of a column stand in two lists that spell the same before that and
behind it. -/
structure Site extends Seam where
  clear : guarded
  column : Ident
  type : DataType
  type' : DataType
  behind : List Located
  behind' : List Located
  reads : typedName left = .ok (column, type) behind
  reads' : typedName right = .ok (column, type') behind'
  alike : Seam.finish.Ahead behind behind'
  second : ∀ k ∈ secondWords,
    (∀ t ∈ left[1]?, t.token.is k = false) ∧ ∀ t ∈ right[1]?, t.token.is k = false
  /-- What would be the end of modifiers is their end in both lists. -/
  modifiers : ∀ {modifiers rest'}, readModifiers right = .ok modifiers rest' →
    ∃ modifiers' rest, readModifiers left = .ok modifiers' rest ∧ Seam.finish.Ahead rest rest'

namespace Parser

theorem identifier_eq_ok {ts rest : List Located} {i : Ident} :
    identifier ts = .ok i rest ↔ ∃ t, ts = t :: rest ∧ identOf? t.token = some i := by
  constructor
  · intro h
    cases ts with
    | nil => exact nomatch h
    | cons t ts =>
      rw [identifier_cons] at h
      cases hi : identOf? t.token with
      | none => simp [hi] at h
      | some j =>
        obtain ⟨rfl, rfl⟩ := EStateM.Result.ok.inj (hi ▸ h)
        exact ⟨t, rfl, hi⟩
  · rintro ⟨t, rfl, hi⟩
    rw [identifier_cons, hi]

/-- The name of a column is one token, and its type is read behind that. -/
theorem typedName_eq_ok {ts rest : List Located} {column : Ident} {type : DataType} :
    typedName ts = .ok (column, type) rest ↔ ∃ t behind, ts = t :: behind ∧
      identOf? t.token = some column ∧ dataType behind = .ok type rest := by
  simp only [typedName, bind_eq_ok, pure_eq_ok, Prod.mk.injEq, identifier_eq_ok]
  constructor
  · rintro ⟨i, behind, ⟨t, rfl, hi⟩, type, behind', htype, ⟨rfl, rfl⟩, rfl⟩
    exact ⟨t, behind, rfl, hi, htype⟩
  · rintro ⟨t, behind, rfl, hi, htype⟩
    exact ⟨column, behind, ⟨t, rfl, hi⟩, type, rest, htype, ⟨rfl, rfl⟩, rfl⟩

end Parser

namespace Seam

variable {s : Seam} {ts' : List Located}

/-- Where the seam itself is reached. -/
theorem Ahead.eq_right (h : s.Ahead s.left ts') : ts' = s.right := by
  generalize hl : s.left = l at h
  cases h with
  | here => rfl
  | there _ _ hts =>
    have := hts.suffix.length_le
    rw [hl, List.length_cons] at this
    omega

end Seam

/-- Where something in a list of items or of statements ends: at a comma with a word behind it, or
at a semicolon. -/
inductive Ends : List Located → Prop
  | comma {t place w rest} (h : t.token = .symbol .comma) : Ends (t :: ⟨.word w, place⟩ :: rest)
  | semicolon {t rest} (h : t.token = .symbol .semicolon) : Ends (t :: rest)

namespace Site

variable {x : Site} {ts ts' : List Located}

theorem head_left (x : Site) : ∃ t rest, x.left = t :: rest ∧ ∀ y, t.token ≠ .symbol y := by
  obtain ⟨t, behind, ht, hident, -⟩ := typedName_eq_ok.1 x.reads
  exact ⟨t, behind, ht, fun y hy => by simp [hy, identOf?] at hident⟩

/-- Keywords go over the column only up to its type. -/
theorem startsWith (h : x.Ahead ts ts') {ks : List Keyword}
    (hks : ∀ k ∈ ks.tail, k ∈ secondWords) :
    Parser.startsWith ks ts = Parser.startsWith ks ts' := by
  induction h generalizing ks with
  | here =>
    obtain ⟨t, l, hl, -⟩ := x.head_left
    obtain ⟨t', r, hr, ht⟩ := (hl ▸ Seam.Ahead.here : x.Ahead (t :: l) x.right).cons
    rw [hl, hr]
    match ks with
    | [] => rfl
    | [k] => simp only [Parser.startsWith, ht]
    | k :: k₂ :: ks =>
      obtain ⟨hleft, hright⟩ := x.second k₂ (hks k₂ List.mem_cons_self)
      have hl₂ : Parser.startsWith (k₂ :: ks) l = false := by
        cases l with
        | nil => rfl
        | cons u l => simp only [Parser.startsWith, hleft u (by simp [hl]), Bool.false_and]
      have hr₂ : Parser.startsWith (k₂ :: ks) r = false := by
        cases r with
        | nil => rfl
        | cons u r => simp only [Parser.startsWith, hright u (by simp [hr]), Bool.false_and]
      rw [Parser.startsWith, Parser.startsWith, hl₂, hr₂, Bool.and_false, Bool.and_false]
  | there h _ _ ih =>
    cases ks with
    | nil => rfl
    | cons k ks =>
      have htail : ∀ k ∈ ks.tail, k ∈ secondWords := fun k hk => hks k (List.mem_of_mem_tail hk)
      rw [Parser.startsWith, Parser.startsWith, h, ih htail]

/-- Keywords that rules look for where a column may stand. -/
theorem keywords? {ks : List Keyword} (hks : ∀ k ∈ ks.tail, k ∈ secondWords) :
    Follows x.toSeam (Parser.keywords? ks) (Parser.keywords? ks) :=
  .of_drop fun hts => startsWith hts hks

/-- Modifiers end alike in both lists, be it before the column or behind its type. -/
theorem readModifiers_over (hts : x.Ahead ts ts') {modifiers : List Text} {rest' : List Located}
    (h : readModifiers ts' = .ok modifiers rest') :
    ∃ modifiers' rest, readModifiers ts = .ok modifiers' rest ∧ Seam.Later rest rest' := by
  induction hts generalizing modifiers with
  | here =>
    obtain ⟨modifiers', rest, h', hrest⟩ := x.modifiers h
    exact ⟨modifiers', rest, h', .finish hrest⟩
  | @there t t' ts ts' ht _ hts ih =>
    have hlater : Seam.Later ts ts' := ⟨x.toSeam, fun u hu y => by
      obtain ⟨t₀, rest, hleft, ht₀⟩ := x.head_left
      rw [hleft] at hu
      exact Option.some.inj hu ▸ ht₀ y, hts⟩
    simp only [readModifiers, ht] at h ⊢
    split at h
    · next hparen =>
      obtain ⟨rfl, rfl⟩ := EStateM.Result.ok.inj h
      exact ⟨[], ts, by rw [if_pos hparen], hlater⟩
    · next hparen =>
      rw [if_neg hparen]
      split at h
      · next hcomma =>
        rw [if_pos hcomma]
        exact ih h
      · next hcomma =>
        rw [if_neg hcomma]
        cases hm : modifierOf? t'.token with
        | none => simp [hm] at h
        | some m =>
          simp only [hm] at h ⊢
          cases hr : readModifiers ts' with
          | error fault behind => simp [hr] at h
          | ok modifiers₁ behind =>
            simp only [hr] at h
            obtain ⟨-, rfl⟩ := EStateM.Result.ok.inj h
            obtain ⟨modifiers₂, rest, h', hrest⟩ := ih hr
            exact ⟨m :: modifiers₂, rest, by rw [h'], hrest⟩

section Cut

variable {us us' : List Located} (h : x.Ahead us us')

include h in
theorem ends_tail (hus : Ends us) : ∃ t t' rest rest', us = t :: rest ∧ us' = t' :: rest' ∧
    t.token = t'.token ∧ x.Ahead rest rest' := by
  obtain ⟨t₀, rest, hleft, ht₀⟩ := x.head_left
  cases h with
  | here =>
    rw [hleft] at hus
    cases hus with
    | comma ht => exact absurd ht (ht₀ _)
    | semicolon ht => exact absurd ht (ht₀ _)
  | there ht _ htail => exact ⟨_, _, _, _, rfl, rfl, ht, htail⟩

theorem closed_cut (hus : Ends us) : (Seam.cut h).Closed where
  stops t ht := by
    cases hus with
    | comma hu =>
      obtain rfl := Option.some.inj ht
      exact .inl hu
    | semicolon hu =>
      obtain rfl := Option.some.inj ht
      exact .inr hu
  second_eq := by
    obtain ⟨t, t', rest, rest', rfl, rfl, -, hrest⟩ := ends_tail h hus
    simpa only [Seam.cut, List.getElem?_cons_succ, List.head?_eq_getElem?] using hrest.head

theorem barrier_cut (hus : Ends us) : Barrier (Seam.cut h).right := by
  obtain ⟨t, t', rest, rest', rfl, rfl, ht, hrest⟩ := ends_tail h hus
  have hword : t'.token = .symbol .comma → ∀ u' us, rest' = u' :: us → ∃ w, u'.token = .word w := by
    rintro ht' u' us rfl
    cases hus with
    | comma => 
      obtain ⟨u, _, he, hu⟩ := hrest.cons
      obtain ⟨rfl, rfl⟩ := List.cons.inj he
      exact ⟨_, hu.symm⟩
    | semicolon hsemicolon => simp [← ht, hsemicolon] at ht'
  refine ⟨⟨t', rest', rfl, ?_⟩, ?_, ?_⟩
  · rw [← ht]
    cases hus with
    | comma hcomma => exact .inl hcomma
    | semicolon hsemicolon => exact .inr hsemicolon
  · intro t u us he hcomma digits long hu
    obtain ⟨rfl, rfl⟩ := List.cons.inj he
    obtain ⟨w, hw⟩ := hword hcomma u us rfl
    simp [hw] at hu
  · intro t u v us he hcomma content hu
    obtain ⟨rfl, rfl⟩ := List.cons.inj he
    obtain ⟨w, hw⟩ := hword hcomma u (v :: us) rfl
    simp [hw] at hu

theorem settled_cut (hus : Ends us) : (Seam.cut h).Settled :=
  have := closed_cut h hus
  have := barrier_cut h hus
  Seam.settled_of_modified
    (fun hts hm => .inr (readModifiers_over (Seam.ahead_of_cut hts) hm)) x.clear

end Cut

/-- What ends before the column is read alike in both lists. -/
theorem before {α : Type} {p : Parser α} {a : α} {us : List Located}
    (hp : ∀ (s : Seam) [s.Closed] [s.Settled], Follows s p p) (hts : x.Ahead ts ts')
    (h : p ts = .ok a us) (hleft : x.left <:+ us) (hus : Ends us) :
    ∃ us', p ts' = .ok a us' ∧ x.Ahead us us' := by
  have htakes : us <:+ ts := (hp .finish).takes h
  obtain ⟨us', hus', hts⟩ := Seam.Ahead.split hts htakes hleft
  have := closed_cut hus' hus
  have := settled_cut hus' hus
  obtain ⟨rest', h', hrest⟩ := (hp (Seam.cut hus')).follows hts h List.suffix_rfl
  exact ⟨rest', h', Seam.ahead_of_cut hrest⟩

end Site

end SqlModels.Sql
