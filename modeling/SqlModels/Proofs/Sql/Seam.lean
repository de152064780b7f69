import Mathlib.Data.List.Infix
import SqlModels.Sql.Parser.Expr

/-! Two token lists that spell the same up to a seam. -/

namespace SqlModels.Sql

open SqlModels.Sql.Parser

/-- The ways to read the inside of expressions and queries in a statement. -/
inductive Inner.Level : Inner → Prop
  | expression (count levels : Nat) : Level (.within (exprUpTo count) levels)
  | statement (levels : Nat) :
      Level (.within (fun levels reach => do exprUpTo ((← remaining) + 1) levels reach) levels)

/-- That behind an opening parenthesis a query is tried in vain and joined tables are read, but the
query would be read if others than these tokens stood behind the joined tables. -/
def Ambiguous (ts : List Located) : Prop :=
  ∃ inner depth e inside rest others, Inner.Level inner ∧ ts = inside ++ rest ∧
    attempt (derivedTable inner) ts = .ok none ts ∧
      nestedJoin (tablesUpTo inner depth) ts = .ok e rest ∧
        attempt (derivedTable inner) (inside ++ others) ≠ .ok none (inside ++ others)

/-- That no parentheses in front of a list are ambiguous. -/
def Unambiguous (front behind : List Located) : Prop :=
  ∀ t us, t :: us <:+ front → t.token = .symbol .leftParen → ¬Ambiguous (us ++ behind)

/-- Where two token lists stop to spell the same. -/
structure Seam where
  left : List Located
  right : List Located
  /-- Whether no parentheses in front of the seam are ambiguous. -/
  guarded : Prop
  /-- As many rounds of a loop are left on either side. -/
  count_eq : (left.countP fun t => !t.token.is .PRECISION) =
    right.countP fun t => !t.token.is .PRECISION
  head_eq : left.head?.map Located.token = right.head?.map Located.token

namespace Seam

variable {s : Seam} {ts ts' us us' : List Located}

/-- Two token lists that spell the same up to the seam. -/
inductive Ahead (s : Seam) : List Located → List Located → Prop
  | here : Ahead s s.left s.right
  | there {t t' ts ts'} (h : t.token = t'.token)
      (hclear : s.guarded → t.token = .symbol .leftParen → ¬Ambiguous ts) (hts : Ahead s ts ts') :
      Ahead s (t :: ts) (t' :: ts')

/-- The seam with its sides exchanged. -/
def symm (s : Seam) : Seam :=
  ⟨s.right, s.left, False, s.count_eq.symm, s.head_eq.symm⟩

theorem Ahead.symm (h : s.Ahead ts ts') : s.symm.Ahead ts' ts := by
  induction h with
  | here => exact .here
  | there h _ _ ih => exact .there h.symm False.elim ih

/-- Lists of the same tokens in front of the seam. -/
theorem Ahead.of_tokens {front front' : List Located}
    (hclear : s.guarded → Unambiguous front s.left)
    (htokens : front.map Located.token = front'.map Located.token) :
    s.Ahead (front ++ s.left) (front' ++ s.right) := by
  induction front generalizing front' with
  | nil =>
    obtain rfl : front' = [] := by simpa using htokens.symm
    exact .here
  | cons t front ih =>
    cases front' with
    | nil => simp at htokens
    | cons t' front' =>
      obtain ⟨ht, hfront⟩ := List.cons.inj htokens
      refine .there ht (fun hs => hclear hs t front List.suffix_rfl)
        (ih (fun hs u us hus => ?_) hfront)
      exact hclear hs u us (hus.trans (List.suffix_cons t front))

theorem Ahead.length (h : s.Ahead ts ts') :
    ts.length + s.right.length = ts'.length + s.left.length := by
  induction h with
  | here => exact Nat.add_comm _ _
  | there _ _ _ ih => simp only [List.length_cons]; omega

theorem Ahead.suffix (h : s.Ahead ts ts') : s.left <:+ ts := by
  induction h with
  | here => exact List.suffix_rfl
  | there _ _ _ ih => exact ih.trans (List.suffix_cons _ _)

/-- Lists that spell the same with the sides exchanged do so without, as parts of lists that do. -/
theorem Ahead.of_symm (h : s.Ahead ts ts') (hus : s.symm.Ahead us' us)
    (hts : us <:+ ts) (hts' : us' <:+ ts') : s.Ahead us us' := by
  have hlength : us'.length + s.left.length = us.length + s.right.length := hus.length
  have hleft : s.left <:+ us := hus.symm.suffix
  induction h with
  | here =>
    obtain rfl := hts.eq_of_length_le hleft.length_le
    obtain rfl := hts'.eq_of_length_le hus.suffix.length_le
    exact .here
  | @there t t' ts ts' ht hclear htail ih =>
    have htails := htail.length
    rcases List.suffix_cons_iff.1 hts with rfl | hts
    · rcases List.suffix_cons_iff.1 hts' with rfl | hts'
      · exact .there ht hclear htail
      · have := hts'.length_le
        rw [List.length_cons] at hlength
        omega
    · rcases List.suffix_cons_iff.1 hts' with rfl | hts'
      · have := hts.length_le
        rw [List.length_cons] at hlength
        omega
      · exact ih hts hts'

theorem Ahead.head (h : s.Ahead ts ts') :
    ts.head?.map Located.token = ts'.head?.map Located.token := by
  cases h with
  | here => exact s.head_eq
  | there h => simp [h]

theorem Ahead.count (h : s.Ahead ts ts') :
    (ts.countP fun t => !t.token.is .PRECISION) = ts'.countP fun t => !t.token.is .PRECISION := by
  induction h with
  | here => exact s.count_eq
  | there h _ _ ih => simp only [List.countP_cons, ih, h]

theorem Ahead.remaining (h : s.Ahead ts ts') :
    remaining ts = .ok (ts'.countP fun t => !t.token.is .PRECISION) ts := by
  rw [Parser.remaining, h.count]

theorem Ahead.nil (h : s.Ahead [] ts') : ts' = [] := by
  cases ts' with
  | nil => rfl
  | cons t' ts' => simpa using h.head

theorem Ahead.cons {t : Located} (h : s.Ahead (t :: ts) ts') :
    ∃ t' ts₁, ts' = t' :: ts₁ ∧ t.token = t'.token := by
  cases ts' with
  | nil => simpa using h.head
  | cons t' ts₁ => exact ⟨t', ts₁, rfl, by simpa using h.head⟩

/-- What stands behind the first token, as long as the seam is not passed. -/
theorem Ahead.tail {t : Located} (h : s.Ahead (t :: ts) ts') (hleft : s.left <:+ ts) :
    ∃ t' ts₁, ts' = t' :: ts₁ ∧ t.token = t'.token ∧ s.Ahead ts ts₁ := by
  generalize he : t :: ts = us at h
  cases h with
  | here =>
    have := hleft.length_le
    rw [← he, List.length_cons] at this
    omega
  | there h _ hts =>
    obtain ⟨rfl, rfl⟩ := List.cons.inj he
    exact ⟨_, _, rfl, h, hts⟩

/-- Both lists stop to spell the same behind the same tokens. -/
theorem Ahead.front (h : s.Ahead ts ts') : ∃ inside inside', ts = inside ++ s.left ∧
    ts' = inside' ++ s.right ∧ inside.map Located.token = inside'.map Located.token := by
  induction h with
  | here => exact ⟨[], [], rfl, rfl, rfl⟩
  | @there t t' _ _ ht _ _ ih =>
    obtain ⟨inside, inside', rfl, rfl, hinside⟩ := ih
    exact ⟨t :: inside, t' :: inside', rfl, rfl, by simp only [List.map_cons, ht, hinside]⟩

/-- The lists from some place before the seam on. -/
def cut (h : s.Ahead us us') : Seam :=
  ⟨us, us', s.guarded, h.count, h.head⟩

theorem ahead_of_cut {h : s.Ahead us us'} (hts : (cut h).Ahead ts ts') : s.Ahead ts ts' := by
  induction hts with
  | here => exact h
  | there h hclear _ ih => exact .there h hclear ih

theorem Ahead.split (hts : s.Ahead ts ts') (hus : us <:+ ts) (hleft : s.left <:+ us) :
    ∃ us', ∃ h : s.Ahead us us', (cut h).Ahead ts ts' := by
  induction hts with
  | here =>
    obtain rfl := hus.eq_of_length_le hleft.length_le
    exact ⟨_, .here, .here (s := cut _)⟩
  | there h hclear hts ih =>
    rcases List.suffix_cons_iff.1 hus with rfl | hus
    · exact ⟨_, .there h hclear hts, .here (s := cut _)⟩
    · obtain ⟨us', hus', h'⟩ := ih hus
      exact ⟨us', hus', .there h hclear h'⟩

/-- A seam at a comma or a semicolon, where no expression goes on, or at the end. -/
class Closed (s : Seam) : Prop where
  stops : ∀ t ∈ s.left.head?, t.token = .symbol .comma ∨ t.token = .symbol .semicolon
  second_eq : (s.left[1]?).map Located.token = (s.right[1]?).map Located.token

instance [hs : s.Closed] : s.symm.Closed where
  stops t ht := by
    have hhead := s.head_eq
    rw [show s.right.head? = some t from ht] at hhead
    obtain ⟨u, hu, hut⟩ := Option.map_eq_some_iff.1 hhead
    exact hut ▸ hs.stops u hu
  second_eq := hs.second_eq.symm

/-- At a closed seam both lists end, or a comma or a semicolon stands in both. -/
theorem closed_cases (s : Seam) [hs : s.Closed] : (s.left = [] ∧ s.right = []) ∨
    ∃ t ts t' ts', s.left = t :: ts ∧ s.right = t' :: ts' ∧ t.token = t'.token ∧
      (t.token = .symbol .comma ∨ t.token = .symbol .semicolon) := by
  have h : s.Ahead s.left s.right := .here
  cases hl : s.left with
  | nil => exact .inl ⟨rfl, (hl ▸ h).nil⟩
  | cons t ts =>
    obtain ⟨t', ts', hr, ht⟩ := (hl ▸ h).cons
    exact .inr ⟨t, ts, t', ts', rfl, hr, ht, hs.stops t (by rw [hl]; rfl)⟩

/-- The seam behind all tokens: two lists that spell the same all along. -/
def finish : Seam :=
  ⟨[], [], False, rfl, rfl⟩

instance : finish.Closed := ⟨by simp [finish], rfl⟩

theorem Ahead.of_same (htokens : ts.map Located.token = ts'.map Located.token) :
    finish.Ahead ts ts' := by
  have hnil : finish.left = [] ∧ finish.right = [] := ⟨rfl, rfl⟩
  simpa only [hnil, List.append_nil] using Ahead.of_tokens (s := finish) False.elim htokens

theorem Ahead.second [hs : s.Closed] (h : s.Ahead ts ts') :
    (ts[1]?).map Located.token = (ts'[1]?).map Located.token := by
  cases h with
  | here => exact hs.second_eq
  | there _ _ h => simpa only [List.getElem?_cons_succ, List.head?_eq_getElem?] using h.head

/-- Behind a token at which no seam is closed. -/
theorem Ahead.pass [hs : s.Closed] {t : Located} (h : s.Ahead (t :: ts) ts')
    (ht : t.token ≠ .symbol .comma ∧ t.token ≠ .symbol .semicolon) :
    ∃ t' ts₁, ts' = t' :: ts₁ ∧ t.token = t'.token ∧ s.Ahead ts ts₁ := by
  generalize he : t :: ts = us at h
  cases h with
  | here => exact absurd (hs.stops t (by simp [← he])) (by simp [ht])
  | there h _ hts =>
    obtain ⟨rfl, rfl⟩ := List.cons.inj he
    exact ⟨_, _, rfl, h, hts⟩

/-- Behind some tokens that are taken before the seam. -/
theorem Ahead.drop {n : Nat} (h : s.Ahead ts ts') (hleft : s.left <:+ ts.drop n) :
    s.Ahead (ts.drop n) (ts'.drop n) := by
  induction n generalizing ts ts' with
  | zero => exact h
  | succ n ih =>
    cases ts with
    | nil =>
      obtain rfl := h.nil
      exact h
    | cons t ts =>
      obtain ⟨t', ts', rfl, -, htail⟩ := h.tail (hleft.trans (ts.drop_suffix n))
      exact ih htail hleft

theorem Ahead.startsWith_single (h : s.Ahead ts ts') (k : Keyword) :
    startsWith [k] ts = startsWith [k] ts' := by
  cases ts with
  | nil => rw [h.nil]
  | cons t ts =>
    obtain ⟨t', ts₁, rfl, ht⟩ := h.cons
    simp only [startsWith, ht]

/-- No keywords go over a closed seam. -/
theorem Ahead.startsWith [s.Closed] (h : s.Ahead ts ts') (ks : List Keyword) :
    startsWith ks ts = startsWith ks ts' := by
  induction h generalizing ks with
  | here =>
    rcases closed_cases s with ⟨hl, hr⟩ | ⟨t, ts, t', ts', hl, hr, ht, hstop⟩
    · rw [hl, hr]
    · have hword (k : Keyword) : t.token.is k = false := by
        rcases hstop with h | h <;> rw [h] <;> rfl
      cases ks with
      | nil => rfl
      | cons k ks => simp only [hl, hr, Parser.startsWith, ← ht, hword, Bool.false_and]
  | there h _ _ ih =>
    cases ks with
    | nil => rfl
    | cons k ks => simp only [Parser.startsWith, h, ih]

end Seam

end SqlModels.Sql
