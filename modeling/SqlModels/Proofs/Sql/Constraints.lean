import SqlModels.Proofs.Sql.Crossing

/-!
Where a constraint of a table stands. One token tells: without a word of a constraint in front none
is read, and nothing is taken.
-/

namespace SqlModels.Sql

/-- The words that start a constraint of a table. -/
def constraintWords : List Keyword :=
  [.CONSTRAINT, .PRIMARY, .UNIQUE, .FOREIGN, .CHECK, .INDEX, .KEY, .FULLTEXT, .SPATIAL]

/-- Whether a constraint starts with a token. -/
def Token.startsConstraint (t : Token) : Bool :=
  constraintWords.any t.is

namespace Parser

variable {α β : Type} {ts rest : List Located} {k : Keyword} {ks : List Keyword}

theorem keyword?_pos {t : Located} (h : t.token.is k = true) (ts : List Located) :
    keyword? k (t :: ts) = .ok true ts := by
  simp [keyword?, keywords?, startsWith, h]

theorem keyword?_neg (h : ∀ t ∈ ts.head?, t.token.is k = false) :
    keyword? k ts = .ok false ts := by
  cases ts with
  | nil => rfl
  | cons t ts => simp [keyword?, keywords?, startsWith, h t rfl]

theorem keyword?_refuses (h : keyword? k ts = .ok false rest) :
    rest = ts ∧ ∀ t ∈ ts.head?, t.token.is k = false := by
  refine ⟨keyword?_false h, fun t ht => ?_⟩
  obtain ⟨us, rfl⟩ := List.head?_eq_some_iff.1 ht
  rw [← Bool.not_eq_true]
  intro hk
  rw [keyword?_pos hk] at h
  exact nomatch h

theorem anyKeyword?_cons (t : Located) (ts : List Located) : anyKeyword? ks (t :: ts) =
    if ks.any t.token.is then .ok true ts else .ok false (t :: ts) := by
  simp only [anyKeyword?, bind, EStateM.bind, keywordIn?, List.head?_cons, Option.bind_some,
    List.tail_cons]
  cases h : ks.find? t.token.is with
  | none =>
    have hnone : ks.any t.token.is = false := by simpa using List.find?_eq_none.1 h
    rw [if_neg (by simp [hnone])]
    rfl
  | some k =>
    have hany : ks.any t.token.is = true :=
      List.any_eq_true.2 ⟨k, List.mem_of_find?_eq_some h, List.find?_some h⟩
    rw [if_pos hany]
    rfl

theorem anyKeyword?_neg (h : ∀ t ∈ ts.head?, ks.any t.token.is = false) :
    anyKeyword? ks ts = .ok false ts := by
  cases ts with
  | nil => rfl
  | cons t ts => rw [anyKeyword?_cons, h t rfl, if_neg Bool.false_ne_true]

theorem anyKeyword?_refuses (h : anyKeyword? ks ts = .ok false rest) :
    rest = ts ∧ ∀ t ∈ ts.head?, ks.any t.token.is = false := by
  cases ts with
  | nil => exact ⟨(EStateM.Result.ok.inj h).2.symm, nofun⟩
  | cons t ts =>
    rw [anyKeyword?_cons] at h
    split at h
    · exact nomatch h
    · next hany => exact ⟨(EStateM.Result.ok.inj h).2.symm, by simpa using hany⟩

/-- A rule that never comes out empty. -/
class Gives (p : Parser (Option α)) : Prop where
  gives : ∀ ts rest, p ts ≠ .ok none rest

instance (a : α) : Gives (pure (some a)) := ⟨fun _ _ h => nomatch h⟩

instance (wanted : Expectation) (found : Option Located) :
    Gives (unexpected wanted found : Parser (Option α)) := ⟨fun _ _ h => nomatch h⟩

theorem Gives.bind {p : Parser β} {f : β → Parser (Option α)} (hf : ∀ b, Gives (f b)) :
    Gives (p >>= f) where
  gives ts rest h := by
    obtain ⟨b, behind, -, h⟩ := bind_eq_ok.1 h
    exact (hf b).gives behind rest h

instance {p : Parser β} {f : β → Parser (Option α)} [hf : ∀ b, Gives (f b)] : Gives (p >>= f) :=
  .bind hf

theorem Gives.ite {c : Prop} [Decidable c] {p q : Parser (Option α)} (hp : Gives p)
    (hq : Gives q) : Gives (if c then p else q) := by
  split
  · exact hp
  · exact hq

/-- Of two rules the second one comes out empty, where the first one is refused. -/
theorem else_of_none {c : Parser Bool} {p q : Parser (Option α)} [hp : Gives p]
    (hc : ∀ {behind}, c ts = .ok false behind → behind = ts)
    (h : (c >>= fun found => if found = true then p else q) ts = .ok none rest) :
    c ts = .ok false ts ∧ q ts = .ok none rest := by
  obtain ⟨found, behind, hfound, hrest⟩ := bind_eq_ok.1 h
  cases found with
  | true => exact absurd hrest (hp.gives behind rest)
  | false =>
    obtain rfl := hc hfound
    exact ⟨hfound, hrest⟩

theorem tableConstraint?_neg (h : ∀ t ∈ ts.head?, t.token.startsConstraint = false) :
    tableConstraint? ts = .ok none ts := by
  have hk (k : Keyword) (hk : k ∈ constraintWords) : keyword? k ts = .ok false ts :=
    keyword?_neg fun t ht => by simpa using List.any_eq_false.1 (h t ht) k hk
  have hks (ks : List Keyword) (hks : ks ⊆ constraintWords) : anyKeyword? ks ts = .ok false ts :=
    anyKeyword?_neg fun t ht => List.any_eq_false.2 fun k hk =>
      List.any_eq_false.1 (h t ht) k (hks hk)
  simp [tableConstraint?, bind, EStateM.bind, pure, EStateM.pure, peek,
    hk .CONSTRAINT (by decide), hk .PRIMARY (by decide), hk .UNIQUE (by decide),
    hk .FOREIGN (by decide), hk .CHECK (by decide), hks [.INDEX, .KEY] (by decide),
    hks [.FULLTEXT, .SPATIAL] (by decide)]

/-- Without a constraint nothing is taken, and no word of one stands in front. -/
theorem tableConstraint?_none (h : tableConstraint? ts = .ok none rest) :
    rest = ts ∧ ∀ t ∈ ts.head?, t.token.startsConstraint = false := by
  have hk {k : Keyword} {behind : List Located} (h : keyword? k ts = .ok false behind) :
      behind = ts := (keyword?_refuses h).1
  have hks {ks : List Keyword} {behind : List Located} (h : anyKeyword? ks ts = .ok false behind) :
      behind = ts := (anyKeyword?_refuses h).1
  have hall : ∀ t ∈ ts.head?, t.token.startsConstraint = false := by
    unfold tableConstraint? at h
    extract_lets constraint at h
    have hlabelled (label : Ident) : Gives (constraint (some label)) := by
      dsimp only [constraint]
      simp only [Option.isSome_some, if_true]
      iterate 5 refine .bind fun _ => .ite inferInstance ?_
      refine .bind fun found => .bind fun _ => .ite ?_ inferInstance
      cases found <;> infer_instance
    have : Gives (some <$> identifier >>= constraint) := by
      rw [bind_map_left]
      infer_instance
    obtain ⟨hlabel, h⟩ := else_of_none hk h
    obtain ⟨hprimary, h⟩ := else_of_none hk h
    obtain ⟨hunique, h⟩ := else_of_none hk h
    obtain ⟨hforeign, h⟩ := else_of_none hk h
    obtain ⟨hcheck, h⟩ := else_of_none hk h
    obtain ⟨hindex, h⟩ := else_of_none hks h
    obtain ⟨found, behind, hfound, h⟩ := bind_eq_ok.1 h
    obtain ⟨rfl, rfl⟩ := EStateM.Result.ok.inj hfound
    dsimp only at h
    obtain ⟨hfulltext, -⟩ := else_of_none hks h
    intro t ht
    have hword {k : Keyword} (hk : keyword? k ts = .ok false ts) : t.token.is k = false :=
      (keyword?_refuses hk).2 t ht
    have hwords {ks : List Keyword} (hks : anyKeyword? ks ts = .ok false ts) :
        ks.any t.token.is = false := (anyKeyword?_refuses hks).2 t ht
    have hindex := hwords hindex
    have hfulltext := hwords hfulltext
    simp only [List.any_cons, List.any_nil, Bool.or_false, Bool.or_eq_false_iff] at hindex hfulltext
    simp [Token.startsConstraint, constraintWords, hword hlabel, hword hprimary, hword hunique,
      hword hforeign, hword hcheck, hindex, hfulltext]
  rw [tableConstraint?_neg hall] at h
  exact ⟨(EStateM.Result.ok.inj h).2.symm, hall⟩

end Parser

end SqlModels.Sql
