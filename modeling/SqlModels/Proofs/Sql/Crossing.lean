import SqlModels.Proofs.Sql.Site

/-!
What the statements of a text are as a function of the type of one column. A run that reads the name
and the type of a column at a site gives the same for every type but for the type itself, and reads
the other list of the site with the other type.
-/

namespace SqlModels.Sql

open SqlModels.Sql.Parser

variable {α β γ : Type}

/-- That a run reads names and types only where a list has a property. -/
def Relies (q : Parser (Ident × DataType) → Parser α) (ts : List Located) (a : α)
    (rest : List Located) (at' : List Located → Prop) : Prop :=
  ∀ typed, (∀ us, us <:+ ts → rest <:+ us → at' us → typed us = typedName us) →
    q typed ts = .ok a rest

/-- A run that reads the name and the type of the column at a site. -/
structure Crossing (x : Site) (Hole : (DataType → α) → List Located → Prop)
    (q : Parser (Ident × DataType) → Parser α) (ts : List Located) (a : α)
    (rest : List Located) : Prop where
  starts : x.left <:+ ts
  ends : rest <:+ x.behind
  relies : Relies q ts a rest fun us => x.left <:+ us ∨ us <:+ x.behind
  hole : ∃ S, Hole S rest ∧
    (∀ typed σ, (∀ us, us <:+ ts → rest <:+ us → us ≠ x.left → typed us = typedName us) →
      typed x.left = .ok (x.column, σ) x.behind → q typed ts = .ok (S σ) rest) ∧
    ∀ ts', x.Ahead ts ts' →
      ∃ rest', q typedName ts' = .ok (S x.type') rest' ∧ Seam.finish.Ahead rest rest'

/-- That every run of a parser either has nothing to do with the site or crosses it. -/
structure Crosses (x : Site) (Hole : (DataType → α) → List Located → Prop)
    (q : Parser (Ident × DataType) → Parser α) : Prop where
  takes : ∀ {ts a rest}, q typedName ts = .ok a rest → rest <:+ ts
  crosses : ∀ {ts a rest}, q typedName ts = .ok a rest →
    Relies q ts a rest (· ≠ x.left) ∨ Crossing x Hole q ts a rest

theorem Relies.mono {q : Parser (Ident × DataType) → Parser α} {ts rest : List Located} {a : α}
    {at₁ at₂ : List Located → Prop} (h : Relies q ts a rest at₁)
    (hat : ∀ us, us <:+ ts → rest <:+ us → at₁ us → at₂ us) : Relies q ts a rest at₂ :=
  fun typed htyped => h typed fun us hts hrest hus => htyped us hts hrest (hat us hts hrest hus)

/-- Two runs one after the other. -/
theorem Relies.bind {p : Parser (Ident × DataType) → Parser β}
    {f : β → Parser (Ident × DataType) → Parser α} {ts us rest : List Located} {b : β} {a : α}
    {at' : List Located → Prop} (hp : Relies p ts b us at') (hf : Relies (f b) us a rest at')
    (hus : us <:+ ts) (hrest : rest <:+ us) :
    Relies (fun typed => p typed >>= fun b => f b typed) ts a rest at' := by
  intro typed htyped
  have h₁ : p typed ts = .ok b us :=
    hp typed fun vs hts hvs => htyped vs hts (hrest.trans hvs)
  have h₂ : f b typed us = .ok a rest :=
    hf typed fun vs hts hvs => htyped vs (hts.trans hus) hvs
  exact bind_eq_ok.2 ⟨b, us, h₁, h₂⟩

theorem Relies.fixed {p : Parser α} {ts rest : List Located} {a : α} {at' : List Located → Prop}
    (h : p ts = .ok a rest) : Relies (fun _ => p) ts a rest at' :=
  fun _ _ => h

namespace Site

variable {x : Site}

theorem length_behind (x : Site) : x.behind.length < x.left.length := by
  obtain ⟨t, ts, hleft, -, htype⟩ := typedName_eq_ok.1 x.reads
  have := (Follows.takes (s := .finish) (q := dataType) htype).length_le
  rw [hleft, List.length_cons]
  omega

/-- Behind the column the site is not met again. -/
theorem not_left_suffix (x : Site) {us : List Located} (h : us <:+ x.behind) : ¬x.left <:+ us := by
  intro hleft
  have := h.length_le
  have := hleft.length_le
  have := x.length_behind
  omega

theorem ne_left {us : List Located} (h : us <:+ x.behind) : us ≠ x.left :=
  fun he => x.not_left_suffix h (he ▸ List.suffix_rfl)

/-- The column does not start with a symbol. -/
theorem left_suffix_of_symbol {t : Located} {us : List Located} {y : Symbol}
    (h : x.left <:+ t :: us) (ht : t.token = .symbol y) : x.left <:+ us := by
  rcases List.suffix_cons_iff.1 h with h | h
  · obtain ⟨u, rest, hleft, hu⟩ := x.head_left
    exact absurd ht ((List.cons.inj (hleft.symm.trans h)).1 ▸ hu y)
  · exact h

end Site

namespace Crossing

variable {x : Site} {Hole : (DataType → α) → List Located → Prop}
  {q : Parser (Ident × DataType) → Parser α} {ts rest : List Located} {a : α}

theorem run (h : Crossing x Hole q ts a rest) : q typedName ts = .ok a rest :=
  h.relies typedName fun _ _ _ _ => rfl

/-- A crossing takes the column at least. -/
theorem length_lt (h : Crossing x Hole q ts a rest) : rest.length < ts.length := by
  have := h.starts.length_le
  have := h.ends.length_le
  have := x.length_behind
  omega

theorem false_of_pure {b : α} (h : Crossing x Hole (fun _ => pure b) ts a rest) : False := by
  have hlength := h.length_lt
  rw [(pure_eq_ok.1 h.run).2] at hlength
  exact lt_irrefl _ hlength

end Crossing

namespace Crosses

variable {x : Site} {Hole : (DataType → α) → List Located → Prop}

/-- A parser that reads no column. -/
theorem fixed {p : Parser α} (hp : Follows .finish p p) : Crosses x Hole fun _ => p :=
  ⟨hp.takes, fun h => .inl (.fixed h)⟩

theorem typed : Crosses x (fun S rest => S = (fun σ => (x.column, σ)) ∧ rest = x.behind)
    fun typed => typed where
  takes := Follows.takes (s := .finish) (q := typedName)
  crosses {ts named rest} h := by
    have hrest := Follows.takes (s := .finish) (q := typedName) h
    by_cases hts : ts = x.left
    · subst hts
      obtain ⟨rfl, rfl⟩ := EStateM.Result.ok.inj (x.reads.symm.trans h)
      refine .inr ⟨List.suffix_rfl, List.suffix_rfl, fun typed htyped => ?_,
        fun σ => (x.column, σ), ⟨rfl, rfl⟩, fun typed σ _ h => h, fun ts' hts' => ?_⟩
      · exact (htyped _ List.suffix_rfl hrest (.inl List.suffix_rfl)).trans h
      · rw [hts'.eq_right]
        exact ⟨x.behind', x.reads', x.alike⟩
    · exact .inl fun typed htyped => (htyped _ List.suffix_rfl hrest hts).trans h

/-- What is read before the column, then a parser that may cross the site. Where it does, the second
list has to go on in the same way. -/
theorem bind {p : Parser β} {f : β → Parser (Ident × DataType) → Parser α}
    (htakes : ∀ {ts b us}, p ts = .ok b us → us <:+ ts) (hf : ∀ b, Crosses x Hole (f b))
    (hp : ∀ {ts ts' b us a rest}, x.Ahead ts ts' → p ts = .ok b us → x.left <:+ us →
      Crossing x Hole (f b) us a rest →
        ∃ b' us', p ts' = .ok b' us' ∧ x.Ahead us us' ∧ f b' = f b) :
    Crosses x Hole fun typed => p >>= fun b => f b typed where
  takes h := by
    obtain ⟨b, us, h₁, h₂⟩ := bind_eq_ok.1 h
    exact ((hf b).takes h₂).trans (htakes h₁)
  crosses {ts a rest} h := by
    obtain ⟨b, us, h₁, h₂⟩ := bind_eq_ok.1 h
    have hus := htakes h₁
    have hrest := (hf b).takes h₂
    rcases (hf b).crosses h₂ with hrelies | hcross
    · exact .inl (.bind (.fixed h₁) hrelies hus hrest)
    obtain ⟨S, hS, hσ, hright⟩ := hcross.hole
    refine .inr ⟨hcross.starts.trans hus, hcross.ends,
      .bind (.fixed h₁) hcross.relies hus hrest, S, hS, fun typed σ htyped hleft => ?_,
      fun ts' hts' => ?_⟩
    · exact bind_eq_ok.2 ⟨b, us, h₁, hσ typed σ (fun vs hvs => htyped vs (hvs.trans hus)) hleft⟩
    · obtain ⟨b', us', h₁', hus', hb⟩ := hp hts' h₁ hcross.starts hcross
      obtain ⟨rest', h₂', hrest'⟩ := hright us' hus'
      exact ⟨rest', bind_eq_ok.2 ⟨b', us', h₁', hb ▸ h₂'⟩, hrest'⟩

/-- What is read before the column in the same way from both lists. -/
theorem before {p : Parser β} {f : β → Parser (Ident × DataType) → Parser α}
    (hp : Follows x.toSeam p p) (hf : ∀ b, Crosses x Hole (f b)) :
    Crosses x Hole fun typed => p >>= fun b => f b typed :=
  bind hp.takes hf fun {_ _ b _ _ _} hts h hleft _ =>
    have ⟨us', h', hus⟩ := hp.follows hts h hleft
    ⟨b, us', h', hus, rfl⟩

/-- The next token, left in place, of which only the place may differ. -/
theorem peek {f : Option Located → Parser (Ident × DataType) → Parser α}
    (hf : ∀ found, Crosses x Hole (f found))
    (hplace : ∀ token place place', f (some ⟨token, place⟩) = f (some ⟨token, place'⟩) ∨
      ∀ ts a rest, f (some ⟨token, place⟩) typedName ts ≠ .ok a rest) :
    Crosses x Hole fun typed => Parser.peek >>= fun found => f found typed := by
  refine bind (fun h => ?_) hf fun {ts ts' b us a rest} hts h hleft hcross => ?_
  · exact (EStateM.Result.ok.inj h).2 ▸ List.suffix_rfl
  · obtain ⟨rfl, rfl⟩ := EStateM.Result.ok.inj h
    refine ⟨ts'.head?, ts', rfl, hts, ?_⟩
    cases ts with
    | nil => rw [hts.nil]
    | cons t ts =>
      obtain ⟨t', ts₁, rfl, ht⟩ := hts.cons
      obtain ⟨token, place⟩ := t
      obtain ⟨token', place'⟩ := t'
      obtain rfl : token = token' := ht
      rcases hplace token place place' with h | h
      · exact h.symm
      · exact absurd hcross.run (h _ _ _)

/-- A run depends on nothing but the names and types that it reads. -/
theorem relies {q : Parser (Ident × DataType) → Parser α} (hq : Crosses x Hole q)
    {ts rest : List Located} {a : α} (h : q typedName ts = .ok a rest) :
    Relies q ts a rest fun _ => True := by
  rcases hq.crosses h with h | h
  · exact h.mono fun _ _ _ _ => trivial
  · exact h.relies.mono fun _ _ _ _ => trivial

/-- Two parsers one after the other, of which either may cross the site. Where the second one does,
the first one has to read the second list in the same way. -/
theorem pair {Hole₂ : (DataType → β) → List Located → Prop}
    {Hole' : (DataType → γ) → List Located → Prop} {p : Parser (Ident × DataType) → Parser α}
    {g : Parser (Ident × DataType) → Parser β} {m : α → β → γ} (hp : Crosses x Hole p)
    (hg : Crosses x Hole₂ g) (hfollows : Follows .finish (g typedName) (g typedName))
    (hbefore : ∀ {ts ts' a us b rest}, x.Ahead ts ts' → p typedName ts = .ok a us →
      Crossing x Hole₂ g us b rest → ∃ us', p typedName ts' = .ok a us' ∧ x.Ahead us us')
    (hole : ∀ {S us b rest}, Hole S us → g typedName us = .ok b rest →
      Hole' (fun σ => m (S σ) b) rest)
    (hole₂ : ∀ {a S rest}, Hole₂ S rest → Hole' (fun σ => m a (S σ)) rest) :
    Crosses x Hole' fun typed => p typed >>= fun a => g typed >>= fun b => pure (m a b) where
  takes h := by
    obtain ⟨a, us, h₁, h⟩ := bind_eq_ok.1 h
    obtain ⟨b, us₁, h₂, h⟩ := bind_eq_ok.1 h
    obtain ⟨-, rfl⟩ := pure_eq_ok.1 h
    exact (hg.takes h₂).trans (hp.takes h₁)
  crosses {ts c rest} h := by
    obtain ⟨a, us, h₁, h⟩ := bind_eq_ok.1 h
    obtain ⟨b, us₁, h₂, h⟩ := bind_eq_ok.1 h
    obtain ⟨rfl, rfl⟩ := pure_eq_ok.1 h
    have hus := hp.takes h₁
    have hrest := hg.takes h₂
    have hrelies {at' : List Located → Prop} (h₁ : Relies p ts a us at')
        (h₂ : Relies g us b us₁ at') :
        Relies (fun typed => p typed >>= fun a => g typed >>= fun b => pure (m a b)) ts
          (m a b) us₁ at' :=
      h₁.bind (f := fun a typed => g typed >>= fun b => pure (m a b))
        (h₂.bind (f := fun b _ => pure (m a b)) (.fixed rfl) hrest List.suffix_rfl) hus hrest
    rcases hp.crosses h₁ with hp₁ | hcross
    · rcases hg.crosses h₂ with hg₂ | hcross
      · exact .inl (hrelies hp₁ hg₂)
      -- the second parser reads the column
      obtain ⟨S, hS, hσ, hright⟩ := hcross.hole
      refine .inr ⟨hcross.starts.trans hus, hcross.ends,
        hrelies (hp₁.mono fun vs _ hvs _ => .inl (hcross.starts.trans hvs)) hcross.relies,
        fun σ => m a (S σ), hole₂ hS, fun typed σ htyped hleft => ?_, fun ts' hts' => ?_⟩
      · have h₁ : p typed ts = .ok a us :=
          hp₁ typed fun vs hvs hvs' hne => htyped vs hvs (hrest.trans hvs') hne
        exact bind_eq_ok.2 ⟨a, us, h₁, bind_eq_ok.2
          ⟨S σ, us₁, hσ typed σ (fun vs hvs => htyped vs (hvs.trans hus)) hleft, rfl⟩⟩
      · obtain ⟨us', h₁', hus'⟩ := hbefore hts' h₁ hcross
        obtain ⟨rest', h₂', hrest'⟩ := hright us' hus'
        exact ⟨rest', bind_eq_ok.2 ⟨a, us', h₁', bind_eq_ok.2 ⟨_, rest', h₂', rfl⟩⟩, hrest'⟩
    · -- the first parser reads the column, and the second one starts behind it
      obtain ⟨S, hS, hσ, hright⟩ := hcross.hole
      have hg₂ := hg.relies h₂
      refine .inr ⟨hcross.starts, hrest.trans hcross.ends,
        hrelies hcross.relies (hg₂.mono fun vs hvs _ _ => .inr (hvs.trans hcross.ends)),
        fun σ => m (S σ) b, hole hS h₂, fun typed σ htyped hleft => ?_, fun ts' hts' => ?_⟩
      · have h₂ : g typed us = .ok b us₁ := hg₂ typed fun vs hvs hvs' _ =>
          htyped vs (hvs.trans hus) hvs' (x.ne_left (hvs.trans hcross.ends))
        have h₁ : p typed ts = .ok (S σ) us :=
          hσ typed σ (fun vs hvs hvs' => htyped vs hvs (hrest.trans hvs')) hleft
        exact bind_eq_ok.2 ⟨S σ, us, h₁, bind_eq_ok.2 ⟨b, us₁, h₂, rfl⟩⟩
      · obtain ⟨us', h₁', hus'⟩ := hright ts' hts'
        obtain ⟨rest', h₂', hrest'⟩ := hfollows.follows hus' h₂ List.nil_suffix
        exact ⟨rest', bind_eq_ok.2 ⟨_, us', h₁', bind_eq_ok.2 ⟨b, rest', h₂', rfl⟩⟩, hrest'⟩

/-- What is read behind the column, and what both make together. -/
theorem after {Hole' : (DataType → γ) → List Located → Prop}
    {p : Parser (Ident × DataType) → Parser α} (hp : Crosses x Hole p) {g : Parser β}
    (hg : Follows .finish g g) {m : α → β → γ}
    (hole : ∀ {S us b rest}, Hole S us → g us = .ok b rest → Hole' (fun σ => m (S σ) b) rest) :
    Crosses x Hole' fun typed => p typed >>= fun a => g >>= fun b => pure (m a b) :=
  have hfixed : Crosses x (fun _ _ => False) fun _ => g := .fixed hg
  hp.pair hfixed hg (fun _ _ hcross => hcross.hole.choose_spec.1.elim) hole False.elim

theorem map {Hole' : (DataType → γ) → List Located → Prop}
    {p : Parser (Ident × DataType) → Parser α} (hp : Crosses x Hole p) {m : α → γ}
    (hole : ∀ {S rest}, Hole S rest → Hole' (fun σ => m (S σ)) rest) :
    Crosses x Hole' fun typed => p typed >>= fun a => pure (m a) :=
  hp.after (g := (pure () : Parser Unit)) (m := fun a _ => m a) inferInstance fun h he => by
    obtain ⟨-, rfl⟩ := pure_eq_ok.1 he
    exact hole h

theorem ite {c : Prop} [Decidable c] {p q : Parser (Ident × DataType) → Parser α}
    (hp : Crosses x Hole p) (hq : Crosses x Hole q) :
    Crosses x Hole fun typed => if c then p typed else q typed := by
  split
  · exact hp
  · exact hq

end Crosses

end SqlModels.Sql
