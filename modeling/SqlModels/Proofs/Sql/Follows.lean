import SqlModels.Proofs.Sql.Results
import SqlModels.Proofs.Sql.Seam

/-!
Parsers that read the same from two token lists that spell the same up to a seam. A parser follows
another one if the one that stops before the seam makes the other one stop there too, with the same
result. Of lists that spell the same all along both make the same, failures included.
-/

namespace SqlModels.Sql

open SqlModels.Sql.Parser

variable {α β : Type}

/-- Faults of which none or both leave no message. -/
class Fault.Alike (fault fault' : Fault) : Prop where
  abort_iff : fault' = .abort ↔ fault = .abort

namespace Fault.Alike

variable {place place' : Position} {place? place?' : Option Position}

instance (fault : Fault) : Alike fault fault := ⟨Iff.rfl⟩

instance (wanted : Expectation) (found found' : Option Located) :
    Alike (.unexpected wanted found) (.unexpected wanted found') := ⟨by simp⟩

instance (clash : Clash) : Alike (.clash clash place?) (.clash clash place?') := ⟨by simp⟩

instance (content : Text) : Alike (.noCharacter content place?) (.noCharacter content place?') :=
  ⟨by simp⟩

instance : Alike (.positionWithoutIn place?) (.positionWithoutIn place?') := ⟨by simp⟩

instance (operator : String) :
    Alike (.noComparison operator place) (.noComparison operator place') := ⟨by simp⟩

instance (name : String) :
    Alike (.meaninglessOperator name place) (.meaninglessOperator name place') := ⟨by simp⟩

instance (word : String) (k : Keyword) :
    Alike (.meaninglessWord word k place) (.meaninglessWord word k place') := ⟨by simp⟩

end Fault.Alike

/-- Over a seam, what the first parser reads before it is what the second one reads. Where there is
no seam, the second one fails with the first one, for good if that does. -/
class Follows (s : Seam) (p q : Parser α) : Prop where
  takes : ∀ {ts a rest}, p ts = .ok a rest → rest <:+ ts
  follows : ∀ {ts ts' a rest}, s.Ahead ts ts' → p ts = .ok a rest → s.left <:+ rest →
    ∃ rest', q ts' = .ok a rest' ∧ s.Ahead rest rest'
  breaks : s = .finish → ∀ {ts ts' fault rest}, s.Ahead ts ts' → p ts = .error fault rest →
    ∃ fault' rest', q ts' = .error fault' rest' ∧ (fault' = .abort ↔ fault = .abort) ∧
      s.Ahead rest rest'

namespace Follows

variable {s : Seam} {p p' q q' : Parser α} {f f' : α → Parser β}

/-- What the second parser reads before the seam, if the first one follows it in turn. -/
theorem back (h : Follows s.symm p' p) (hp : Follows .finish p p) {ts ts' rest' : List Located}
    {a : α} (hts : s.Ahead ts ts') (hp' : p' ts' = .ok a rest') (hright : s.right <:+ rest') :
    ∃ rest, p ts = .ok a rest ∧ s.Ahead rest rest' :=
  (h.follows hts.symm hp' hright).imp fun _ hrest =>
    ⟨hrest.1, hts.of_symm hrest.2 (hp.takes hrest.1) (h.takes hp')⟩

/-- One step and what follows it. -/
theorem bind (hp : Follows s p p') (hf : ∀ a, Follows s (f a) (f' a)) :
    Follows s (p >>= f) (p' >>= f') where
  takes h := by
    obtain ⟨a, behind, h₁, h₂⟩ := bind_eq_ok.1 h
    exact ((hf a).takes h₂).trans (hp.takes h₁)
  follows hts h hleft := by
    obtain ⟨a, behind, h₁, h₂⟩ := bind_eq_ok.1 h
    obtain ⟨behind', h₁', hbehind⟩ := hp.follows hts h₁ (hleft.trans ((hf a).takes h₂))
    obtain ⟨rest', h₂', hrest⟩ := (hf a).follows hbehind h₂ hleft
    exact ⟨rest', bind_eq_ok.2 ⟨a, behind', h₁', h₂'⟩, hrest⟩
  breaks hs {ts ts' fault rest} hts h := by
    rcases bind_eq_error.1 h with h | ⟨a, behind, h₁, h₂⟩
    · obtain ⟨fault', rest', h', hrest⟩ := hp.breaks hs hts h
      exact ⟨fault', rest', bind_of_error h', hrest⟩
    · obtain ⟨behind', h₁', hbehind⟩ := hp.follows hts h₁ (hs ▸ List.nil_suffix)
      obtain ⟨fault', rest', h₂', hrest⟩ := (hf a).breaks hs hbehind h₂
      exact ⟨fault', rest', bind_eq_error.2 (.inr ⟨a, behind', h₁', h₂'⟩), hrest⟩

instance [hp : Follows s p p'] [hf : ∀ a, Follows s (f a) (f' a)] :
    Follows s (p >>= f) (p' >>= f') :=
  .bind hp hf

instance (a : α) : Follows s (pure a : Parser α) (pure a) where
  takes h := (pure_eq_ok.1 h).2 ▸ List.suffix_rfl
  follows hts h _ := by
    obtain ⟨rfl, rfl⟩ := pure_eq_ok.1 h
    exact ⟨_, rfl, hts⟩
  breaks _ _ _ _ _ _ h := nomatch h

instance {fault fault' : Fault} [hfault : Fault.Alike fault fault'] :
    Follows s (throw fault : Parser α) (throw fault') where
  takes h := nomatch h
  follows _ h := nomatch h
  breaks _ ts ts' _ _ hts h := by
    obtain ⟨rfl, rfl⟩ := EStateM.Result.error.inj h
    exact ⟨fault', ts', rfl, hfault.abort_iff, hts⟩

/-- What stands behind a failure does not matter. -/
theorem bind_never (hp : Follows s p p') (hnever : ∀ ts a rest, p ts ≠ .ok a rest) :
    Follows s (p >>= f) (p' >>= f') where
  takes h := by
    obtain ⟨a, behind, h, -⟩ := bind_eq_ok.1 h
    exact absurd h (hnever _ _ _)
  follows _ h := by
    obtain ⟨a, behind, h, -⟩ := bind_eq_ok.1 h
    exact absurd h (hnever _ _ _)
  breaks hs {ts ts' fault rest} hts h := by
    rcases bind_eq_error.1 h with h | ⟨a, behind, h, -⟩
    · obtain ⟨fault', rest', h', hrest⟩ := hp.breaks hs hts h
      exact ⟨fault', rest', bind_of_error h', hrest⟩
    · exact absurd h (hnever _ _ _)

instance (wanted : Expectation) (found found' : Option Located) :
    Follows s (unexpected wanted found : Parser α) (unexpected wanted found') :=
  inferInstanceAs (Follows s (throw _) (throw _))

instance (priority := high) {fault fault' : Fault} [Fault.Alike fault fault'] :
    Follows s ((throw fault : Parser α) >>= f) (throw fault' >>= f') :=
  bind_never inferInstance fun _ _ _ h => nomatch h

instance (priority := high) (wanted : Expectation) (found found' : Option Located) :
    Follows s ((unexpected wanted found : Parser α) >>= f) (unexpected wanted found' >>= f') :=
  bind_never inferInstance fun _ _ _ h => nomatch h

theorem ite {c : Prop} [Decidable c] (hp : Follows s p p') (hq : Follows s q q') :
    Follows s (if c then p else q) (if c then p' else q') := by
  split
  · exact hp
  · exact hq

instance {c : Prop} [Decidable c] [hp : Follows s p p'] [hq : Follows s q q'] :
    Follows s (if c then p else q) (if c then p' else q') :=
  .ite hp hq

instance {g : α → β} [hp : Follows s p p'] : Follows s (g <$> p) (g <$> p') := by
  rw [map_eq_pure_bind, map_eq_pure_bind]
  infer_instance

/-- The next token, of which only the place may differ. -/
theorem next {f f' : Option Located → Parser β} (hnone : Follows s (f none) (f' none))
    (hsome : ∀ token place place',
      Follows s (f (some ⟨token, place⟩)) (f' (some ⟨token, place'⟩))) :
    Follows s (Parser.next >>= f) (Parser.next >>= f') where
  takes {ts} b rest h := by
    cases ts with
    | nil => exact hnone.takes h
    | cons t ts => exact ((hsome t.token t.place t.place).takes h).trans (List.suffix_cons t ts)
  follows {ts ts'} b rest hts h hleft := by
    cases ts with
    | nil =>
      obtain rfl : ts' = [] := hts.nil
      exact hnone.follows hts h hleft
    | cons t ts =>
      have hf := (hsome t.token t.place t.place).takes h
      obtain ⟨⟨token, place'⟩, ts', rfl, rfl, htail⟩ := hts.tail (hleft.trans hf)
      exact (hsome t.token t.place place').follows htail h hleft
  breaks hs {ts ts'} fault rest hts h := by
    cases ts with
    | nil =>
      obtain rfl : ts' = [] := hts.nil
      exact hnone.breaks hs hts h
    | cons t ts =>
      obtain ⟨⟨token, place'⟩, ts', rfl, rfl, htail⟩ := hts.tail (hs ▸ List.nil_suffix)
      exact (hsome t.token t.place place').breaks hs htail h

/-- The next token, left in place. -/
theorem peek {f f' : Option Located → Parser β} (hnone : Follows s (f none) (f' none))
    (hsome : ∀ token place place',
      Follows s (f (some ⟨token, place⟩)) (f' (some ⟨token, place'⟩))) :
    Follows s (Parser.peek >>= f) (Parser.peek >>= f') where
  takes {ts} b rest h := by
    cases ts with
    | nil => exact hnone.takes h
    | cons t ts => exact (hsome t.token t.place t.place).takes h
  follows {ts ts'} b rest hts h hleft := by
    cases ts with
    | nil =>
      obtain rfl : ts' = [] := hts.nil
      exact hnone.follows hts h hleft
    | cons t ts =>
      obtain ⟨⟨token, place'⟩, ts₁, rfl, rfl⟩ := hts.cons
      exact (hsome t.token t.place place').follows hts h hleft
  breaks hs {ts ts'} fault rest hts h := by
    cases ts with
    | nil =>
      obtain rfl : ts' = [] := hts.nil
      exact hnone.breaks hs hts h
    | cons t ts =>
      obtain ⟨⟨token, place'⟩, ts₁, rfl, rfl⟩ := hts.cons
      exact (hsome t.token t.place place').breaks hs hts h

instance (wanted : Expectation) : Follows s (expected wanted : Parser α) (expected wanted) :=
  .peek inferInstance fun _ _ _ => inferInstance

instance (priority := high) (wanted : Expectation) :
    Follows s ((expected wanted : Parser α) >>= f) (expected wanted >>= f') :=
  bind_never inferInstance fun _ _ _ h => nomatch h

instance {fault : Option Located → Fault}
    [∀ found found', Fault.Alike (fault found) (fault found')] :
    Follows s (Parser.peek >>= fun found => (throw (fault found) : Parser α))
      (Parser.peek >>= fun found => throw (fault found)) :=
  .peek inferInstance fun _ _ _ => inferInstance

instance : Follows s remaining remaining where
  takes h := by
    obtain ⟨rfl, rfl⟩ := EStateM.Result.ok.inj h
    exact List.suffix_rfl
  follows {ts ts'} a rest hts h _ := by
    obtain ⟨rfl, rfl⟩ := EStateM.Result.ok.inj h
    exact ⟨ts', hts.symm.remaining, hts⟩
  breaks _ _ _ _ _ _ h := nomatch h

/-- A parser that looks at the next tokens and leaves them in place. -/
theorem of_look {look : List Located → α} (h : ∀ {ts ts'}, s.Ahead ts ts' → look ts = look ts') :
    Follows s (fun ts => .ok (look ts) ts : Parser α) (fun ts => .ok (look ts) ts) where
  takes h := by
    obtain ⟨rfl, rfl⟩ := EStateM.Result.ok.inj h
    exact List.suffix_rfl
  follows {ts ts'} a rest hts h' _ := by
    obtain ⟨rfl, rfl⟩ := EStateM.Result.ok.inj h'
    exact ⟨ts', by rw [h hts], hts⟩
  breaks _ _ _ _ _ _ h := nomatch h

instance (x : Symbol) : Follows s (atSymbol x) (atSymbol x) :=
  of_look fun hts => by
    simpa only [Option.any_map, Function.comp_def] using
      congrArg (Option.any fun token => token = .symbol x) hts.head

instance (x : Symbol) : Follows s (symbol? x) (symbol? x) where
  takes {ts a rest} h := by
    cases ts with
    | nil => exact (EStateM.Result.ok.inj h).2 ▸ List.suffix_rfl
    | cons t ts =>
      simp only [symbol?] at h
      split at h
      · exact (EStateM.Result.ok.inj h).2 ▸ List.suffix_cons t ts
      · exact (EStateM.Result.ok.inj h).2 ▸ List.suffix_rfl
  follows {ts ts'} a rest hts h hleft := by
    cases ts with
    | nil =>
      obtain rfl := hts.nil
      obtain ⟨rfl, rfl⟩ := EStateM.Result.ok.inj h
      exact ⟨[], rfl, hts⟩
    | cons t ts =>
      simp only [symbol?] at h
      split at h
      · next ht =>
        obtain ⟨rfl, rfl⟩ := EStateM.Result.ok.inj h
        obtain ⟨t', ts', rfl, ht', htail⟩ := hts.tail hleft
        exact ⟨ts', symbol?_pos (ht'.symm.trans ht) ts', htail⟩
      · next ht =>
        obtain ⟨rfl, rfl⟩ := EStateM.Result.ok.inj h
        obtain ⟨t', ts₁, rfl, ht'⟩ := hts.cons
        exact ⟨t' :: ts₁, symbol?_neg (ht' ▸ ht) ts₁, hts⟩
  breaks _ _ _ _ _ _ h := absurd h symbol?_ne_error

/-- What stands behind an opening parenthesis that is not ambiguous, or something else where there
is none. -/
theorem opening [hq : Follows s q q'] (hs : s.guarded)
    (htakes : ∀ {ts a rest}, p ts = .ok a rest → rest <:+ ts)
    (hp : ∀ {ts ts' a rest}, s.Ahead ts ts' → ¬Ambiguous ts → p ts = .ok a rest →
      s.left <:+ rest → ∃ rest', p' ts' = .ok a rest' ∧ s.Ahead rest rest') :
    Follows s (symbol? .leftParen >>= fun paren => if paren then p else q)
      (symbol? .leftParen >>= fun paren => if paren then p' else q') where
  takes h := by
    obtain ⟨paren, behind, hparen, hthen⟩ := bind_eq_ok.1 h
    cases paren with
    | true =>
      obtain ⟨t, rfl, -⟩ := symbol?_true hparen
      exact (htakes (by simpa using hthen)).trans (List.suffix_cons t behind)
    | false =>
      obtain rfl := symbol?_false hparen
      exact hq.takes (by simpa using hthen)
  follows {ts ts' a rest} hts h hleft := by
    obtain ⟨paren, behind, hparen, hthen⟩ := bind_eq_ok.1 h
    cases paren with
    | true =>
      have hp₁ : p behind = .ok a rest := by simpa using hthen
      obtain ⟨t, rfl, ht⟩ := symbol?_true hparen
      have hlength := (hleft.trans (htakes hp₁)).length_le
      generalize he : t :: behind = us at hts
      cases hts with
      | here =>
        rw [← he, List.length_cons] at hlength
        omega
      | @there u u' us us' hu hclear hus =>
        obtain ⟨rfl, rfl⟩ := List.cons.inj he
        obtain ⟨rest', h', hrest⟩ := hp hus (hclear hs ht) hp₁ hleft
        refine ⟨rest', bind_eq_ok.2 ⟨true, us', symbol?_pos (hu.symm.trans ht) us', ?_⟩, hrest⟩
        simpa using h'
    | false =>
      obtain rfl := symbol?_false hparen
      have hq₁ : q behind = .ok a rest := by simpa using hthen
      obtain ⟨rest', h', hrest⟩ := hq.follows hts hq₁ hleft
      refine ⟨rest', bind_eq_ok.2 ⟨false, ts', ?_, by simpa using h'⟩, hrest⟩
      cases behind with
      | nil =>
        rw [hts.nil]
        rfl
      | cons t ts =>
        obtain ⟨t', ts₁, rfl, ht⟩ := hts.cons
        refine symbol?_neg (fun ht' => ?_) ts₁
        rw [symbol?_pos (ht.trans ht') ts] at hparen
        exact nomatch hparen
  breaks hfinish := by
    subst hfinish
    exact hs.elim

instance (x : Symbol) : Follows s (expectSymbol x) (expectSymbol x) := by
  unfold expectSymbol
  infer_instance

instance [Follows s p p'] : Follows s (parenthesized p) (parenthesized p') := by
  unfold parenthesized
  infer_instance

instance : Follows s identifier identifier := by
  refine .next (inferInstanceAs (Follows s (unexpected _ _) (unexpected _ _))) fun token _ _ => ?_
  simp only [Option.bind_some]
  cases identOf? token <;> infer_instance

theorem commaSeparatedUpTo [Follows s p p'] (count : Nat) :
    Follows s (commaSeparatedUpTo p count) (commaSeparatedUpTo p' count) := by
  induction count with
  | zero =>
    unfold Parser.commaSeparatedUpTo
    infer_instance
  | succ count ih =>
    unfold Parser.commaSeparatedUpTo
    infer_instance

instance [Follows s p p'] : Follows s (commaSeparated p) (commaSeparated p') :=
  have (count : Nat) : Follows s (Parser.commaSeparatedUpTo p count)
      (Parser.commaSeparatedUpTo p' count) := commaSeparatedUpTo count
  inferInstanceAs (Follows s (remaining >>= _) (remaining >>= _))

theorem nameUpTo (count : Nat) : Follows s (nameUpTo count) (nameUpTo count) := by
  induction count with
  | zero =>
    unfold Parser.nameUpTo
    infer_instance
  | succ count ih =>
    unfold Parser.nameUpTo
    infer_instance

instance : Follows s name name :=
  .bind inferInstance nameUpTo

instance : Follows s columnList columnList := by
  unfold columnList
  infer_instance

instance : Follows s columnList? columnList? := by
  unfold columnList?
  infer_instance

instance : Follows s integer integer := by
  refine .next inferInstance fun token place place' => ?_
  cases token with
  | number digits long =>
    simp only
    cases readInteger digits 0 digits <;> infer_instance
  | _ => infer_instance

instance (ks : List Keyword) : Follows s (keywordIn? ks) (keywordIn? ks) where
  takes {ts a rest} h := by
    unfold keywordIn? at h
    split at h
    · exact (EStateM.Result.ok.inj h).2 ▸ ts.tail_suffix
    · exact (EStateM.Result.ok.inj h).2 ▸ List.suffix_rfl
  follows {ts ts'} a rest hts h hleft := by
    cases ts with
    | nil =>
      obtain rfl := hts.nil
      exact ⟨rest, h, (EStateM.Result.ok.inj h).2 ▸ hts⟩
    | cons t ts =>
      obtain ⟨t', ts₁, rfl, ht⟩ := hts.cons
      simp only [keywordIn?, List.head?_cons, Option.bind_some, List.tail_cons, ht] at h ⊢
      cases hfind : ks.find? t'.token.is with
      | some k =>
        rw [hfind] at h
        obtain ⟨rfl, rfl⟩ := EStateM.Result.ok.inj h
        obtain ⟨_, ts', he, _, htail⟩ := hts.tail hleft
        obtain ⟨rfl, rfl⟩ := List.cons.inj he
        exact ⟨_, rfl, htail⟩
      | none =>
        rw [hfind] at h
        obtain ⟨rfl, rfl⟩ := EStateM.Result.ok.inj h
        exact ⟨_, rfl, hts⟩
  breaks _ ts _ _ _ _ h := by
    unfold keywordIn? at h
    split at h <;> exact nomatch h

instance (ks : List Keyword) : Follows s (anyKeyword? ks) (anyKeyword? ks) := by
  unfold anyKeyword?
  infer_instance

instance (ks : List Keyword) (wanted : Expectation) :
    Follows s (keywordIn ks wanted) (keywordIn ks wanted) := by
  refine .next (inferInstanceAs (Follows s (unexpected _ _) (unexpected _ _))) fun token _ _ => ?_
  simp only [Option.bind_some]
  cases ks.find? token.is <;> infer_instance

instance (first second : Keyword) :
    Follows s (eitherKeyword first second) (eitherKeyword first second) := by
  refine .bind inferInstance fun k => ?_
  cases k <;> infer_instance

/-- A parser that stops where it has taken a fixed number of tokens, if `take` holds. -/
theorem of_drop {take : List Located → Bool} {n : Nat}
    (h : ∀ {ts ts'}, s.Ahead ts ts' → take ts = take ts') :
    Follows s (fun ts => if take ts then .ok true (ts.drop n) else .ok false ts : Parser Bool)
      (fun ts => if take ts then .ok true (ts.drop n) else .ok false ts) where
  takes {ts a rest} h := by
    split at h
    · exact (EStateM.Result.ok.inj h).2 ▸ ts.drop_suffix n
    · exact (EStateM.Result.ok.inj h).2 ▸ List.suffix_rfl
  follows {ts ts'} a rest hts h' hleft := by
    rw [h hts] at h'
    split at h'
    · next ht =>
      obtain ⟨rfl, rfl⟩ := EStateM.Result.ok.inj h'
      exact ⟨ts'.drop n, if_pos ht, hts.drop hleft⟩
    · next ht =>
      obtain ⟨rfl, rfl⟩ := EStateM.Result.ok.inj h'
      exact ⟨ts', if_neg ht, hts⟩
  breaks _ _ _ _ _ _ h := by
    split at h <;> exact nomatch h

instance (k : Keyword) : Follows s (keyword? k) (keyword? k) :=
  of_drop fun hts => hts.startsWith_single k

instance (k : Keyword) : Follows s (expectKeyword k) (expectKeyword k) := by
  unfold expectKeyword
  infer_instance

instance [s.Closed] (ks : List Keyword) : Follows s (keywords? ks) (keywords? ks) :=
  of_drop fun hts => hts.startsWith ks

instance [s.Closed] (ks : List Keyword) : Follows s (atKeywords ks) (atKeywords ks) :=
  of_look fun hts => hts.startsWith ks

instance [Follows s p p'] : Follows s (orAbort p) (orAbort p') where
  takes h := Follows.takes (s := s) (p := p) (q := p') (orAbort_eq_ok.1 h)
  follows hts h hleft := by
    obtain ⟨rest', h', hrest⟩ :=
      Follows.follows (p := p) (q := p') hts (orAbort_eq_ok.1 h) hleft
    exact ⟨rest', orAbort_eq_ok.2 h', hrest⟩
  breaks hs {ts ts' fault rest} hts h := by
    obtain ⟨rfl, found, h⟩ := orAbort_eq_error.1 h
    obtain ⟨found', rest', h', -, hrest⟩ := Follows.breaks (p := p) (q := p') hs hts h
    exact ⟨.abort, rest', orAbort_eq_error.2 ⟨rfl, found', h'⟩, Iff.rfl, hrest⟩

/-- A parser whose failure is passed over only for another failure behind it. -/
theorem tolerate [hp : Follows s p p'] {f f' : Option α → Parser β}
    (hnever : ∀ ts b rest, f none ts ≠ .ok b rest) (hnone : Follows s (f none) (f' none))
    (hsome : ∀ a, Follows s (f (some a)) (f' (some a))) :
    Follows s (Parser.tolerate p >>= f) (Parser.tolerate p' >>= f') where
  takes h := by
    obtain ⟨a, behind, h₁, h₂⟩ := bind_eq_ok.1 h
    cases a with
    | none => exact absurd h₂ (hnever _ _ _)
    | some a => exact ((hsome a).takes h₂).trans (hp.takes (tolerate_eq_some.1 h₁))
  follows hts h hleft := by
    obtain ⟨a, behind, h₁, h₂⟩ := bind_eq_ok.1 h
    cases a with
    | none => exact absurd h₂ (hnever _ _ _)
    | some a =>
      obtain ⟨behind', h₁', hbehind⟩ :=
        hp.follows hts (tolerate_eq_some.1 h₁) (hleft.trans ((hsome a).takes h₂))
      obtain ⟨rest', h₂', hrest⟩ := (hsome a).follows hbehind h₂ hleft
      exact ⟨rest', bind_eq_ok.2 ⟨some a, behind', tolerate_eq_some.2 h₁', h₂'⟩, hrest⟩
  breaks hs {ts ts' fault rest} hts h := by
    rcases bind_eq_error.1 h with h | ⟨a, behind, h₁, h₂⟩
    · obtain ⟨rfl, habort⟩ := tolerate_eq_error.1 h
      obtain ⟨fault', rest', h', hfault, hrest⟩ := hp.breaks hs hts habort
      obtain rfl := hfault.2 rfl
      exact ⟨.abort, rest', bind_of_error (tolerate_eq_error.2 ⟨rfl, h'⟩), Iff.rfl, hrest⟩
    cases a with
    | none =>
      obtain ⟨found, h₁, hfound⟩ := tolerate_eq_none.1 h₁
      obtain ⟨found', behind', h₁', hfault, hbehind⟩ := hp.breaks hs hts h₁
      have hnone' := tolerate_eq_none.2 ⟨found', h₁', fun he => hfound (hfault.1 he)⟩
      obtain ⟨fault', rest', h₂', hrest⟩ := hnone.breaks hs hbehind h₂
      exact ⟨fault', rest', bind_eq_error.2 (.inr ⟨none, behind', hnone', h₂'⟩), hrest⟩
    | some a =>
      obtain ⟨behind', h₁', hbehind⟩ :=
        hp.follows hts (tolerate_eq_some.1 h₁) (hs ▸ List.nil_suffix)
      obtain ⟨fault', rest', h₂', hrest⟩ := (hsome a).breaks hs hbehind h₂
      exact ⟨fault', rest',
        bind_eq_error.2 (.inr ⟨some a, behind', tolerate_eq_some.2 h₁', h₂'⟩), hrest⟩

/-- Where the first parser finds nothing the second one has to find nothing too, since what they
look at for that may lie behind the seam. -/
theorem optionally {p p' : Parser (Option α)} [hp : Follows s p p']
    (hnone : ∀ {ts ts' rest}, s.Ahead ts ts' → p ts = .ok none rest →
      ∃ rest', p' ts' = .ok none rest') :
    Follows s (Parser.optionally p) (Parser.optionally p') where
  takes {ts a rest} h := by
    unfold Parser.optionally at h
    split at h
    · exact (EStateM.Result.ok.inj h).2 ▸ List.suffix_rfl
    · exact hp.takes h
  follows {ts ts' a rest} hts h hleft := by
    unfold Parser.optionally at h ⊢
    split at h
    · next hn =>
      obtain ⟨rfl, rfl⟩ := EStateM.Result.ok.inj h
      obtain ⟨rest', h'⟩ := hnone hts hn
      exact ⟨ts', by rw [h'], hts⟩
    · next hn =>
      obtain ⟨rest', h', hrest⟩ := hp.follows hts h hleft
      refine ⟨rest', ?_, hrest⟩
      rw [h']
      cases a with
      | none => exact absurd h (hn rest)
      | some a => rfl
  breaks hs {ts ts' fault rest} hts h := by
    unfold Parser.optionally at h ⊢
    split at h
    · exact nomatch h
    · obtain ⟨fault', rest', h', hrest⟩ := hp.breaks hs hts h
      exact ⟨fault', rest', by rw [h'], hrest⟩

/-- Where the first parser fails the second one has to fail too. -/
theorem attempt [hp : Follows s p p']
    (hfails : ∀ {ts ts' fault rest}, s.Ahead ts ts' → p ts = .error fault rest → fault ≠ .abort →
      ∃ fault' rest', p' ts' = .error fault' rest' ∧ fault' ≠ .abort) :
    Follows s (Parser.attempt p) (Parser.attempt p') where
  takes {ts a rest} h := by
    cases a with
    | none => exact (attempt_eq_none.1 h).1 ▸ List.suffix_rfl
    | some a => exact hp.takes (attempt_eq_some.1 h)
  follows {ts ts' a rest} hts h hleft := by
    cases a with
    | none =>
      obtain ⟨rfl, fault, behind, hp, hfault⟩ := attempt_eq_none.1 h
      obtain ⟨fault', behind', hp', hfault'⟩ := hfails hts hp hfault
      exact ⟨ts', attempt_eq_none.2 ⟨rfl, fault', behind', hp', hfault'⟩, hts⟩
    | some a =>
      obtain ⟨rest', h', hrest⟩ := hp.follows hts (attempt_eq_some.1 h) hleft
      exact ⟨rest', attempt_eq_some.2 h', hrest⟩
  breaks hs {ts ts' fault rest} hts h := by
    obtain ⟨rfl, habort⟩ := attempt_eq_error.1 h
    obtain ⟨fault', rest', h', hfault, hrest⟩ := hp.breaks hs hts habort
    obtain rfl := hfault.2 rfl
    exact ⟨.abort, rest', attempt_eq_error.2 ⟨rfl, h'⟩, Iff.rfl, hrest⟩

/-- Without a seam a parser is tried in vain where the other one is. -/
theorem attempt_finish (hp : Follows .finish p p') :
    Follows .finish (Parser.attempt p) (Parser.attempt p') :=
  .attempt fun hts h hfault =>
    have ⟨fault', rest', h', hiff, _⟩ := hp.breaks rfl hts h
    ⟨fault', rest', h', fun he => hfault (hiff.1 he)⟩

/-- An identifier is found or missed by one token. -/
instance : Follows s (Parser.attempt identifier) (Parser.attempt identifier) :=
  .attempt fun {ts ts' _ _} hts h _ => by
    cases ts with
    | nil =>
      obtain rfl := hts.nil
      exact ⟨_, _, identifier_nil, by simp⟩
    | cons t ts =>
      obtain ⟨t', ts₁, rfl, ht⟩ := hts.cons
      rw [identifier_cons, ht] at h
      rw [identifier_cons]
      cases hi : identOf? t'.token with
      | none => exact ⟨_, _, rfl, by simp⟩
      | some i => simp [hi] at h

end Follows

end SqlModels.Sql
