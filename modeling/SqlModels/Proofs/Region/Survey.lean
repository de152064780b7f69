import SqlModels.Proofs.Region.Locate

/-!
The layouts a merge accepts: every listed region is tidy, and the spans lie one behind the other in
the order of the list.
-/

namespace SqlModels

/-- The first span ends before the second one begins. -/
def Span.Precedes (s t : Span) : Prop :=
  s.stop ≤ t.beginsAt

namespace Region

/-- The spans of the listed regions that have one. -/
def spansIn (regions : List Region) (text : Text) : List Span :=
  regions.filterMap fun r => r.span? text

def WellFormed (regions : List Region) (text : Text) : Prop :=
  (∀ r ∈ regions, r.IsTidy text) ∧ (spansIn regions text).Pairwise Span.Precedes

/-- What is reported about a tidy region without a span. -/
def note? (r : Region) (text : Text) : Option RegionNote :=
  match r.begins text, r.ends text with
  | [], _ => some (.beginMissing r)
  | [_], [] => some (.endMissing r)
  | _, _ => none

/-- What is wrong with a region that is to come behind the span located last. -/
inductive Fault (text : Text) (previous : Option Span) (r : Region) : RegionError → Prop
  | misplaced (e : RegionError) : r.Misplaced text e → Fault text previous r e
  | outOfOrder (p s : Span) : previous = some p → r.span? text = some s →
      s.beginsAt < p.beginsAt → Fault text previous r (.outOfOrder r.name p.region.name)
  | overlap (p s : Span) : previous = some p → r.span? text = some s →
      p.beginsAt ≤ s.beginsAt → s.beginsAt < p.stop →
      Fault text previous r (.overlap p.region.name r.name)

variable {r : Region} {regions taken : List Region} {text : Text}

theorem mem_spansIn {s : Span} : s ∈ spansIn regions text ↔ ∃ r ∈ regions, r.span? text = some s :=
  List.mem_filterMap

theorem lt_stop_of_mem_spansIn {s : Span} (h : s ∈ spansIn regions text) : s.beginsAt < s.stop := by
  obtain ⟨r, -, hs⟩ := mem_spansIn.1 h
  have := (span?_eq_some.1 hs).2.2.1
  unfold Span.stop
  omega

theorem spansIn_append (regions more : List Region) (text : Text) :
    spansIn (regions ++ more) text = spansIn regions text ++ spansIn more text :=
  List.filterMap_append

theorem WellFormed.of_append {more : List Region} (h : WellFormed (regions ++ more) text) :
    WellFormed regions text := by
  obtain ⟨htidy, hspans⟩ := h
  rw [spansIn_append, List.pairwise_append] at hspans
  exact ⟨fun r hr => htidy r (List.mem_append_left _ hr), hspans.1⟩

/-- In a list that is in order, the span located last is the last one in the text. -/
theorem WellFormed.precedes_of_last {p s : Span} (h : WellFormed regions text)
    (hp : (spansIn regions text).getLast? = some p) (hps : p.Precedes s) :
    ∀ t ∈ spansIn regions text, t.Precedes s := by
  obtain ⟨init, hinit⟩ := List.getLast?_eq_some_iff.1 hp
  have hstop := lt_stop_of_mem_spansIn (List.mem_of_getLast? hp)
  have hpairwise := h.2
  rw [hinit, List.pairwise_append] at hpairwise
  intro t ht
  rw [hinit, List.mem_append, List.mem_singleton] at ht
  rcases ht with ht | rfl
  · have htp := hpairwise.2.2 t ht p (List.mem_singleton_self p)
    unfold Span.Precedes at *
    omega
  · exact hps

/-- A list in order goes on with a tidy region whose span, if there is one, lies behind the span
located last. -/
theorem wellFormed_snoc_iff : WellFormed (regions ++ [r]) text ↔ WellFormed regions text ∧
    r.IsTidy text ∧ ∀ s ∈ r.span? text, ∀ p ∈ (spansIn regions text).getLast?, p.Precedes s := by
  have hsnoc : spansIn (regions ++ [r]) text = spansIn regions text ++ (r.span? text).toList :=
    spansIn_append regions [r] text
  constructor
  · intro h
    have hpairwise := h.2
    rw [hsnoc, List.pairwise_append] at hpairwise
    refine ⟨h.of_append, h.1 r (by simp), fun s hs p hp => ?_⟩
    exact hpairwise.2.2 p (List.mem_of_getLast? hp) s (Option.mem_toList.2 hs)
  · rintro ⟨h, htidy, hlast⟩
    refine ⟨?_, ?_⟩
    · intro x hx
      rw [List.mem_append, List.mem_singleton] at hx
      rcases hx with hx | rfl
      · exact h.1 x hx
      · exact htidy
    · rw [hsnoc, List.pairwise_append]
      refine ⟨h.2, by cases r.span? text <;> simp, fun t ht s hs => ?_⟩
      cases hp : (spansIn regions text).getLast? with
      | none => rw [List.getLast?_eq_none_iff.1 hp] at ht; cases ht
      | some p => exact h.precedes_of_last hp (hlast s (Option.mem_toList.1 hs) p hp) t ht

theorem Fault.not_wellFormed {e : RegionError}
    (h : r.Fault text (spansIn regions text).getLast? e) : ¬ WellFormed (regions ++ [r]) text := by
  rw [wellFormed_snoc_iff]
  rintro ⟨-, htidy, hlast⟩
  cases h with
  | misplaced e h => exact h.not_isTidy htidy
  | outOfOrder p s hp hs hlt =>
    have hstop := lt_stop_of_mem_spansIn (List.mem_of_getLast? hp)
    have hps := hlast s hs p hp
    unfold Span.Precedes at hps
    omega
  | overlap p s hp hs _ hlt =>
    have hps := hlast s hs p hp
    unfold Span.Precedes at hps
    omega

/-- There is one place where a list stops being in order. -/
theorem WellFormed.break_unique {before before' later later' : List Region} {r' : Region}
    (h : WellFormed before text) (hbreak : ¬ WellFormed (before ++ [r]) text)
    (h' : WellFormed before' text) (hbreak' : ¬ WellFormed (before' ++ [r']) text)
    (heq : before ++ r :: later = before' ++ r' :: later') : before = before' ∧ r = r' := by
  -- if one list were longer, it would go on behind the place where the other one breaks
  rcases List.append_eq_append_iff.1 heq with ⟨x, hx, hy⟩ | ⟨x, hx, hy⟩
  · cases x with
    | nil => cases hy; exact ⟨by simpa using hx.symm, rfl⟩
    | cons d x =>
      cases hy
      rw [hx, List.append_cons] at h'
      exact absurd h'.of_append hbreak
  · cases x with
    | nil => cases hy; exact ⟨by simpa using hx, rfl⟩
    | cons d x =>
      cases hy
      rw [hx, List.append_cons] at h
      exact absurd h.of_append hbreak'

theorem Fault.unique {previous : Option Span} {e e' : RegionError}
    (h : r.Fault text previous e) (h' : r.Fault text previous e') : e = e' := by
  cases h with
  | misplaced e h =>
    cases h' with
    | misplaced e' h' => exact h.unique h'
    | outOfOrder _ s _ hs | overlap _ s _ hs => exact absurd (isTidy_of_span? hs) h.not_isTidy
  | outOfOrder p s hp hs hlt =>
    cases h' with
    | misplaced e' h' => exact absurd (isTidy_of_span? hs) h'.not_isTidy
    | outOfOrder p' _ hp' => cases hp.symm.trans hp'; rfl
    | overlap p' s' hp' hs' hle =>
      cases hp.symm.trans hp'
      cases hs.symm.trans hs'
      omega
  | overlap p s hp hs hle =>
    cases h' with
    | misplaced e' h' => exact absurd (isTidy_of_span? hs) h'.not_isTidy
    | outOfOrder p' s' hp' hs' hlt =>
      cases hp.symm.trans hp'
      cases hs.symm.trans hs'
      omega
    | overlap p' _ hp' => cases hp.symm.trans hp'; rfl

end Region

namespace Survey

open Region

/-- How far a survey goes: the regions it takes are in order, and the next one, if there is one, is
at fault. -/
inductive Goes (text : Text) (taken : List Region) : List Region → Survey → Prop
  | toEnd (regions : List Region) : WellFormed (taken ++ regions) text →
      Goes text taken regions ⟨regions.filterMap (·.note? text), .ok (spansIn regions text)⟩
  | upTo (before : List Region) (r : Region) (later : List Region) (e : RegionError) :
      WellFormed (taken ++ before) text →
      r.Fault text (spansIn (taken ++ before) text).getLast? e →
      Goes text taken (before ++ r :: later) ⟨before.filterMap (·.note? text), .error e⟩

variable {text : Text} {taken regions : List Region} {r : Region} {s : Survey}

theorem Goes.addNote {n : RegionNote} (hn : r.note? text = some n) (hs : r.span? text = none)
    (h : Goes text (taken ++ [r]) regions s) : Goes text taken (r :: regions) (s.addNote n) := by
  cases h with
  | toEnd regions h =>
    have h' := Goes.toEnd (r :: regions) (by simpa using h)
    simpa [Survey.addNote, hn, spansIn, hs] using h'
  | upTo before r' later e h hf =>
    have h' := Goes.upTo (r :: before) r' later e (by simpa using h) (by simpa using hf)
    simpa [Survey.addNote, hn] using h'

theorem Goes.addSpan {span : Span} (hn : r.note? text = none) (hs : r.span? text = some span)
    (h : Goes text (taken ++ [r]) regions s) : Goes text taken (r :: regions) (s.addSpan span) := by
  cases h with
  | toEnd regions h =>
    have h' := Goes.toEnd (r :: regions) (by simpa using h)
    simpa [Survey.addSpan, hn, spansIn, hs, Except.map] using h'
  | upTo before r' later e h hf =>
    have h' := Goes.upTo (r :: before) r' later e (by simpa using h) (by simpa using hf)
    simpa [Survey.addSpan, hn, Except.map] using h'

theorem checkAfter_cases {span : Span} (previous : Option Span) (hs : r.span? text = some span) :
    (span.checkAfter previous = .ok () ∧ ∀ p ∈ previous, p.Precedes span) ∨
      ∃ e, span.checkAfter previous = .error e ∧ r.Fault text previous e := by
  obtain rfl := (span?_eq_some.1 hs).2.2.2
  cases previous with
  | none => exact .inl ⟨rfl, nofun⟩
  | some p =>
    unfold Span.checkAfter
    dsimp only
    split
    · next hlt => exact .inr ⟨_, rfl, .outOfOrder p span rfl hs hlt⟩
    · next hle =>
      split
      · next hlt => exact .inr ⟨_, rfl, .overlap p span rfl hs (Nat.le_of_not_lt hle) hlt⟩
      · next hstop =>
        refine .inl ⟨rfl, fun p' hp' => ?_⟩
        cases hp'
        exact Nat.le_of_not_lt hstop

theorem behind_goes (regions : List Region) (h : WellFormed taken text) :
    Goes text taken regions (behind text (spansIn taken text).getLast? regions) := by
  induction regions generalizing taken with
  | nil => exact .toEnd [] (by simpa using h)
  | cons r rest ih =>
    -- a region left alone is taken, but leaves the span located last as it is
    have hskip {n : RegionNote} (htidy : r.IsTidy text) (hs : r.span? text = none)
        (hn : r.note? text = some n) : Goes text taken (r :: rest)
          ((behind text (spansIn taken text).getLast? rest).addNote n) := by
      have hlast : spansIn (taken ++ [r]) text = spansIn taken text := by simp [spansIn, hs]
      exact .addNote hn hs (hlast ▸ ih (wellFormed_snoc_iff.2 ⟨h, htidy, by simp [hs]⟩))
    have hstop {e : RegionError} (he : r.Fault text (spansIn taken text).getLast? e) :
        Goes text taken (r :: rest) ⟨[], .error e⟩ :=
      .upTo [] r rest e (by simpa using h) (by simpa using he)
    have hlies := r.locate_lies text
    unfold behind
    generalize r.locate text = located at hlies
    cases hlies with
    | misplaced e he => exact hstop (.misplaced e he)
    | notBegun hb => exact hskip (.inl hb) (by simp [span?, hb]) (by simp [note?, hb])
    | notEnded i hb he =>
      exact hskip (.inr (.inl ⟨i, hb, he⟩)) (by simp [span?, hb, he]) (by simp [note?, hb, he])
    | between i j hb he hlt =>
      have hs : r.span? text = some ⟨r, i, j⟩ := span?_eq_some.2 ⟨hb, he, hlt, rfl⟩
      dsimp only
      rcases checkAfter_cases (spansIn taken text).getLast? hs with ⟨hok, hp⟩ | ⟨e, herror, he⟩
      · have hnext : WellFormed (taken ++ [r]) text := by
          refine wellFormed_snoc_iff.2 ⟨h, isTidy_of_span? hs, fun s hs' => ?_⟩
          cases hs.symm.trans hs'
          exact hp
        have hlast : (spansIn (taken ++ [r]) text).getLast? = some ⟨r, i, j⟩ := by
          simp [spansIn, hs]
        rw [hok]
        exact .addSpan (by simp [note?, hb, he]) hs (hlast ▸ ih hnext)
      · rw [herror]
        exact hstop he

theorem ofRegions_goes (regions : List Region) (text : Text) :
    Goes text [] regions (ofRegions regions text) :=
  behind_goes regions ⟨nofun, .nil⟩

theorem ofRegions_eq (h : WellFormed regions text) : ofRegions regions text =
    ⟨regions.filterMap (·.note? text), .ok (spansIn regions text)⟩ := by
  have hgoes := ofRegions_goes regions text
  generalize ofRegions regions text = s at hgoes
  cases hgoes with
  | toEnd => rfl
  | upTo before r later e _ hf =>
    rw [List.append_cons] at h
    exact absurd h.of_append hf.not_wellFormed

end Survey

open Region

theorem merge_eq {regions : List Region} {text : Text} (fragments : Fragments)
    (h : WellFormed regions text) : merge regions fragments text =
      ⟨regions.filterMap (·.note? text), .ok (splice fragments text 0 (spansIn regions text))⟩ := by
  unfold merge
  rw [Survey.ofRegions_eq h]
  rfl

theorem wellFormed_of_merge {regions : List Region} {fragments : Fragments} {text merged : Text}
    (h : (merge regions fragments text).result = .ok merged) : WellFormed regions text := by
  have hgoes := Survey.ofRegions_goes regions text
  unfold merge at h
  generalize Survey.ofRegions regions text = s at h hgoes
  cases hgoes with
  | toEnd _ hw => exact hw
  | upTo => cases h

/-- What a merge accepts, what it refuses the rest for, and what it notes on the way. None of this
depends on the fresh bodies. -/
theorem merge_accepts_exactly (regions : List Region) (fragments : Fragments) (text : Text) :
    ((∃ merged, (merge regions fragments text).result = .ok merged) ↔ WellFormed regions text) ∧
    (∀ e, (merge regions fragments text).result = .error e ↔
      ∃ before r later, regions = before ++ r :: later ∧ WellFormed before text ∧
        ¬ WellFormed (before ++ [r]) text ∧ r.Fault text (spansIn before text).getLast? e) ∧
    (∃ before later, regions = before ++ later ∧ WellFormed before text ∧
      (∀ r ∈ later.head?, ¬ WellFormed (before ++ [r]) text) ∧
      (merge regions fragments text).notes = before.filterMap (·.note? text)) ∧
    ∀ others, (merge regions others text).result.map (fun _ => ()) =
      (merge regions fragments text).result.map (fun _ => ()) := by
  have hgoes := Survey.ofRegions_goes regions text
  unfold merge
  generalize Survey.ofRegions regions text = s at hgoes
  cases hgoes with
  | toEnd regions h =>
    rw [List.nil_append] at h
    refine ⟨⟨fun _ => h, fun _ => ⟨_, rfl⟩⟩, fun e => ⟨nofun, ?_⟩, ⟨regions, [], ?_⟩, fun _ => rfl⟩
    · rintro ⟨before, r, later, rfl, -, hbreak, -⟩
      rw [List.append_cons] at h
      exact absurd h.of_append hbreak
    · exact ⟨(List.append_nil _).symm, h, nofun, rfl⟩
  | upTo before r later e h hf =>
    rw [List.nil_append] at h hf
    have hbreak := hf.not_wellFormed
    refine ⟨⟨nofun, fun hall => ?_⟩, fun e' => ⟨fun he => ?_, ?_⟩, ⟨before, r :: later, ?_⟩,
      fun _ => rfl⟩
    · rw [List.append_cons] at hall
      exact absurd hall.of_append hbreak
    · cases he
      exact ⟨before, r, later, rfl, h, hbreak, hf⟩
    · rintro ⟨before', r', later', heq, h', hbreak', hf'⟩
      obtain ⟨rfl, rfl⟩ := h.break_unique hbreak h' hbreak' heq
      rw [hf.unique hf']
      rfl
    · refine ⟨rfl, h, fun x hx => ?_, rfl⟩
      cases hx
      exact hbreak

end SqlModels
