import SqlModels.Proofs.Region.Marker
import SqlModels.Region.Merge

namespace SqlModels

namespace Region

/-- The offsets of the begin markers of a region in a text. -/
def begins (r : Region) (text : Text) : List Nat :=
  Text.offsets r.beginMarker.toList text

/-- The offsets of the end markers of a region in a text. -/
def ends (r : Region) (text : Text) : List Nat :=
  Text.offsets r.endMarker.toList text

/-- Whether an end marker of the region stands behind a begin marker. -/
def isLocated (r : Region) (text : Text) : Bool :=
  (r.begins text).any fun i => (r.ends text).any fun j => i < j

/-- The span of a region with one begin marker and, behind it, its only end marker. -/
def span? (r : Region) (text : Text) : Option Span :=
  match r.begins text, r.ends text with
  | [i], [j] => if i < j then some ⟨r, i, j⟩ else none
  | _, _ => none

/-- The markers of a region are as they should be, or a region is left alone that lacks one. -/
def IsTidy (r : Region) (text : Text) : Prop :=
  r.begins text = [] ∨ (∃ i, r.begins text = [i] ∧ r.ends text = []) ∨
    ∃ i j, r.begins text = [i] ∧ r.ends text = [j] ∧ i < j

/-- What is wrong with the markers of a region that is not tidy. -/
inductive Misplaced (r : Region) (text : Text) : RegionError → Prop
  | beginRepeated : 2 ≤ (r.begins text).length → Misplaced r text (.duplicateMarker r.beginMarker)
  | endsBefore (i : Nat) : r.begins text = [i] → r.ends text ≠ [] → (∀ j ∈ r.ends text, j < i) →
      Misplaced r text (.endBeforeBegin r.name)
  | endRepeated (i : Nat) : r.begins text = [i] → (∃ j ∈ r.ends text, i < j) →
      2 ≤ (r.ends text).length → Misplaced r text (.duplicateMarker r.endMarker)

/-- The ways in which the markers of a region lie, by what locating it then has to yield. -/
inductive Lies (r : Region) (text : Text) : Except RegionError Placement → Prop
  | notBegun : r.begins text = [] → Lies r text (.ok .notBegun)
  | notEnded (i : Nat) : r.begins text = [i] → r.ends text = [] → Lies r text (.ok .notEnded)
  | between (i j : Nat) : r.begins text = [i] → r.ends text = [j] → i < j →
      Lies r text (.ok (.span ⟨r, i, j⟩))
  | misplaced (e : RegionError) : r.Misplaced text e → Lies r text (.error e)

variable {r : Region} {text : Text}

theorem begins_around_opening (r : Region) (a c : Text) :
    r.begins (a ++ (r.beginMarker.toList ++ c)) = r.begins a ++
      a.length :: (r.begins c).map (a.length + r.beginMarker.length + ·) := by
  have h := (Marker.opening r).offsets_around (.opening r) a c
  rw [if_pos rfl] at h
  simpa only [begins, Marker.text_opening, List.singleton_append, String.length_toList] using h

theorem ends_around_opening (r : Region) (a c : Text) :
    r.ends (a ++ (r.beginMarker.toList ++ c)) = r.ends a ++
      (r.ends c).map (a.length + r.beginMarker.length + ·) := by
  have h := (Marker.opening r).offsets_around (.closing r) a c
  rw [if_neg nofun] at h
  simpa only [ends, Marker.text_opening, Marker.text_closing, List.nil_append,
    String.length_toList] using h

theorem ends_around_closing (r : Region) (a c : Text) :
    r.ends (a ++ (r.endMarker.toList ++ c)) = r.ends a ++
      a.length :: (r.ends c).map (a.length + r.endMarker.length + ·) := by
  have h := (Marker.closing r).offsets_around (.closing r) a c
  rw [if_pos rfl] at h
  simpa only [ends, Marker.text_closing, List.singleton_append, String.length_toList] using h

theorem includes_beginMarker : text.includes r.beginMarker.toList = true ↔ r.begins text ≠ [] := by
  rw [Text.includes_iff, begins, Ne, Text.offsets_eq_nil_iff, not_not]

theorem includes_endMarker : text.includes r.endMarker.toList = true ↔ r.ends text ≠ [] := by
  rw [Text.includes_iff, ends, Ne, Text.offsets_eq_nil_iff, not_not]

theorem lt_length_of_mem_ends {j : Nat} (h : j ∈ r.ends text) : j < text.length := by
  obtain ⟨a, c, rfl, rfl⟩ := Text.mem_offsets.1 h
  have hne : 0 < r.endMarker.toList.length := List.length_pos_iff.2 (Marker.closing r).text_ne_nil
  simp only [List.length_append]
  omega

section Search

variable {before body old after : Text}

theorem begins_of_split_begin
    (h : Text.splitFirst? r.beginMarker.toList text = some (before, body)) :
    r.begins text =
      before.length :: (r.begins body).map (before.length + r.beginMarker.length + ·) := by
  have hbefore : r.begins before = [] :=
    Text.offsets_eq_nil_iff.2 (Text.splitFirst?_not_infix (Marker.opening r).text_ne_nil h)
  rw [Text.splitFirst?_eq_some h, begins_around_opening, hbefore, List.nil_append]

theorem ends_of_split_begin
    (h : Text.splitFirst? r.beginMarker.toList text = some (before, body)) :
    r.ends text =
      r.ends before ++ (r.ends body).map (before.length + r.beginMarker.length + ·) := by
  rw [Text.splitFirst?_eq_some h, ends_around_opening]

theorem ends_of_split_end (h : Text.splitFirst? r.endMarker.toList text = some (old, after)) :
    r.ends text = old.length :: (r.ends after).map (old.length + r.endMarker.length + ·) := by
  have hold : r.ends old = [] :=
    Text.offsets_eq_nil_iff.2 (Text.splitFirst?_not_infix (Marker.closing r).text_ne_nil h)
  rw [Text.splitFirst?_eq_some h, ends_around_closing, hold, List.nil_append]

end Search

/-- The three searches of a location see all markers of the region. -/
theorem locate_lies (r : Region) (text : Text) : r.Lies text (r.locate text) := by
  unfold locate
  cases hb : Text.splitFirst? r.beginMarker.toList text with
  | none => exact .notBegun (Text.offsets_eq_nil_iff.2 (Text.splitFirst?_eq_none.1 hb))
  | some pair =>
    obtain ⟨before, body⟩ := pair
    have hbegins := begins_of_split_begin hb
    have hends := ends_of_split_begin hb
    dsimp only
    split
    · next hdup =>
      rw [includes_beginMarker] at hdup
      refine .misplaced _ (.beginRepeated ?_)
      have := List.length_pos_iff.2 hdup
      rw [hbegins, List.length_cons, List.length_map]
      omega
    · next hdup =>
      rw [includes_beginMarker, not_not] at hdup
      rw [hdup, List.map_nil] at hbegins
      cases he : Text.splitFirst? r.endMarker.toList body with
      | none =>
        -- all end markers stand before the begin marker
        have hbody : r.ends body = [] :=
          Text.offsets_eq_nil_iff.2 (Text.splitFirst?_eq_none.1 he)
        rw [hbody, List.map_nil, List.append_nil] at hends
        dsimp only
        split
        · next hin =>
          rw [includes_endMarker, ← hends] at hin
          refine .misplaced _ (.endsBefore _ hbegins hin ?_)
          rw [hends]
          exact fun j => lt_length_of_mem_ends
        · next hin =>
          rw [includes_endMarker, not_not, ← hends] at hin
          exact .notEnded _ hbegins hin
      | some pair =>
        -- one end marker stands behind the begin marker, others before it or further behind
        obtain ⟨old, after⟩ := pair
        rw [ends_of_split_end he, List.map_cons] at hends
        have hbegin : 0 < r.beginMarker.length := by
          rw [← String.length_toList]
          exact List.length_pos_iff.2 (Marker.opening r).text_ne_nil
        dsimp only
        split
        · next hin =>
          refine .misplaced _ (.endRepeated _ hbegins
            ⟨before.length + r.beginMarker.length + old.length, by simp [hends], by omega⟩ ?_)
          rw [Bool.or_eq_true, includes_endMarker, includes_endMarker] at hin
          rw [hends]
          simp only [List.length_append, List.length_cons, List.length_map]
          rcases hin with hin | hin <;>
          · have := List.length_pos_iff.2 hin
            omega
        · next hin =>
          rw [Bool.or_eq_true, not_or, includes_endMarker, includes_endMarker, not_not,
            not_not] at hin
          rw [hin.1, hin.2] at hends
          exact .between _ _ hbegins hends (by omega)

theorem span?_eq_some {s : Span} : r.span? text = some s ↔
    r.begins text = [s.beginsAt] ∧ r.ends text = [s.endsAt] ∧ s.beginsAt < s.endsAt ∧
      s.region = r := by
  unfold span?
  split
  · next i j hb he =>
    rw [Option.ite_none_right_eq_some]
    constructor
    · rintro ⟨hij, hs⟩
      cases hs
      exact ⟨hb, he, hij, rfl⟩
    · rintro ⟨hb', he', hs, rfl⟩
      cases hb.symm.trans hb'
      cases he.symm.trans he'
      exact ⟨hs, rfl⟩
  · next h =>
    refine ⟨nofun, ?_⟩
    rintro ⟨hb, he, -⟩
    exact (h _ _ hb he).elim

theorem isTidy_of_span? {s : Span} (h : r.span? text = some s) : r.IsTidy text := by
  obtain ⟨hb, he, hlt, -⟩ := span?_eq_some.1 h
  exact .inr (.inr ⟨_, _, hb, he, hlt⟩)

theorem length_pos_of_isLocated (h : r.isLocated text = true) :
    0 < (r.begins text).length ∧ 0 < (r.ends text).length := by
  obtain ⟨i, hi, hrest⟩ := List.any_eq_true.1 h
  obtain ⟨j, hj, -⟩ := List.any_eq_true.1 hrest
  exact ⟨List.length_pos_of_mem hi, List.length_pos_of_mem hj⟩

theorem isTidy_iff_length : r.IsTidy text ↔ (r.begins text).length = 0 ∨
    ((r.begins text).length = 1 ∧ (r.ends text).length = 0) ∨
      ((r.begins text).length = 1 ∧ (r.ends text).length = 1 ∧ r.isLocated text = true) := by
  constructor
  · rintro (hb | ⟨i, hb, he⟩ | ⟨i, j, hb, he, hlt⟩)
    · simp [hb]
    · simp [hb, he]
    · simp [isLocated, hb, he, hlt]
  · rintro (hb | ⟨hb, he⟩ | ⟨hb, he, hin⟩)
    · exact .inl (List.length_eq_zero_iff.1 hb)
    · obtain ⟨i, hi⟩ := List.length_eq_one_iff.1 hb
      exact .inr (.inl ⟨i, hi, List.length_eq_zero_iff.1 he⟩)
    · obtain ⟨i, hi⟩ := List.length_eq_one_iff.1 hb
      obtain ⟨j, hj⟩ := List.length_eq_one_iff.1 he
      exact .inr (.inr ⟨i, j, hi, hj, by simpa [isLocated, hi, hj] using hin⟩)

/-- A tidy region stays as it is in a text with fewer of its markers, unless it is lost there. -/
theorem IsTidy.of_fewer {text' : Text} (h : r.IsTidy text)
    (hbegins : (r.begins text').length ≤ (r.begins text).length)
    (hends : (r.ends text').length ≤ (r.ends text).length)
    (hkept : r.isLocated text = true → r.isLocated text' = true) :
    r.IsTidy text' ∧ r.isLocated text' = r.isLocated text := by
  rw [isTidy_iff_length] at h ⊢
  cases hin : r.isLocated text' with
  | true =>
    have hpos := length_pos_of_isLocated hin
    rcases h with h | h | ⟨hb, he, h⟩
    · omega
    · omega
    · exact ⟨.inr (.inr ⟨by omega, by omega, rfl⟩), h.symm⟩
  | false =>
    have hout : r.isLocated text = false := by
      rw [← Bool.not_eq_true]
      intro h
      exact absurd (hkept h) (by simp [hin])
    simp only [hout, Bool.false_eq_true, and_false, or_false] at h
    have hfewer : (r.begins text').length = 0 ∨
        (r.begins text').length = 1 ∧ (r.ends text').length = 0 := by
      omega
    exact ⟨hfewer.imp_right .inl, hout.symm⟩

theorem Misplaced.not_isTidy {e : RegionError} (h : r.Misplaced text e) : ¬ r.IsTidy text := by
  unfold IsTidy
  cases h with
  | beginRepeated h =>
    rintro (hb | ⟨i, hb, -⟩ | ⟨i, j, hb, -⟩) <;> simp [hb] at h
  | endsBefore i hi hne h =>
    rintro (hb | ⟨_, -, he⟩ | ⟨k, j, hb, he, hlt⟩)
    · simp [hb] at hi
    · exact hne he
    · cases hi.symm.trans hb
      exact absurd (h j (he ▸ List.mem_singleton_self j)) (by omega)
  | endRepeated i hi _ h =>
    rintro (hb | ⟨_, -, he⟩ | ⟨k, j, -, he, -⟩)
    · simp [hb] at hi
    · simp [he] at h
    · simp [he] at h

theorem Misplaced.unique {e e' : RegionError} (h : r.Misplaced text e)
    (h' : r.Misplaced text e') : e = e' := by
  cases h with
  | beginRepeated h =>
    cases h' with
    | beginRepeated => rfl
    | endsBefore i hi | endRepeated i hi => simp [hi] at h
  | endsBefore i hi hne h =>
    cases h' with
    | beginRepeated h' => simp [hi] at h'
    | endsBefore => rfl
    | endRepeated k hk h' =>
      obtain ⟨j, hj, hlt⟩ := h'
      cases hi.symm.trans hk
      exact absurd (h j hj) (by omega)
  | endRepeated i hi h =>
    cases h' with
    | beginRepeated h' => simp [hi] at h'
    | endsBefore k hk hne h' =>
      obtain ⟨j, hj, hlt⟩ := h
      cases hi.symm.trans hk
      exact absurd (h' j hj) (by omega)
    | endRepeated => rfl

end Region

/-- The span lies between markers of its region. -/
def Span.Cuts (s : Span) (text : Text) : Prop :=
  ∃ a w c, text = a ++ (s.region.beginMarker.toList ++ (w ++ (s.region.endMarker.toList ++ c))) ∧
    s.beginsAt = a.length ∧ s.endsAt = a.length + s.region.beginMarker.length + w.length

namespace Region

variable {r : Region} {text : Text} {s : Span}

theorem cuts_of_span? (h : r.span? text = some s) : s.Cuts text := by
  obtain ⟨hb, he, hlt, rfl⟩ := span?_eq_some.1 h
  have hbegin : s.beginsAt ∈ s.region.begins text := hb ▸ List.mem_singleton_self _
  obtain ⟨a, x, rfl, ha⟩ := Text.mem_offsets.1 hbegin
  have hend : s.endsAt ∈ s.region.ends (a ++ (s.region.beginMarker.toList ++ x)) :=
    he ▸ List.mem_singleton_self _
  rw [ends_around_opening, List.mem_append] at hend
  rcases hend with hend | hend
  · exact absurd (lt_length_of_mem_ends hend) (by omega)
  · obtain ⟨k, hk, hsum⟩ := List.mem_map.1 hend
    obtain ⟨w, c, rfl, rfl⟩ := Text.mem_offsets.1 hk
    exact ⟨a, w, c, rfl, ha.symm, hsum.symm⟩

end Region

namespace Span

variable {s : Span} {text : Text}

theorem Cuts.mem_begins (h : s.Cuts text) : s.beginsAt ∈ s.region.begins text := by
  obtain ⟨a, w, c, rfl, ha, -⟩ := h
  exact Text.mem_offsets.2 ⟨a, _, rfl, ha.symm⟩

theorem Cuts.mem_ends (h : s.Cuts text) : s.endsAt ∈ s.region.ends text := by
  obtain ⟨a, w, c, rfl, -, he⟩ := h
  refine Text.mem_offsets.2 ⟨a ++ (s.region.beginMarker.toList ++ w), c, ?_, ?_⟩
  · simp only [List.append_assoc]
  · simp only [he, List.length_append, String.length_toList, Nat.add_assoc]

theorem Cuts.lt (h : s.Cuts text) : s.beginsAt < s.endsAt := by
  obtain ⟨a, w, c, rfl, ha, he⟩ := h
  have := List.length_pos_iff.2 (Marker.opening s.region).text_ne_nil
  simp only [Marker.text_opening, String.length_toList] at this
  omega

theorem Cuts.isLocated (h : s.Cuts text) : s.region.isLocated text = true :=
  List.any_eq_true.2 ⟨_, h.mem_begins, List.any_eq_true.2 ⟨_, h.mem_ends, by simpa using h.lt⟩⟩

/-- Where the region is tidy, it lies nowhere else. -/
theorem Cuts.span?_eq (h : s.Cuts text) (htidy : s.region.IsTidy text) :
    s.region.span? text = some s := by
  have hb := h.mem_begins
  have he := h.mem_ends
  rcases htidy with hbegins | ⟨i, -, hends⟩ | ⟨i, j, hbegins, hends, -⟩
  · rw [hbegins] at hb
    cases hb
  · rw [hends] at he
    cases he
  · rw [hbegins, List.mem_singleton] at hb
    rw [hends, List.mem_singleton] at he
    exact Region.span?_eq_some.2 ⟨hb ▸ hbegins, he ▸ hends, h.lt, rfl⟩

end Span

theorem Region.isLocated_eq {r : Region} {text : Text} (h : r.IsTidy text) :
    r.isLocated text = (r.span? text).isSome := by
  rcases h with hb | ⟨i, hb, he⟩ | ⟨i, j, hb, he, hlt⟩
  · simp [isLocated, span?, hb]
  · simp [isLocated, span?, hb, he]
  · simp [isLocated, span?, hb, he, hlt]

end SqlModels
