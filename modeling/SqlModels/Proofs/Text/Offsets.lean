import SqlModels.Text.Basic
import Mathlib.Data.List.Infix

namespace SqlModels.Text

/-- The offsets at which `needle` occurs in a text, where occurrences may overlap. -/
def offsets (needle text : Text) : List Nat :=
  (List.range (text.length + 1)).filter fun i => needle.isPrefixOf (text.drop i)

variable {needle text a b c : Text}

theorem mem_offsets {i : Nat} :
    i ∈ offsets needle text ↔ ∃ a c, text = a ++ (needle ++ c) ∧ a.length = i := by
  simp only [offsets, List.mem_filter, List.mem_range, List.isPrefixOf_iff_prefix]
  constructor
  · rintro ⟨hi, c, hc⟩
    exact ⟨text.take i, c, by rw [hc, List.take_append_drop], by rw [List.length_take]; omega⟩
  · rintro ⟨a, c, rfl, rfl⟩
    refine ⟨by simp only [List.length_append]; omega, c, ?_⟩
    rw [List.drop_left]

theorem offsets_eq_nil_iff : offsets needle text = [] ↔ ¬ needle <:+: text := by
  rw [List.eq_nil_iff_forall_not_mem]
  constructor
  · rintro h ⟨a, c, rfl⟩
    exact h a.length (mem_offsets.2 ⟨a, c, List.append_assoc .., rfl⟩)
  · intro h i hi
    obtain ⟨a, c, rfl, -⟩ := mem_offsets.1 hi
    exact h ⟨a, c, List.append_assoc ..⟩

theorem splitFirst?_eq_some {before after : Text}
    (h : splitFirst? needle text = some (before, after)) : text = before ++ (needle ++ after) := by
  induction text generalizing before with
  | nil =>
    simp only [splitFirst?] at h
    split at h
    · next hn => cases h; simp [hn]
    · cases h
  | cons c rest ih =>
    simp only [splitFirst?] at h
    split at h
    · next hp =>
      cases h
      exact List.prefix_iff_eq_append.1 (List.isPrefixOf_iff_prefix.1 hp) |>.symm
    · obtain ⟨⟨u, v⟩, hs, he⟩ := Option.map_eq_some_iff.1 h
      cases he
      rw [ih hs, List.cons_append]

theorem splitFirst?_eq_none : splitFirst? needle text = none ↔ ¬ needle <:+: text := by
  induction text with
  | nil => by_cases h : needle = [] <;> simp [splitFirst?, h]
  | cons c rest ih =>
    rw [splitFirst?, List.infix_cons_iff, not_or, ← ih, ← List.isPrefixOf_iff_prefix]
    split
    · next hp => simp [hp]
    · next hp => simp [hp]

theorem includes_iff : text.includes needle = true ↔ needle <:+: text := by
  rw [includes, Option.isSome_iff_ne_none, Ne, splitFirst?_eq_none, not_not]

theorem splitFirst?_not_infix {before after : Text} (hn : needle ≠ [])
    (h : splitFirst? needle text = some (before, after)) : ¬ needle <:+: before := by
  induction text generalizing before with
  | nil =>
    simp only [splitFirst?, if_neg hn] at h
    cases h
  | cons c rest ih =>
    simp only [splitFirst?] at h
    split at h
    · cases h
      simpa using hn
    · next hp =>
      obtain ⟨⟨u, v⟩, hs, he⟩ := Option.map_eq_some_iff.1 h
      cases he
      rw [List.infix_cons_iff, not_or]
      refine ⟨fun hu => hp ?_, ih hs⟩
      rw [List.isPrefixOf_iff_prefix, splitFirst?_eq_some hs]
      exact hu.trans (List.prefix_append (c :: u) (needle ++ v))

/-- No occurrence of `needle` runs over the border between `a` and `b`. -/
def Seamless (needle a b : Text) : Prop :=
  ∀ p q, p ≠ [] → q ≠ [] → needle = p ++ q → p <:+ a → ¬ q <+: b

theorem offsets_append (hn : needle ≠ []) (h : Seamless needle a b) :
    offsets needle (a ++ b) = offsets needle a ++ (offsets needle b).map (a.length + ·) := by
  have hlen : (a ++ b).length + 1 = a.length + (b.length + 1) := by
    rw [List.length_append, Nat.add_assoc]
  rw [offsets, hlen, List.range_add, List.filter_append, List.filter_map]
  congr 1
  · rw [offsets, List.range_succ, List.filter_append]
    have hend : [a.length].filter (fun i => needle.isPrefixOf (a.drop i)) = [] := by
      simpa using hn
    rw [hend, List.append_nil]
    apply List.filter_congr
    intro i hi
    rw [List.drop_append_of_le_length (List.mem_range.1 hi).le, Bool.eq_iff_iff,
      List.isPrefixOf_iff_prefix, List.isPrefixOf_iff_prefix]
    refine ⟨fun hp => ?_, fun hp => hp.trans (List.prefix_append _ _)⟩
    -- an occurrence that begins in `a` ends there too, or runs over the border
    rcases List.prefix_or_prefix_of_prefix hp (List.prefix_append (a.drop i) b) with hp' | ⟨q, rfl⟩
    · exact hp'
    · have hx : a.drop i ≠ [] := by simpa using hi
      by_cases hq : q = []
      · rw [hq, List.append_nil]
      · exact absurd ((List.prefix_append_right_inj _).1 hp)
          (h _ q hx hq rfl (List.drop_suffix i a))
  · simp only [offsets, Function.comp_def, List.drop_length_add_append]

/-- No end of `a` starts `b` or is started by it, unless both are the whole of one text. -/
def RunsClear (a b : Text) : Prop :=
  ∀ q ∈ a.tails, q ≠ [] → (q <+: b ∨ b <+: q) → q = a ∧ a = b

instance (a b : Text) : Decidable (RunsClear a b) :=
  inferInstanceAs (Decidable (∀ q ∈ a.tails, q ≠ [] → (q <+: b ∨ b <+: q) → q = a ∧ a = b))

theorem RunsClear.seamless_left (h : RunsClear needle b) : Seamless needle a (b ++ c) := by
  rintro p q hp hq rfl - hqb
  have hcomparable := List.prefix_or_prefix_of_prefix hqb (List.prefix_append b c)
  have hwhole := (h q ((List.mem_tails _ _).2 (List.suffix_append p q)) hq hcomparable).1
  exact hp (List.self_eq_append_left.1 hwhole)

theorem RunsClear.seamless_right (h : RunsClear b needle) : Seamless needle b c := by
  rintro p q hp hq rfl hpb -
  obtain ⟨rfl, hwhole⟩ := h p ((List.mem_tails _ _).2 hpb) hp (Or.inl (List.prefix_append p q))
  exact hq (List.self_eq_append_right.1 hwhole)

theorem RunsClear.offsets (h : RunsClear b needle) (hn : needle ≠ []) :
    offsets needle b = if b = needle then [0] else [] := by
  have hmem : ∀ i ∈ Text.offsets needle b, i = 0 ∧ b = needle := by
    intro i hi
    obtain ⟨x, y, hxy, rfl⟩ := mem_offsets.1 hi
    have hsuffix : needle ++ y <:+ b := ⟨x, hxy.symm⟩
    obtain ⟨hwhole, he⟩ := h _ ((List.mem_tails _ _).2 hsuffix) (by simp [hn])
      (Or.inr (List.prefix_append needle y))
    rw [hwhole] at hxy
    exact ⟨by rw [List.self_eq_append_left.1 hxy, List.length_nil], he⟩
  split
  · next he =>
    subst he
    rw [Text.offsets, List.range_succ_eq_map, List.filter_cons_of_pos (by simp)]
    congr 1
    rw [List.filter_eq_nil_iff]
    intro i hi hp
    obtain ⟨j, hj, rfl⟩ := List.mem_map.1 hi
    have hj' : j + 1 ∈ Text.offsets b b :=
      List.mem_filter.2 ⟨List.mem_range.2 (Nat.succ_lt_succ (List.mem_range.1 hj)), hp⟩
    exact absurd (hmem _ hj').1 (Nat.succ_ne_zero j)
  · next he =>
    rw [List.eq_nil_iff_forall_not_mem]
    exact fun i hi => he (hmem i hi).2

/-- The occurrences in a text around a part that runs clear of them. -/
theorem offsets_around (hn : needle ≠ []) (h : RunsClear b needle) (h' : RunsClear needle b) :
    offsets needle (a ++ (b ++ c)) = offsets needle a ++
      ((if b = needle then [a.length] else []) ++
        (offsets needle c).map (a.length + b.length + ·)) := by
  rw [offsets_append hn h'.seamless_left, offsets_append hn h.seamless_right, h.offsets hn,
    List.map_append]
  congr 2
  · split <;> rfl
  · simp only [List.map_map, Function.comp_def, Nat.add_assoc]

end SqlModels.Text
