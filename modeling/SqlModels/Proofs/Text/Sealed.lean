import SqlModels.Proofs.Text.Offsets

namespace SqlModels.Text

variable {word a b u : Text}

theorem not_infix_append (ha : ¬ word <:+: a) (hb : ¬ word <:+: b) (h : Seamless word a b) :
    ¬ word <:+: a ++ b := by
  rw [List.infix_append_iff_ne_nil]
  rintro (h' | h' | ⟨p, q, hp, hq, hw, hpa, hqb⟩)
  · exact ha h'
  · exact hb h'
  · exact h p q hp hq hw hpa hqb

/-- The text does not contain the word, and neither of its ends can be part of it. -/
structure Sealed (word text : Text) : Prop where
  free : ¬ word <:+: text
  ne_nil : text ≠ []
  head : ∀ c ∈ text.head?, c ∉ word.tail
  last : ∀ c ∈ text.getLast?, c ∉ word.dropLast

-- a check on the one character at each end, for a `∀` over characters may be decided by trying all
instance (word text : Text) : Decidable (Sealed word text) :=
  decidable_of_iff (¬ word <:+: text ∧ text ≠ [] ∧ text.head?.all (· ∉ word.tail) ∧
      text.getLast?.all (· ∉ word.dropLast)) <| by
    simp only [Option.all_eq_true, decide_eq_true_eq]
    exact ⟨fun h => ⟨h.1, h.2.1, h.2.2.1, h.2.2.2⟩, fun h => ⟨h.free, h.ne_nil, h.head, h.last⟩⟩

namespace Sealed

theorem seamless_left (h : Sealed word a) : Seamless word a b := by
  rintro p q hp hq rfl hpa -
  have hlast : p.getLast hp ∈ a.getLast? := by
    obtain ⟨x, rfl⟩ := hpa
    rw [List.getLast?_append_of_ne_nil x hp, List.getLast?_eq_some_getLast hp]
    rfl
  refine h.last _ hlast ?_
  rw [List.dropLast_append_of_ne_nil hq]
  exact List.mem_append_left _ (List.getLast_mem hp)

theorem seamless_right (h : Sealed word b) : Seamless word a b := by
  rintro p q hp hq rfl - hqb
  have hhead : q.head hq ∈ b.head? := by
    obtain ⟨x, rfl⟩ := hqb
    rw [List.head?_append_of_ne_nil q hq, List.head?_eq_some_head hq]
    rfl
  refine h.head _ hhead ?_
  rw [List.tail_append_of_ne_nil hp]
  exact List.mem_append_right _ (List.head_mem hq)

theorem append (ha : Sealed word a) (hb : Sealed word b) : Sealed word (a ++ b) where
  free := not_infix_append ha.free hb.free ha.seamless_left
  ne_nil := List.append_ne_nil_of_left_ne_nil ha.ne_nil b
  head := by
    rw [List.head?_append_of_ne_nil a ha.ne_nil]
    exact ha.head
  last := by
    rw [List.getLast?_append_of_ne_nil a hb.ne_nil]
    exact hb.last

/-- A foreign text between sealed ones. -/
theorem enclose (ha : Sealed word a) (hu : ¬ word <:+: u) (hb : Sealed word b) :
    Sealed word (a ++ (u ++ b)) where
  free := not_infix_append ha.free (not_infix_append hu hb.free hb.seamless_right) ha.seamless_left
  ne_nil := List.append_ne_nil_of_left_ne_nil ha.ne_nil (u ++ b)
  head := by
    rw [List.head?_append_of_ne_nil a ha.ne_nil]
    exact ha.head
  last := by
    rw [← List.append_assoc, List.getLast?_append_of_ne_nil (a ++ u) hb.ne_nil]
    exact hb.last

/-- A part in front that may be missing. -/
theorem optional (ha : a = [] ∨ Sealed word a) (hb : Sealed word b) : Sealed word (a ++ b) := by
  rcases ha with rfl | ha
  · exact hb
  · exact ha.append hb

theorem eq_nil_or_ite {c : Prop} [Decidable c] (ha : Sealed word a) :
    (if c then a else []) = [] ∨ Sealed word (if c then a else []) := by
  split
  · exact .inr ha
  · exact .inl rfl

theorem flatMap_free {α : Type} {f : α → Text} {xs : List α} (hw : word ≠ [])
    (h : ∀ x ∈ xs, Sealed word (f x)) : ¬ word <:+: xs.flatMap f := by
  induction xs with
  | nil => simpa using hw
  | cons x xs ih =>
    rw [List.forall_mem_cons] at h
    rw [List.flatMap_cons]
    exact not_infix_append h.1.free (ih h.2) h.1.seamless_left

end Sealed

end SqlModels.Text
