import SqlModels.Text.Basic

namespace SqlModels.Text

variable {separator : Char} {parts rest : List Text}

theorem splitAt_eq_splitOn (separator : Char) (text : Text) :
    splitAt separator text = text.splitOn separator := by
  induction text with
  | nil => rfl
  | cons c text ih =>
    rw [splitAt, List.splitOn_cons_eq_if_modifyHead, ih]
    simp only [beq_iff_eq]
    split
    · rfl
    · cases h : text.splitOn separator with
      | nil => exact absurd h (List.splitOn_ne_nil _ _)
      | cons part parts => rfl

theorem joinWith_eq_intercalate (separator : Text) (parts : List Text) :
    joinWith separator parts = separator.intercalate parts := by
  induction parts with
  | nil => rfl
  | cons part rest ih =>
    cases rest with
    | nil => exact List.intercalate_singleton.symm
    | cons next rest =>
      rw [joinWith, ih, ← List.intercalate_cons_of_ne_nil (List.cons_ne_nil _ _)]
      exact List.cons_ne_nil _ _

/-- The separator is in no part. -/
theorem not_mem_of_mem_splitAt {text part : Text} (h : part ∈ splitAt separator text) :
    separator ∉ part := by
  rw [splitAt_eq_splitOn] at h
  induction text generalizing part with
  | nil => simp_all
  | cons c text ih =>
    rw [List.splitOn_cons_eq_if_modifyHead] at h
    split at h
    · rcases List.mem_cons.1 h with rfl | h
      · exact List.not_mem_nil
      · exact ih h
    · rename_i hc
      cases hparts : text.splitOn separator with
      | nil => exact absurd hparts (List.splitOn_ne_nil _ _)
      | cons first others =>
        rw [hparts] at h ih
        rcases List.mem_cons.1 h with rfl | h
        · exact List.not_mem_cons_of_ne_of_not_mem (fun h => hc (by simp [h]))
            (ih List.mem_cons_self)
        · exact ih (List.mem_cons_of_mem _ h)

theorem mem_joinWith {c : Char} {separator : Text} (h : c ∈ joinWith separator parts) :
    c ∈ separator ∨ ∃ part ∈ parts, c ∈ part := by
  rw [joinWith_eq_intercalate] at h
  induction parts with
  | nil => simp at h
  | cons part rest ih =>
    by_cases hrest : rest = []
    · subst hrest
      exact .inr ⟨part, List.mem_cons_self, by simpa using h⟩
    · rw [List.intercalate_cons_of_ne_nil hrest] at h
      simp only [List.mem_append] at h
      rcases h with (hpart | hseparator) | hbehind
      · exact .inr ⟨part, List.mem_cons_self, hpart⟩
      · exact .inl hseparator
      · refine (ih hbehind).imp_right fun ⟨other, hother, hc⟩ => ?_
        exact ⟨other, List.mem_cons_of_mem part hother, hc⟩

theorem joinWith_append (separator : Text) (hparts : parts ≠ []) (hrest : rest ≠ []) :
    joinWith separator (parts ++ rest) =
      joinWith separator parts ++ separator ++ joinWith separator rest := by
  simp only [joinWith_eq_intercalate]
  induction parts with
  | nil => exact absurd rfl hparts
  | cons part parts ih =>
    cases parts with
    | nil => simp [List.intercalate_cons_of_ne_nil hrest]
    | cons next parts =>
      have hbehind : next :: parts ++ rest ≠ [] := List.cons_ne_nil _ _
      rw [List.cons_append, List.intercalate_cons_of_ne_nil hbehind, ih (List.cons_ne_nil _ _),
        List.intercalate_cons_of_ne_nil (List.cons_ne_nil _ _)]
      simp only [List.append_assoc]

end SqlModels.Text
