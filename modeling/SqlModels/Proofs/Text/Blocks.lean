import Mathlib.Data.List.Forall2
import SqlModels.Text.Basic

/-!
Reading texts back from where they have been written one after another. A foreign text ends with the
line it is on, a line that may be missing is told from all that may follow it, and a row of blocks
ends with a line that begins none of them.
-/

namespace SqlModels.Text

variable {a b r s x y stop : Text}

/-- A text with one line break, at its end. -/
def EndsLine (stop : Text) : Prop :=
  stop.getLast? = some '\n' ∧ '\n' ∉ stop.dropLast

instance (stop : Text) : Decidable (EndsLine stop) :=
  inferInstanceAs (Decidable (_ ∧ _))

theorem EndsLine.exists_eq (h : EndsLine stop) :
    ∃ close, stop = close ++ ['\n'] ∧ '\n' ∉ close := by
  obtain ⟨close, rfl⟩ := List.getLast?_eq_some_iff.1 h.1
  exact ⟨close, rfl, by simpa using h.2⟩

/-- Equal texts have the same first line. -/
theorem cancel_line (hx : '\n' ∉ x) (hy : '\n' ∉ y) (h : x ++ '\n' :: r = y ++ '\n' :: s) :
    x = y ∧ r = s := by
  induction x generalizing y with
  | nil =>
    cases y with
    | nil => exact ⟨rfl, (List.cons.inj h).2⟩
    | cons c y => exact absurd (List.cons.inj h).1 (List.ne_of_not_mem_cons hy)
  | cons c x ih =>
    cases y with
    | nil => exact absurd (List.cons.inj h).1.symm (List.ne_of_not_mem_cons hx)
    | cons d y =>
      obtain ⟨rfl, hrest⟩ := List.cons.inj h
      obtain ⟨rfl, hbehind⟩ :=
        ih (List.not_mem_of_not_mem_cons hx) (List.not_mem_of_not_mem_cons hy) hrest
      exact ⟨rfl, hbehind⟩

/-- A part of a line ends where the end of its line begins. -/
theorem EndsLine.cancel (hstop : EndsLine stop) (hx : '\n' ∉ x) (hy : '\n' ∉ y)
    (h : x ++ (stop ++ r) = y ++ (stop ++ s)) : x = y ∧ r = s := by
  obtain ⟨close, rfl, hclose⟩ := hstop.exists_eq
  have hcut : (x ++ close) ++ '\n' :: r = (y ++ close) ++ '\n' :: s := by simpa using h
  obtain ⟨hline, hrest⟩ := cancel_line (by simp [hx, hclose]) (by simp [hy, hclose]) hcut
  exact ⟨List.append_cancel_right hline, hrest⟩

/-- Lines with different ends are different. -/
theorem EndsLine.ne {line : Text} (hstop : EndsLine stop) (hline : EndsLine line)
    (hx : '\n' ∉ x) (hends : ¬ stop <:+ line) : x ++ (stop ++ r) ≠ line ++ s := by
  obtain ⟨close, rfl, hclose⟩ := hstop.exists_eq
  obtain ⟨whole, rfl, hwhole⟩ := hline.exists_eq
  intro h
  have hcut : (x ++ close) ++ '\n' :: r = whole ++ '\n' :: s := by simpa using h
  obtain ⟨rfl, -⟩ := cancel_line (by simp [hx, hclose]) hwhole hcut
  apply hends
  rw [List.append_assoc]
  exact List.suffix_append x _

/-- Texts neither of which begins with the other. -/
def Clash (a b : Text) : Prop :=
  ¬ a <+: b ∧ ¬ b <+: a

instance (a b : Text) : Decidable (Clash a b) :=
  inferInstanceAs (Decidable (_ ∧ _))

theorem Clash.not_isPrefix (h : Clash a b) (rest : Text) : ¬ a <+: b ++ rest := by
  intro hprefix
  rcases List.prefix_or_prefix_of_prefix hprefix (List.prefix_append b rest) with hab | hba
  · exact h.1 hab
  · exact h.2 hba

/-- A text that does not begin what follows does not begin it behind a part that may be missing. -/
theorem Clash.not_isPrefix_optional {c : Bool} (h : Clash a b) (hr : ¬ a <+: r) :
    ¬ a <+: (if c then b else []) ++ r := by
  cases c with
  | false => exact hr
  | true => exact h.not_isPrefix r

/-- A part that may be missing is there if the text begins with it. -/
theorem optional_cancel {c d : Bool} (hr : ¬ a <+: r) (hs : ¬ a <+: s)
    (h : (if c then a else []) ++ r = (if d then a else []) ++ s) : c = d ∧ r = s := by
  cases c <;> cases d
  case false.false => exact ⟨rfl, h⟩
  case false.true => exact absurd ⟨s, h.symm⟩ hr
  case true.false => exact absurd ⟨r, h⟩ hs
  case true.true => exact ⟨rfl, List.append_cancel_left h⟩

/-- Blocks that can be read one after another: each of them tells where it ends, and `stop` begins
as none of them does. -/
structure Blocks {α : Type} (f : α → Text) (valid : α → Prop) (same : α → α → Prop)
    (stop : Text) : Prop where
  cancel : ∀ {x y : α} {r s : Text}, valid x → valid y → f x ++ r = f y ++ s → same x y ∧ r = s
  goesOn : ∀ {x : α} {r s : Text}, valid x → f x ++ r ≠ stop ++ s

/-- A row of blocks is read back block by block. -/
theorem Blocks.cancel_all {α : Type} {f : α → Text} {valid : α → Prop} {same : α → α → Prop}
    {xs ys : List α} (h : Blocks f valid same stop) (hxs : ∀ x ∈ xs, valid x)
    (hys : ∀ y ∈ ys, valid y) (heq : xs.flatMap f ++ (stop ++ r) = ys.flatMap f ++ (stop ++ s)) :
    List.Forall₂ same xs ys ∧ r = s := by
  induction xs generalizing ys with
  | nil =>
    cases ys with
    | nil => exact ⟨.nil, List.append_cancel_left heq⟩
    | cons y ys =>
      rw [List.flatMap_cons, List.append_assoc] at heq
      exact absurd heq.symm (h.goesOn (hys y List.mem_cons_self))
  | cons x xs ih =>
    rw [List.flatMap_cons, List.append_assoc] at heq
    have hx := hxs x List.mem_cons_self
    cases ys with
    | nil => exact absurd heq (h.goesOn hx)
    | cons y ys =>
      rw [List.flatMap_cons, List.append_assoc] at heq
      obtain ⟨hfirst, hrest⟩ := h.cancel hx (hys y List.mem_cons_self) heq
      obtain ⟨hothers, hend⟩ := ih (fun z hz => hxs z (List.mem_cons_of_mem x hz))
        (fun z hz => hys z (List.mem_cons_of_mem y hz)) hrest
      exact ⟨.cons hfirst hothers, hend⟩

/-- Single lines are blocks if the end of a line is not that of `line`. -/
theorem Blocks.of_lines {α : Type} {f part : α → Text} {valid : α → Prop} {line : Text}
    (hf : ∀ x, f x = part x ++ stop) (hpart : ∀ x, valid x → '\n' ∉ part x) (hstop : EndsLine stop)
    (hline : EndsLine line) (hends : ¬ stop <:+ line) :
    Blocks f valid (fun x y => f x = f y) line where
  cancel := by
    intro x y r s hx hy h
    rw [hf, hf, List.append_assoc, List.append_assoc] at h
    obtain ⟨hsame, hrest⟩ := hstop.cancel (hpart x hx) (hpart y hy) h
    exact ⟨by rw [hf, hf, hsame], hrest⟩
  goesOn := by
    intro x r s hx
    rw [hf, List.append_assoc]
    exact hstop.ne hline (hpart x hx) hends

end SqlModels.Text
