import Mathlib.Data.List.TakeWhile
import SqlModels.Sql.Lexer

/-!
What the tokens of a text are made of: how bare words, numbers and placeholders start, and which
characters a bare word may hold.
-/

namespace SqlModels.Sql

/-- How a bare word is made. One that starts with a sign or a digit may hold other characters. -/
def Word.IsLexed (w : Word) : Prop :=
  w.quoted = false → ∃ c rest, w.value.toList = c :: rest ∧
    (c = '@' ∨ c = '.' ∨ isDigit c = true ∨ ∀ d ∈ c :: rest, isWordPart d = true)

/-- How words, numbers and placeholders are made. -/
def Token.IsLexed : Token → Prop
  | .word w => w.IsLexed
  | .number digits _ => ∃ c rest, digits = c :: rest ∧ (c = '.' ∨ isDigit c = true)
  | .placeholder text => ∃ rest, text = '?' :: rest
  | _ => True

variable {p : Position} {c : Char} {text rest more : Text} {token : Token} {n : Nat}

theorem Word.isLexed_of_all {w : Word} (hne : w.value.toList ≠ [])
    (h : w.value.toList.all isWordPart = true) : w.IsLexed := by
  intro _
  obtain ⟨c, rest, hvalue⟩ := List.exists_cons_of_ne_nil hne
  rw [hvalue, List.all_eq_true] at h
  exact ⟨c, rest, hvalue, .inr (.inr (.inr h))⟩

theorem wordFrom_isLexed (front : Text) (hfront : front = c :: more)
    (hc : c = '@' ∨ c = '.' ∨ isDigit c = true ∨ ∀ d ∈ front, isWordPart d = true) :
    (wordFrom front rest).1.IsLexed := by
  intro _
  refine ⟨c, more ++ rest.takeWhile isWordPart, by simp [hfront], ?_⟩
  refine hc.imp_right (Or.imp_right (Or.imp_right fun hall d hd => ?_))
  rw [← List.cons_append, ← hfront] at hd
  exact (List.mem_append.1 hd).elim (hall d) List.mem_takeWhile_imp

theorem readNumber_isLexed (hc : c = '.' ∨ isDigit c = true) :
    (readNumber (c :: text)).1.IsLexed := by
  unfold readNumber
  extract_lets whole behind hex point mantissa rest digits
  obtain ⟨more, hmantissa⟩ : ∃ more, mantissa = c :: more := by
    by_cases hdigit : isDigit c = true
    · exact ⟨_, by simp [mantissa, whole, hdigit]; rfl⟩
    · obtain rfl := hc.resolve_right hdigit
      exact ⟨_, by simp [mantissa, point, behind, whole, hdigit]; rfl⟩
  have hnumber (further : Text) (long : Bool) :
      (Token.number (mantissa ++ further) long).IsLexed :=
    ⟨c, more ++ further, by simp [hmantissa], hc⟩
  clear_value mantissa rest
  split
  · trivial
  split
  · trivial
  cases rest with
  | nil => simpa using hnumber [] false
  | cons d rest =>
    dsimp only
    split
    · split
      · exact hnumber _ true
      · exact hnumber _ false
    split
    · exact wordFrom_isLexed mantissa hmantissa (.inr (hc.imp_right .inl))
    · simpa using hnumber [] false

theorem readAtSign_isLexed : (readAtSign rest).1.IsLexed := by
  unfold readAtSign
  split
  · trivial
  repeat' split
  all_goals first | trivial | exact wordFrom_isLexed _ rfl (.inl rfl)

theorem stringToken_isLexed {kind : StringKind} {opening : Nat} {fault : Fault}
    {read : Option (Text × Nat)} (h : stringToken kind opening fault read = .ok (token, n)) :
    token.IsLexed := by
  cases read with
  | none => cases h
  | some read =>
    cases h
    trivial

theorem lexeme_isLexed (h : lexeme p c rest = .ok (token, n)) : token.IsLexed := by
  have hread {read : Token × Nat} (hread : read.1.IsLexed)
      (h : (Except.ok read : Except Fault (Token × Nat)) = .ok (token, n)) : token.IsLexed := by
    cases h
    exact hread
  revert h
  fun_cases lexeme p c rest
  case case11 hc =>
    simp only [Bool.or_eq_true, decide_eq_true_eq] at hc
    exact hread (readNumber_isLexed hc.symm)
  case case15 => exact hread readAtSign_isLexed
  case case9 => exact hread nofun
  case case16 hc digits =>
    subst hc
    exact hread ⟨digits, rfl⟩
  case case17 hc =>
    exact hread (wordFrom_isLexed [c] rfl (.inr (.inr (.inr (by simp [isWordPart, hc])))))
  all_goals first | exact stringToken_isLexed | exact hread trivial | exact nofun

/-- Every token of a text is made like that. -/
theorem tokensFrom_isLexed {ts : List Located} (h : tokensFrom p text = .ok ts) :
    ∀ t ∈ ts, t.token.IsLexed := by
  fun_induction tokensFrom p text generalizing ts with
  | case1 p =>
    cases h
    exact List.forall_mem_nil _
  | case2 => cases h
  | case3 => cases h
  | case4 p c rest token length hread tokens htokens ih =>
    cases h
    exact List.forall_mem_cons.2 ⟨lexeme_isLexed hread, ih htokens⟩

end SqlModels.Sql
