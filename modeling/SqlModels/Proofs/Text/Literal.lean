import Mathlib.Data.List.Infix
import SqlModels.Text.Quoted

/-!
Reading string literals of the generated code. What is quoted reads back as the text it was made
from, unless that has a decimal digit behind a NUL: the escape of the NUL and the digit would be one
octal escape, which is no part of the strict language.
-/

namespace SqlModels.Text.Quoted

/-- What a reader of a literal is in the middle of. -/
inductive Expects
  /-- A character, an escape or the closing quote. -/
  | content
  /-- What stands behind a backslash. -/
  | escape
  /-- The brace in front of a code point. -/
  | brace
  /-- Digits of a code point, of which those read so far have a value. -/
  | digits (value : Option Nat)

/-- The characters that end a line, which do not stand in a literal. -/
def lineEnds : List Char :=
  ['\n', '\r', '\u2028', '\u2029']

/-- The value of a hexadecimal digit. -/
def hexValue? (c : Char) : Option Nat :=
  ("0123456789abcdef".toList.findIdx? (· = c)).or ("0123456789ABCDEF".toList.findIdx? (· = c))

/-- The character of a code point. -/
def charOf? (code : Nat) : Option Char :=
  if code.isValidChar then some (Char.ofNat code) else none

/-- The text that the rest of a literal stands for, its closing quote included. A NUL may not be
followed by a decimal digit. -/
def readRest : Expects → Text → Option Text
  | .content, ['\"'] => some []
  | .content, '\\' :: rest => readRest .escape rest
  | .content, c :: rest =>
    if c = '\"' ∨ c ∈ lineEnds then none else (readRest .content rest).map (c :: ·)
  | .escape, 't' :: rest => (readRest .content rest).map ('\t' :: ·)
  | .escape, 'r' :: rest => (readRest .content rest).map ('\r' :: ·)
  | .escape, 'n' :: rest => (readRest .content rest).map ('\n' :: ·)
  | .escape, '\\' :: rest => (readRest .content rest).map ('\\' :: ·)
  | .escape, '\"' :: rest => (readRest .content rest).map ('\"' :: ·)
  | .escape, '0' :: rest =>
    if rest.head?.any Char.isDigit then none else (readRest .content rest).map ('\x00' :: ·)
  | .escape, 'u' :: rest => readRest .brace rest
  | .brace, '\x7b' :: rest => readRest (.digits none) rest
  | .digits value, '\x7d' :: rest =>
    (value.bind charOf?).bind fun c => (readRest .content rest).map (c :: ·)
  | .digits value, c :: rest =>
    (hexValue? c).bind fun digit => readRest (.digits (some (16 * value.getD 0 + digit))) rest
  | _, _ => none

/-- The text that a literal stands for in the strict language. -/
def decode : Text → Option Text
  | '\"' :: rest => readRest .content rest
  | _ => none

example : decode "\"a\\u\x7b1F\x7d\\\"\"".toList = some ['a', '\x1f', '\"'] := by decide

/-- A NUL with a decimal digit behind it. -/
def HasOctal (text : Text) : Prop :=
  ∃ d, d.isDigit = true ∧ ['\x00', d] <:+: text

theorem hasOctal_cons (c : Char) (rest : Text) :
    HasOctal (c :: rest) ↔ (c = '\x00' ∧ rest.head?.any Char.isDigit = true) ∨ HasOctal rest := by
  simp only [HasOctal, List.infix_cons_iff, and_or_left, exists_or]
  refine or_congr ?_ Iff.rfl
  cases rest with
  | nil => simp
  | cons d rest =>
    simp only [List.cons_prefix_cons, List.nil_prefix, and_true, List.head?_cons, Option.any_some]
    constructor
    · rintro ⟨e, he, rfl, rfl⟩
      exact ⟨rfl, he⟩
    · rintro ⟨rfl, hd⟩
      exact ⟨d, hd, rfl, rfl⟩

instance decidableHasOctal : (text : Text) → Decidable (HasOctal text)
  | [] => isFalse (by simp [HasOctal])
  | c :: rest =>
    have := decidableHasOctal rest
    decidable_of_iff _ (hasOctal_cons c rest).symm

/-! ### Code points -/

theorem hexValue?_digitChar : ∀ d < 16, hexValue? d.digitChar = some d ∧ d.digitChar ≠ '\x7d' := by
  decide

theorem readRest_digit {value : Option Nat} {d : Nat} (h : d < 16) (rest : Text) :
    readRest (.digits value) (d.digitChar :: rest) =
      readRest (.digits (some (16 * value.getD 0 + d))) rest := by
  obtain ⟨hvalue, hbrace⟩ := hexValue?_digitChar d h
  rw [readRest, hvalue, Option.bind_some]
  exact hbrace

/-- The hexadecimal digits of a number are read as the number. -/
theorem readRest_toDigits (n : Nat) (rest : Text) :
    readRest (.digits none) (Nat.toDigits 16 n ++ rest) = readRest (.digits (some n)) rest := by
  induction n using Nat.strongRecOn generalizing rest with
  | ind n ih =>
    by_cases hsmall : n < 16
    · rw [Nat.toDigits_of_lt_base hsmall, List.singleton_append, readRest_digit hsmall]
      simp
    · have hdigits := Nat.toDigits_of_base_le (by decide) (Nat.not_lt.1 hsmall)
      rw [hdigits, List.append_assoc, ih (n / 16) (by omega), List.singleton_append,
        readRest_digit (Nat.mod_lt n (by decide)), Option.getD_some, Nat.div_add_mod]

theorem charOf?_toNat (c : Char) : charOf? c.toNat = some c := by
  have hvalid : c.toNat.isValidChar := c.valid
  rw [charOf?, if_pos hvalid, Char.ofNat_toNat]

theorem readRest_encodeCodePoint (c : Char) (rest : Text) :
    readRest .content (encodeCodePoint c ++ rest) = (readRest .content rest).map (c :: ·) := by
  have hdigits := readRest_toDigits c.toNat ('\x7d' :: rest)
  simp only [encodeCodePoint, List.append_assoc]
  change readRest (.digits none) (Nat.toDigits 16 c.toNat ++ '\x7d' :: rest) = _
  rw [hdigits, readRest, Option.bind_some, charOf?_toNat, Option.bind_some]

/-! ### Characters -/

theorem isUnprintable_of_mem_lineEnds {c : Char} (h : c ∈ lineEnds) : isUnprintable c = true := by
  have hall : lineEnds.all isUnprintable = true := by decide +kernel
  exact List.all_eq_true.1 hall c h

/-- A character that needs no escape is read as it stands. -/
theorem readRest_plain {c : Char} (hquote : c ≠ '\"') (hslash : c ≠ '\\')
    (hprintable : isUnprintable c ≠ true) (rest : Text) :
    readRest .content (c :: rest) = (readRest .content rest).map (c :: ·) := by
  have hline : c ∉ lineEnds := fun h => hprintable (isUnprintable_of_mem_lineEnds h)
  have hstay : ¬(c = '\"' ∨ c ∈ lineEnds) := by simp [hquote, hline]
  rw [readRest, if_neg hstay]
  · rintro rfl
    exact absurd rfl hquote
  · exact hslash

/-- A NUL is read as itself unless a digit follows, any other character always. -/
theorem readRest_encodeChar (c : Char) (rest : Text) :
    readRest .content (encodeChar c ++ rest) =
      if c = '\x00' ∧ rest.head?.any Char.isDigit = true then none
      else (readRest .content rest).map (c :: ·) := by
  by_cases hnul : c = '\x00'
  · simp [hnul, encodeChar, readRest]
  rw [if_neg (fun h => hnul h.1), encodeChar, if_neg hnul]
  -- each escape of a single letter is one equation of the reader
  split_ifs with htab hreturn hnewline hquote hslash hunprintable
  · simp [htab, readRest]
  · simp [hreturn, readRest]
  · simp [hnewline, readRest]
  · simp [hquote, readRest]
  · simp [hslash, readRest]
  · exact readRest_encodeCodePoint c rest
  · exact readRest_plain hquote hslash hunprintable rest

/-! ### Digits in front -/

theorem encodeChar_of_isDigit {c : Char} (h : c.isDigit = true) : encodeChar c = [c] := by
  have hall : ∀ n < 58, 48 ≤ n → encodeChar (Char.ofNat n) = [Char.ofNat n] := by decide +kernel
  simp only [Char.isDigit, Bool.and_eq_true, decide_eq_true_eq, ge_iff_le,
    UInt32.le_iff_toNat_le] at h
  obtain ⟨hlow, hhigh⟩ : 48 ≤ c.toNat ∧ c.toNat ≤ 57 := h
  rw [← Char.ofNat_toNat c]
  exact hall _ (Nat.lt_succ_of_le hhigh) hlow

/-- A character is quoted with a digit in front exactly if it is one. -/
theorem encodeChar_head (c : Char) :
    ∃ d behind, encodeChar c = d :: behind ∧ d.isDigit = c.isDigit := by
  by_cases hdigit : c.isDigit = true
  · exact ⟨c, [], encodeChar_of_isDigit hdigit, rfl⟩
  rw [Bool.not_eq_true] at hdigit
  have hslash : '\\'.isDigit = c.isDigit := by rw [hdigit]; rfl
  unfold encodeChar
  split_ifs
  case pos | pos | pos | pos | pos | pos | pos => exact ⟨'\\', _, rfl, hslash⟩
  case neg => exact ⟨c, [], rfl, rfl⟩

/-- A text is quoted with a digit in front exactly if it starts with one. -/
theorem head?_flatMap_encodeChar (text : Text) :
    (text.flatMap encodeChar ++ ['\"']).head?.any Char.isDigit =
      text.head?.any Char.isDigit := by
  cases text with
  | nil => rfl
  | cons c text =>
    obtain ⟨d, behind, hc, hdigit⟩ := encodeChar_head c
    simpa [List.flatMap_cons, hc] using hdigit

/-- Reading back what is quoted gives the text, unless an octal escape came about. -/
theorem decode_encode (text : Text) :
    (HasOctal text → decode (encode text) = none) ∧
      (¬HasOctal text → decode (encode text) = some text) := by
  change (_ → readRest .content (text.flatMap encodeChar ++ ['\"']) = none) ∧
    (_ → readRest .content (text.flatMap encodeChar ++ ['\"']) = some text)
  induction text with
  | nil => simp [HasOctal, readRest]
  | cons c text ih =>
    rw [List.flatMap_cons, List.append_assoc, readRest_encodeChar, head?_flatMap_encodeChar,
      hasOctal_cons]
    split_ifs with hoctal
    · exact ⟨fun _ => rfl, fun h => absurd (.inl hoctal) h⟩
    · refine ⟨fun h => ?_, fun h => ?_⟩
      · rw [ih.1 (h.resolve_left hoctal), Option.map_none]
      · rw [ih.2 (fun hrest => h (.inr hrest)), Option.map_some]

end SqlModels.Text.Quoted
