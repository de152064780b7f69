import SqlModels.Proofs.Sql.Folding
import SqlModels.Proofs.Sql.TypedStrings

-- A rule of many steps is a large instance.
set_option synthInstance.maxSize 1000

namespace SqlModels.Sql

open SqlModels.Sql.Parser

namespace Follows

variable {s : Seam}

theorem partsUpTo (count : Nat) : Follows s (partsUpTo count) (partsUpTo count) := by
  induction count with
  | zero =>
    unfold Parser.partsUpTo
    infer_instance
  | succ count ih =>
    unfold Parser.partsUpTo
    refine .bind inferInstance fun _ => .ite ?_ inferInstance
    refine .next (inferInstanceAs (Follows s (unexpected _ _) (unexpected _ _))) fun token _ _ => ?_
    simp only [Option.map_some]
    split <;> infer_instance

variable [s.Closed] {inner inner' : Inner} [Inner.Follows s inner inner']

instance : Follows s (typedString inner) (typedString inner') := by
  unfold typedString
  refine .bind inferInstance fun type => ?_
  split <;> infer_instance

instance : Follows s (tuple inner) (tuple inner') := by
  unfold tuple
  refine .bind inferInstance fun _ => .bind inferInstance fun _ => .ite ?_ inferInstance
  refine .next (inferInstanceAs (Follows s (unexpected _ _) (unexpected _ _))) fun token _ _ => ?_
  simp only [Option.map_some]
  split <;> infer_instance

instance (named : Bool) : Follows s (array inner named) (array inner' named) := by
  unfold array
  infer_instance

instance : Follows s (negation inner) (negation inner') := by
  unfold negation
  infer_instance

instance : Rules s (wordRules inner) (wordRules inner') := by
  unfold wordRules
  infer_instance

instance (i : Ident) : Follows s (bareCall inner i) (bareCall inner' i) := by
  unfold bareCall
  refine .bind inferInstance fun _ => .ite (.bind inferInstance fun _ => ?_) inferInstance
  split
  infer_instance

instance (w : Word) : Follows s (nameOrCall inner w) (nameOrCall inner' w) := by
  unfold nameOrCall
  have hparts (f f' : Name → Parser Expr) (hf : ∀ n, Follows s (f n) (f' n)) :
      Follows s (remaining >>= fun count => Parser.partsUpTo count >>= f)
        (remaining >>= fun count => Parser.partsUpTo count >>= f') :=
    .bind inferInstance fun count => .bind (partsUpTo count) hf
  refine .peek (inferInstanceAs (Follows s (pure _) (pure _))) fun token _ _ => ?_
  cases token with
  | symbol x => cases x <;> first | infer_instance | exact hparts _ _ fun _ => inferInstance
  | quoted kind content => exact .ite (.next inferInstance fun _ _ _ => inferInstance) inferInstance
  | _ => exact inferInstanceAs (Follows s (pure _) (pure _))

instance (w : Word) : Follows s (wordExpr inner w) (wordExpr inner' w) := by
  unfold wordExpr
  have hrules : Rules s (wordRules inner) (wordRules inner') := inferInstance
  rcases hrules.find w with ⟨h, h'⟩ | ⟨k, p, p', hp, h, h'⟩
  · rw [h, h']
    have hnext : Follows s (Parser.next >>= fun _ => array inner true)
        (Parser.next >>= fun _ => array inner' true) :=
      .next inferInstance fun _ _ _ => inferInstance
    infer_instance
  · rw [h, h']
    exact hp

instance : Follows s (plainOperand inner) (plainOperand inner') := by
  unfold plainOperand
  refine .next (inferInstanceAs (Follows s (unexpected _ _) (unexpected _ _))) fun token _ _ => ?_
  simp only [Option.map_some]
  split
  all_goals
    first
    | infer_instance
    | exact inferInstanceAs (Follows s (unexpected _ _) (unexpected _ _))
    | skip
  split <;> infer_instance

end Follows

/-- What a typed string is where its type is no custom type and no interval. -/
theorem typedString_eq {inner : Inner} {type : DataType} {ts behind : List Located}
    (h : dataType ts = .ok type behind) (hcustom : ∀ n modifiers, type ≠ .custom n modifiers)
    (hinterval : type ≠ .plain .interval) :
    typedString inner ts = (literalString >>= fun text => return .typed type text) behind := by
  rw [typedString, bind_of_ok h]
  cases type with
  | custom n modifiers => exact absurd rfl (hcustom n modifiers)
  | plain kind => cases kind <;> first | exact absurd rfl hinterval | rfl
  | _ => rfl

theorem wordExpr_interval (inner : Inner) {w : Word} (h : w.is .INTERVAL) :
    wordExpr inner w = interval inner := by
  have hword : (Token.word w).is .INTERVAL = true := h
  have hother (k : Keyword) (hk : Keyword.INTERVAL.name.toList ≠ k.name.toList) : w.is k = false :=
    Token.is_of_name_ne hword hk
  have hfind : (wordRules inner).find? (fun rule => w.is rule.1) =
      some (.INTERVAL, interval inner) := by
    simp (disch := decide) only [wordRules, List.find?_cons, hother, h]
  rw [wordExpr, hfind]

/-- Without a typed string in front, none is read, and the failure is not an unrecoverable one. -/
theorem typedString_fails {inner : Inner} {ts : List Located} (h : ¬Typed ts) :
    ∃ fault rest, typedString inner ts = .error fault rest ∧ fault ≠ .abort := by
  cases hd : dataType ts with
  | error fault rest =>
    refine ⟨fault, rest, bind_of_error hd, ?_⟩
    rintro rfl
    exact Calm.calm _ _ hd
  | ok type behind =>
    by_cases hinterval : type = .plain .interval
    · exact absurd ⟨type, behind, hd, .inl hinterval⟩ h
    by_cases hcustom : ∀ n modifiers, type ≠ .custom n modifiers
    · rw [typedString_eq hd hcustom hinterval]
      cases hl : literalString behind with
      | ok text rest => exact absurd ⟨type, behind, hd, .inr ⟨hcustom, text, rest, hl⟩⟩ h
      | error fault rest =>
        refine ⟨fault, rest, bind_of_error hl, ?_⟩
        rintro rfl
        exact Calm.calm _ _ hl
    · push Not at hcustom
      obtain ⟨n, modifiers, rfl⟩ := hcustom
      exact ⟨_, _, by rw [typedString, bind_of_ok hd]; rfl, by simp⟩

/-- Where an operand is read after a typed string has failed, none stands in front: an interval
would fail both times. -/
theorem not_typed {inner : Inner} {ts behind rest : List Located} {fault : Fault} {e : Expr}
    (hfails : typedString inner ts = .error fault behind) (h : plainOperand inner ts = .ok e rest) :
    ¬Typed ts := by
  rintro ⟨type, behind, htype, hliteral⟩
  by_cases hinterval : type = .plain .interval
  · subst hinterval
    obtain ⟨w, place, rfl, hw⟩ := dataType_interval htype
    rw [typedString, bind_of_ok htype] at hfails
    rw [plainOperand, bind_of_ok (next_cons _ _), Option.map_some] at h
    replace h : wordExpr inner w behind = _ := h
    rw [wordExpr_interval inner hw] at h
    exact nomatch h.symm.trans hfails
  · obtain ⟨hcustom, text, r, hl⟩ := hliteral.resolve_left hinterval
    rw [typedString_eq htype hcustom hinterval, bind_of_ok hl] at hfails
    exact nomatch hfails

namespace Follows

variable {s : Seam} [s.Closed] {inner inner' : Inner} [Inner.Follows s inner inner']

/-- Where no typed string is read, none stands in front of the second list either. -/
instance [hs : s.Settled] : Follows s (anyOperand inner) (anyOperand inner') := by
  let plain (inner : Inner) : Parser Expr := do
    let e ← plainOperand inner
    if ← keyword? .COLLATE then return .collate e (← name) else return e
  have hplain : Follows s (plain inner) (plain inner') := by
    dsimp only [plain]
    infer_instance
  refine ⟨fun {ts e rest} h => ?_, fun {ts ts' e rest} hts h hleft => ?_, fun hfinish => ?_⟩
  · obtain ⟨found, behind, hfound, hrest⟩ := bind_eq_ok.1 h
    cases found with
    | some e =>
      obtain ⟨-, rfl⟩ := pure_eq_ok.1 hrest
      exact takes (s := s) (q := typedString inner') (attempt_eq_some.1 hfound)
    | none =>
      obtain ⟨rfl, -⟩ := attempt_eq_none.1 hfound
      exact hplain.takes hrest
  · obtain ⟨found, behind, hfound, hrest⟩ := bind_eq_ok.1 h
    cases found with
    | some e =>
      obtain ⟨rfl, rfl⟩ := pure_eq_ok.1 hrest
      obtain ⟨rest', h', hrest⟩ :=
        follows (q := typedString inner') hts (attempt_eq_some.1 hfound) hleft
      exact ⟨rest', bind_eq_ok.2 ⟨some e, rest', attempt_eq_some.2 h', rfl⟩, hrest⟩
    | none =>
      obtain ⟨rfl, fault, behind, hfails, -⟩ := attempt_eq_none.1 hfound
      obtain ⟨e₀, behind₀, he₀, -⟩ := bind_eq_ok.1 hrest
      have htyped : ¬Typed ts' := fun h => not_typed hfails he₀ (hs.typed hts h)
      obtain ⟨rest', h', hrest⟩ := hplain.follows hts hrest hleft
      exact ⟨rest', bind_eq_ok.2 ⟨none, ts', attempt_eq_none.2 ⟨rfl, typedString_fails htyped⟩, h'⟩,
        hrest⟩
  · subst hfinish
    have hoperand : Follows .finish (anyOperand inner) (anyOperand inner') := by
      unfold anyOperand
      refine .bind (attempt_finish inferInstance) fun found => ?_
      cases found with
      | some e => infer_instance
      | none => exact hplain
    intro ts ts' fault rest hts h
    exact hoperand.breaks rfl hts h

end Follows

end SqlModels.Sql
