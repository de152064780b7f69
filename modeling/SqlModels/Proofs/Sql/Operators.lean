import SqlModels.Proofs.Sql.Operands

-- A rule of many steps is a large instance.
set_option synthInstance.maxSize 1000

namespace SqlModels.Sql

open SqlModels.Sql.Parser

/-- No operator goes over a closed seam. -/
theorem Seam.Ahead.continuation {s : Seam} [s.Closed] {ts ts' : List Located}
    (h : s.Ahead ts ts') : Continuation.ofFront ts = Continuation.ofFront ts' := by
  cases h with
  | here =>
    rcases s.closed_cases with ⟨hl, hr⟩ | ⟨⟨token, place⟩, ts, ⟨_, place'⟩, ts', hl, hr, ht, hstop⟩
    · rw [hl, hr]
    · rw [hl, hr]
      obtain rfl : token = _ := ht
      rcases hstop with h | h <;> (obtain rfl := h; rfl)
  | @there t t' ts ts' h _ hts =>
    obtain ⟨token, place⟩ := t
    obtain ⟨token', place'⟩ := t'
    obtain rfl : token = token' := h
    cases token with
    | word w =>
      simp only [Continuation.ofFront, Continuation.ofWord, hts.startsWith]
      cases ts with
      | nil => rw [hts.nil]
      | cons u us =>
        obtain ⟨u', us', rfl, hu⟩ := hts.cons
        simp only [hu]
    | _ => rfl

namespace Follows

variable {s : Seam} {α : Type} {p p' : Parser α}

instance [s.Closed] : Follows s continuation continuation :=
  of_look fun hts => hts.continuation

instance [hp : Follows s p p'] : Follows s (taking p) (taking p') :=
  .next hp fun _ _ _ => hp

variable [s.Closed] {inner inner' : Inner} [Inner.Follows s inner inner']

instance (e : Expr) : Follows s (timeZoneOf e) (timeZoneOf e) := by
  unfold timeZoneOf
  refine .bind inferInstance fun _ => .bind inferInstance fun _ => ?_
  refine .next (inferInstanceAs (Follows s (unexpected _ _) (unexpected _ _))) fun token _ _ => ?_
  simp only [Option.map_some]
  split <;> infer_instance

instance : Follows s escape? escape? := by
  have hcharacter (place place' : Option Position) :
      Follows s (literalString >>= fun content => match content with
        | [c] => if c.toNat < 0x80 then return [Expr.verbatim ['\'', c, '\'']]
          else throw (.noCharacter [c] place)
        | _ => throw (.noCharacter content place))
      (literalString >>= fun content => match content with
        | [c] => if c.toNat < 0x80 then return [Expr.verbatim ['\'', c, '\'']]
          else throw (.noCharacter [c] place')
        | _ => throw (.noCharacter content place')) := by
    refine .bind inferInstance fun content => ?_
    split <;> infer_instance
  unfold escape? clause?
  refine .bind inferInstance fun _ => .ite (.bind ?_ fun _ => inferInstance) inferInstance
  exact .peek (hcharacter none none) fun _ place place' => hcharacter (some place) (some place')

instance (e : Expr) : Follows s (truthTest inner e) (truthTest inner' e) := by
  unfold truthTest
  iterate 8 refine .bind inferInstance fun _ => .ite inferInstance ?_
  infer_instance

instance : Follows s (members inner) (members inner') := by
  unfold members
  infer_instance

instance : Follows s (range inner) (range inner') := by
  unfold range
  infer_instance

instance : Follows s (pattern inner) (pattern inner') := by
  unfold pattern
  infer_instance

instance (e : Expr) : Follows s (predicate inner e) (predicate inner' e) := by
  unfold predicate
  refine .bind inferInstance fun _ => .bind inferInstance fun parts => ?_
  cases parts <;> infer_instance

instance : Follows s (subscriptKey inner) (subscriptKey inner') := by
  unfold subscriptKey
  refine .next (inferInstanceAs (Follows s (unexpected _ _ >>= _) (unexpected _ _ >>= _)))
    fun token _ _ => ?_
  simp only [Option.map_some]
  rcases token with w | _ | ⟨kind, _⟩ | _ | _ | _ | _ <;> try cases kind
  all_goals infer_instance

theorem subscriptKeysUpTo (count : Nat) :
    Follows s (subscriptKeysUpTo inner count) (subscriptKeysUpTo inner' count) := by
  induction count with
  | zero =>
    unfold Parser.subscriptKeysUpTo
    infer_instance
  | succ count ih =>
    unfold Parser.subscriptKeysUpTo
    infer_instance

instance (e : Expr) : Follows s (subscriptOf inner e) (subscriptOf inner' e) := by
  unfold subscriptOf
  refine .bind inferInstance fun count => .bind (subscriptKeysUpTo count) fun keys => ?_
  split <;> infer_instance

instance (e : Expr) (op : BinaryOp) (strength : Nat) (all : Bool) (place place' : Position) :
    Follows s (quantifiedOf inner e op strength all place)
      (quantifiedOf inner' e op strength all place') := by
  unfold quantifiedOf
  infer_instance

instance (e : Expr) (op : BinaryOp) (strength : Nat) (place place' : Position) :
    Follows s (operatorOf inner e op strength place) (operatorOf inner' e op strength place') := by
  unfold operatorOf
  infer_instance

instance (e : Expr) (place place' : Position) (c : Continuation) :
    Follows s (continueWith inner e place c) (continueWith inner' e place' c) := by
  cases c <;> (simp only [continueWith]; infer_instance)

theorem continuationsUpTo (reach : Reach) (count : Nat) (e : Expr) :
    Follows s (continuationsUpTo inner reach count e) (continuationsUpTo inner' reach count e) := by
  induction count generalizing e with
  | zero =>
    unfold Parser.continuationsUpTo
    infer_instance
  | succ count ih =>
    unfold Parser.continuationsUpTo
    refine .bind inferInstance fun c => .peek inferInstance fun _ place place' => ?_
    exact .ite (.bind inferInstance ih) inferInstance

end Follows

end SqlModels.Sql
