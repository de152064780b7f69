import Mathlib.Tactic.Simproc.ExistsAndEq
import SqlModels.Sql.Parser.Basic

namespace SqlModels.Sql

variable {α β : Type}

namespace Parser

theorem bind_eq_ok {p : Parser α} {f : α → Parser β} {ts rest : List Located} {b : β} :
    (p >>= f) ts = .ok b rest ↔ ∃ a behind, p ts = .ok a behind ∧ f a behind = .ok b rest := by
  simp only [bind, EStateM.bind]
  cases p ts <;> simp

theorem bind_eq_error {p : Parser α} {f : α → Parser β} {ts rest : List Located} {fault : Fault} :
    (p >>= f) ts = .error fault rest ↔ p ts = .error fault rest ∨
      ∃ a behind, p ts = .ok a behind ∧ f a behind = .error fault rest := by
  simp only [bind, EStateM.bind]
  cases p ts <;> simp

/-- The number of tokens left is read off, and none is taken. -/
theorem remaining_bind_eq_ok {f : Nat → Parser β} {ts rest : List Located} {b : β} :
    (remaining >>= f) ts = .ok b rest ↔
      f (ts.countP fun t => !t.token.is .PRECISION) ts = .ok b rest :=
  Iff.rfl

theorem map_eq_ok {p : Parser α} {g : α → β} {ts rest : List Located} {b : β} :
    (g <$> p) ts = .ok b rest ↔ ∃ a, p ts = .ok a rest ∧ g a = b := by
  simp only [Functor.map, EStateM.map]
  cases p ts <;> simp [and_comm]

theorem ite_eq_ok {c : Prop} [Decidable c] {p q : Parser α} {ts rest : List Located} {a : α} :
    (if c then p else q) ts = .ok a rest ↔
      if c then p ts = .ok a rest else q ts = .ok a rest := by
  split <;> rfl

theorem orAbort_eq_ok {p : Parser α} {ts rest : List Located} {a : α} :
    orAbort p ts = .ok a rest ↔ p ts = .ok a rest := by
  unfold orAbort
  cases p ts <;> simp

theorem tolerate_eq_some {p : Parser α} {ts rest : List Located} {a : α} :
    tolerate p ts = .ok (some a) rest ↔ p ts = .ok a rest := by
  unfold tolerate
  split <;> simp_all

theorem tolerate_eq_none {p : Parser α} {ts rest : List Located} :
    tolerate p ts = .ok none rest ↔ ∃ fault, p ts = .error fault rest ∧ fault ≠ .abort := by
  unfold tolerate
  cases h : p ts with
  | ok a behind => simp
  | error fault behind => cases fault <;> simp [eq_comm]

theorem tolerate_eq_error {p : Parser α} {ts rest : List Located} {fault : Fault} :
    tolerate p ts = .error fault rest ↔ fault = .abort ∧ p ts = .error .abort rest := by
  unfold tolerate
  cases h : p ts with
  | ok a behind => simp
  | error found behind => cases found <;> simp [eq_comm]

theorem attempt_eq_some {p : Parser α} {ts rest : List Located} {a : α} :
    attempt p ts = .ok (some a) rest ↔ p ts = .ok a rest := by
  unfold attempt
  split
  · next h => 
    rw [← tolerate_eq_some, h]
    simp
  · exact tolerate_eq_some

theorem attempt_eq_none {p : Parser α} {ts rest : List Located} :
    attempt p ts = .ok none rest ↔
      rest = ts ∧ ∃ fault behind, p ts = .error fault behind ∧ fault ≠ .abort := by
  unfold attempt tolerate
  cases h : p ts with
  | ok a behind => simp
  | error fault behind => cases fault <;> simp [eq_comm]

theorem attempt_eq_error {p : Parser α} {ts rest : List Located} {fault : Fault} :
    attempt p ts = .error fault rest ↔ fault = .abort ∧ p ts = .error .abort rest := by
  rw [← tolerate_eq_error]
  unfold attempt
  split <;> simp_all

theorem orAbort_eq_error {p : Parser α} {ts rest : List Located} {fault : Fault} :
    orAbort p ts = .error fault rest ↔ fault = .abort ∧ ∃ found, p ts = .error found rest := by
  unfold orAbort
  cases p ts <;> simp [eq_comm]

theorem identifier_nil : identifier [] = .error (.unexpected .identifier none) [] := rfl

theorem identifier_cons (t : Located) (ts : List Located) :
    identifier (t :: ts) = match identOf? t.token with
      | some i => .ok i ts
      | none => .error (.unexpected .identifier (some t)) ts := by
  simp only [identifier, bind, EStateM.bind, next, List.head?_cons, List.tail_cons,
    Option.bind_some]
  cases identOf? t.token <;> rfl

theorem bind_of_ok {p : Parser α} {f : α → Parser β} {ts behind : List Located} {a : α}
    (h : p ts = .ok a behind) : (p >>= f) ts = f a behind := by
  simp only [bind, EStateM.bind, h]

theorem bind_of_error {p : Parser α} {f : α → Parser β} {ts behind : List Located} {fault : Fault}
    (h : p ts = .error fault behind) : (p >>= f) ts = .error fault behind := by
  simp only [bind, EStateM.bind, h]

theorem next_cons (t : Located) (ts : List Located) : next (t :: ts) = .ok (some t) ts := rfl

theorem symbol?_pos {x : Symbol} {t : Located} (h : t.token = .symbol x) (ts : List Located) :
    symbol? x (t :: ts) = .ok true ts := by
  simp only [symbol?, h, if_true]

theorem symbol?_neg {x : Symbol} {t : Located} (h : t.token ≠ .symbol x) (ts : List Located) :
    symbol? x (t :: ts) = .ok false (t :: ts) := by
  simp only [symbol?, if_neg h]

theorem symbol?_ne_error {x : Symbol} {ts rest : List Located} {fault : Fault} :
    symbol? x ts ≠ .error fault rest := by
  cases ts with
  | nil => simp [symbol?]
  | cons t ts => by_cases ht : t.token = .symbol x <;> simp [symbol?, ht]

theorem symbol?_true {x : Symbol} {ts rest : List Located} (h : symbol? x ts = .ok true rest) :
    ∃ t, ts = t :: rest ∧ t.token = .symbol x := by
  cases ts with
  | nil => exact nomatch h
  | cons t ts =>
    simp only [symbol?] at h
    split at h
    · next ht => exact ⟨t, by rw [(EStateM.Result.ok.inj h).2], ht⟩
    · exact nomatch h

theorem symbol?_false {x : Symbol} {ts rest : List Located} (h : symbol? x ts = .ok false rest) :
    rest = ts := by
  cases ts with
  | nil => exact (EStateM.Result.ok.inj h).2.symm
  | cons t ts =>
    simp only [symbol?] at h
    split at h
    · exact nomatch h
    · exact (EStateM.Result.ok.inj h).2.symm

theorem pure_eq_ok {ts rest : List Located} {a b : α} :
    (pure a : Parser α) ts = .ok b rest ↔ a = b ∧ ts = rest := by
  simp [pure, EStateM.pure]

theorem expectSymbol_ok {x : Symbol} {u : Unit} {ts rest : List Located}
    (h : expectSymbol x ts = .ok u rest) : ∃ t, ts = t :: rest ∧ t.token = .symbol x := by
  obtain ⟨found, behind, hfound, h⟩ := bind_eq_ok.1 h
  cases found with
  | true =>
    obtain ⟨-, rfl⟩ := pure_eq_ok.1 h
    exact symbol?_true hfound
  | false => exact nomatch h

end Parser

end SqlModels.Sql
