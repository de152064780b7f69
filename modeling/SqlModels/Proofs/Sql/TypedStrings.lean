import SqlModels.Proofs.Sql.Expressions

/-!
Typed strings over a closed seam. An operand is tried as a typed string first, so two lists are read
alike only if neither has a typed string where the other has none. A type hardly ever goes over a
comma: only the modifiers of a custom type do, which takes an array of such a type.
-/

-- A rule of many steps is a large instance.
set_option synthInstance.maxSize 1000

namespace SqlModels.Sql

open SqlModels.Sql.Parser

variable {α β : Type}

/-- A parser none of whose failures is unrecoverable. -/
class Calm (p : Parser α) : Prop where
  calm : ∀ ts rest, p ts ≠ .error .abort rest

namespace Calm

variable {p q : Parser α}

theorem bind {f : α → Parser β} (hp : Calm p) (hf : ∀ a, Calm (f a)) : Calm (p >>= f) where
  calm ts rest h := by
    simp only [Bind.bind, EStateM.bind] at h
    split at h
    · exact (hf _).calm _ _ h
    · next hp' =>
      obtain ⟨rfl, rfl⟩ := EStateM.Result.error.inj h
      exact hp.calm _ _ hp'

instance {f : α → Parser β} [hp : Calm p] [hf : ∀ a, Calm (f a)] : Calm (p >>= f) :=
  .bind hp hf

instance (a : α) : Calm (pure a) := ⟨fun _ _ h => nomatch h⟩

instance : Calm peek := ⟨fun _ _ h => nomatch h⟩

instance : Calm next := ⟨fun _ _ h => nomatch h⟩

instance : Calm remaining := ⟨fun _ _ h => nomatch h⟩

instance (x : Symbol) : Calm (atSymbol x) := ⟨fun _ _ h => nomatch h⟩

instance (wanted : Expectation) (found : Option Located) :
    Calm (unexpected wanted found : Parser α) :=
  ⟨fun _ _ h => nomatch h⟩

instance (wanted : Expectation) : Calm (expected wanted : Parser α) := ⟨fun _ _ h => nomatch h⟩

theorem ite {c : Prop} [Decidable c] (hp : Calm p) (hq : Calm q) : Calm (if c then p else q) := by
  split
  · exact hp
  · exact hq

instance {c : Prop} [Decidable c] [hp : Calm p] [hq : Calm q] : Calm (if c then p else q) :=
  .ite hp hq

instance (x : Symbol) : Calm (symbol? x) where
  calm ts rest h := by
    cases ts with
    | nil => exact nomatch h
    | cons t ts =>
      simp only [symbol?] at h
      split at h <;> exact nomatch h

instance (x : Symbol) : Calm (expectSymbol x) := by
  unfold expectSymbol
  infer_instance

instance [Calm p] : Calm (parenthesized p) := by
  unfold parenthesized
  infer_instance

instance (ks : List Keyword) : Calm (keywords? ks) where
  calm ts rest h := by
    unfold keywords? at h
    split at h <;> exact nomatch h

instance (k : Keyword) : Calm (keyword? k) :=
  inferInstanceAs (Calm (keywords? [k]))

instance (k : Keyword) : Calm (expectKeyword k) := by
  unfold expectKeyword
  infer_instance

theorem readInteger_ne_abort (written : Text) (value : Nat) (digits : Text) :
    readInteger written value digits ≠ .error .abort := by
  induction digits generalizing value with
  | nil => simp [readInteger]
  | cons c digits ih =>
    simp only [readInteger]
    split
    · split
      · exact ih _
      · simp
    · simp

instance : Calm integer := by
  refine .bind inferInstance fun found => ?_
  split
  · next digits _ _ =>
    split
    · infer_instance
    · next fault h =>
      refine ⟨fun ts rest h' => readInteger_ne_abort digits 0 digits ?_⟩
      rw [h, (EStateM.Result.error.inj h').1]
  · infer_instance

instance : Calm identifier := by
  refine .bind inferInstance fun found => ?_
  split <;> infer_instance

theorem nameUpTo (count : Nat) : Calm (nameUpTo count) := by
  induction count with
  | zero =>
    unfold Parser.nameUpTo
    infer_instance
  | succ count ih =>
    unfold Parser.nameUpTo
    infer_instance

instance : Calm name :=
  .bind inferInstance nameUpTo

instance : Calm literalString := by
  refine .bind inferInstance fun found => ?_
  split <;> infer_instance

instance : Calm size? := by
  unfold size?
  infer_instance

instance (kind : IntegerKind) : Calm (integerType kind) := by
  unfold integerType
  infer_instance

instance : Calm decimalSize := by
  unfold decimalSize
  infer_instance

instance (kind : DecimalKind) : Calm (decimalType kind) := by
  unfold decimalType
  infer_instance

instance : Calm characterLength := by
  unfold characterLength lengthUnit?
  infer_instance

instance (kind : CharacterKind) : Calm (characterType kind) := by
  unfold characterType
  infer_instance

instance (kind : SizedKind) : Calm (sizedType kind) := by
  unfold sizedType
  infer_instance

instance (fixed varying : CharacterKind) (large : SizedKind) :
    Calm (charType fixed varying large) := by
  unfold charType
  infer_instance

instance (kind : ClockKind) : Calm (clockType kind) := by
  unfold clockType timeZone
  infer_instance

instance : Calm readValues where
  calm ts rest h := by
    fun_induction readValues ts with
    | case5 t u ts content ht hu fault behind hr ih =>
      obtain ⟨rfl, rfl⟩ := EStateM.Result.error.inj h
      exact ih hr
    | _ => exact nomatch h

instance : Calm Parser.values := by
  unfold Parser.values
  infer_instance

instance : Calm readModifiers where
  calm ts rest h := by
    fun_induction readModifiers ts with
    | case3 t ts ht hc ih => exact ih h
    | case6 t ts ht hc m hm fault behind hr ih =>
      obtain ⟨rfl, rfl⟩ := EStateM.Result.error.inj h
      exact ih hr
    | _ => exact nomatch h

instance : Calm customType := by
  unfold customType
  infer_instance

theorem typeRules {element : Parser DataType} [Calm element] :
    ∀ r ∈ Parser.typeRules element, Calm r.2 := by
  simp only [Parser.typeRules, arrayType, List.forall_mem_cons]
  repeat' apply And.intro
  all_goals first | infer_instance | exact fun _ h => nomatch h

instance {element : Parser DataType} [Calm element] : Calm (baseType element) := by
  refine .bind inferInstance fun found => ?_
  split
  · split
    · next h => exact .bind inferInstance fun _ => typeRules _ (List.mem_of_find?_eq_some h)
    · infer_instance
  · infer_instance

theorem bracketsUpTo (count : Nat) (type : DataType) : Calm (bracketsUpTo count type) := by
  induction count generalizing type with
  | zero =>
    unfold Parser.bracketsUpTo
    infer_instance
  | succ count ih =>
    unfold Parser.bracketsUpTo
    infer_instance

theorem dataTypeUpTo (depth : Nat) : Calm (dataTypeUpTo depth) := by
  induction depth with
  | zero => exact ⟨fun _ _ h => nomatch h⟩
  | succ depth ih =>
    unfold Parser.dataTypeUpTo
    exact .bind inferInstance fun type => .bind inferInstance fun count => bracketsUpTo count type

instance : Calm dataType :=
  .bind inferInstance fun count => dataTypeUpTo (count + 1)

end Calm

/-- A list that starts with a comma or a semicolon, behind which no part of a type goes on. -/
class Barrier (ts : List Located) : Prop where
  stops : ∃ t rest, ts = t :: rest ∧ (t.token = .symbol .comma ∨ t.token = .symbol .semicolon)
  /-- No number stands behind a comma. -/
  number : ∀ t u rest, ts = t :: u :: rest → t.token = .symbol .comma →
    ∀ digits long, u.token ≠ .number digits long
  /-- No string stands alone behind a comma. -/
  string : ∀ t u v rest, ts = t :: u :: v :: rest → t.token = .symbol .comma →
    ∀ content, u.token = .quoted .single content → ∃ w, v.token = .word w

/-- A parser that does not go over a barrier. -/
class Stops (barrier : List Located) (p : Parser α) : Prop where
  stops : ∀ {ts a rest}, barrier <:+ ts → p ts = .ok a rest → barrier <:+ rest

/-- Symbols at which no barrier starts. -/
class Symbol.Inner (x : Symbol) : Prop where
  inner : x ≠ .comma ∧ x ≠ .semicolon

instance : Symbol.Inner .leftParen := ⟨by decide⟩
instance : Symbol.Inner .rightParen := ⟨by decide⟩
instance : Symbol.Inner .leftBracket := ⟨by decide⟩
instance : Symbol.Inner .rightBracket := ⟨by decide⟩
instance : Symbol.Inner .less := ⟨by decide⟩
instance : Symbol.Inner .greater := ⟨by decide⟩
instance : Symbol.Inner .period := ⟨by decide⟩

theorem Barrier.tail {barrier ts : List Located} {t : Located} (hb : Barrier barrier)
    (h : barrier <:+ t :: ts)
    (ht : t.token ≠ .symbol .comma ∧ t.token ≠ .symbol .semicolon) : barrier <:+ ts := by
  rcases List.suffix_cons_iff.1 h with rfl | h
  · obtain ⟨u, rest, he, hu⟩ := hb.stops
    obtain ⟨rfl, rfl⟩ := List.cons.inj he
    simp [ht] at hu
  · exact h

namespace Stops

variable {barrier : List Located} {p q : Parser α}

theorem bind {f : α → Parser β} (hp : Stops barrier p) (hf : ∀ a, Stops barrier (f a)) :
    Stops barrier (p >>= f) where
  stops hts h := by
    obtain ⟨a, behind, h₁, h₂⟩ := bind_eq_ok.1 h
    exact (hf a).stops (hp.stops hts h₁) h₂

instance {f : α → Parser β} [hp : Stops barrier p] [hf : ∀ a, Stops barrier (f a)] :
    Stops barrier (p >>= f) :=
  .bind hp hf

instance (a : α) : Stops barrier (pure a) := ⟨fun hts h => (pure_eq_ok.1 h).2 ▸ hts⟩

/-- A parser that never reads anything stops before everything. -/
theorem of_never (h : ∀ ts a rest, p ts ≠ .ok a rest) : Stops barrier p :=
  ⟨fun _ hp => absurd hp (h _ _ _)⟩

instance (wanted : Expectation) : Stops barrier (expected wanted : Parser α) :=
  of_never fun _ _ _ h => nomatch h

theorem ite {c : Prop} [Decidable c] (hp : Stops barrier p) (hq : Stops barrier q) :
    Stops barrier (if c then p else q) := by
  split
  · exact hp
  · exact hq

instance {c : Prop} [Decidable c] [hp : Stops barrier p] [hq : Stops barrier q] :
    Stops barrier (if c then p else q) :=
  .ite hp hq

instance (x : Symbol) : Stops barrier (atSymbol x) :=
  ⟨fun hts h => (EStateM.Result.ok.inj h).2 ▸ hts⟩

instance : Stops barrier remaining :=
  ⟨fun hts h => (EStateM.Result.ok.inj h).2 ▸ hts⟩

variable [hb : Barrier barrier]

instance (x : Symbol) [hx : x.Inner] : Stops barrier (symbol? x) where
  stops {ts a rest} hts h := by
    cases ts with
    | nil => exact (EStateM.Result.ok.inj h).2 ▸ hts
    | cons t ts =>
      simp only [symbol?] at h
      split at h
      · next ht =>
        obtain ⟨-, rfl⟩ := EStateM.Result.ok.inj h
        exact hb.tail hts (by simpa [ht] using hx.inner)
      · exact (EStateM.Result.ok.inj h).2 ▸ hts

instance (x : Symbol) [x.Inner] : Stops barrier (expectSymbol x) := by
  unfold expectSymbol
  infer_instance

instance [Stops barrier p] : Stops barrier (parenthesized p) := by
  unfold parenthesized
  infer_instance

/-- Keywords are words, and no barrier starts with a word. -/
theorem of_startsWith {ks : List Keyword} {ts : List Located} (hts : barrier <:+ ts)
    (h : startsWith ks ts) : barrier <:+ ts.drop ks.length := by
  induction ks generalizing ts with
  | nil => exact hts
  | cons k ks ih =>
    cases ts with
    | nil => simp [startsWith] at h
    | cons t ts =>
      simp only [startsWith, Bool.and_eq_true] at h
      refine ih (hb.tail hts ⟨fun ht => ?_, fun ht => ?_⟩) h.2 <;> simp [ht, Token.is] at h

instance (ks : List Keyword) : Stops barrier (keywords? ks) where
  stops hts h := by
    unfold keywords? at h
    split at h
    · next hks => exact (EStateM.Result.ok.inj h).2 ▸ of_startsWith hts hks
    · exact (EStateM.Result.ok.inj h).2 ▸ hts

instance (k : Keyword) : Stops barrier (keyword? k) :=
  inferInstanceAs (Stops barrier (keywords? [k]))

instance (k : Keyword) : Stops barrier (expectKeyword k) := by
  unfold expectKeyword
  infer_instance

instance : Stops barrier identifier where
  stops {ts i rest} hts h := by
    cases ts with
    | nil => exact nomatch h
    | cons t ts =>
      rw [identifier_cons] at h
      split at h
      · next hi =>
        obtain ⟨-, rfl⟩ := EStateM.Result.ok.inj h
        refine hb.tail hts ⟨fun ht => ?_, fun ht => ?_⟩ <;> simp [ht, identOf?] at hi
      · exact nomatch h

theorem integer_cons_eq_ok {t : Located} {ts rest : List Located} {n : Nat}
    (h : integer (t :: ts) = .ok n rest) :
    rest = ts ∧ ∃ digits long, t.token = .number digits long := by
  obtain ⟨token, place⟩ := t
  rw [integer, bind_of_ok (next_cons _ _)] at h
  cases token with
  | number digits long =>
    cases hr : readInteger digits 0 digits with
    | ok n => 
      simp only [hr] at h
      exact ⟨(pure_eq_ok.1 h).2.symm, digits, long, rfl⟩
    | error fault => simp only [hr] at h; exact nomatch h
  | _ => exact nomatch h

instance : Stops barrier integer where
  stops {ts n rest} hts h := by
    cases ts with
    | nil => exact nomatch h
    | cons t ts =>
      obtain ⟨rfl, digits, long, ht⟩ := integer_cons_eq_ok h
      exact hb.tail hts (by simp [ht])

instance : Stops barrier literalString where
  stops {ts text rest} hts h := by
    cases ts with
    | nil => exact nomatch h
    | cons t ts =>
      obtain ⟨token, place⟩ := t
      rw [literalString, bind_of_ok (next_cons _ _), Option.map_some] at h
      have htail (ht : token ≠ .symbol .comma ∧ token ≠ .symbol .semicolon) : barrier <:+ ts :=
        hb.tail hts ht
      cases token with
      | word w =>
        simp only [ite_eq_ok] at h
        split at h
        · exact nomatch h
        · exact (pure_eq_ok.1 h).2 ▸ htail (by simp)
      | quoted kind content =>
        cases kind <;> first | exact (pure_eq_ok.1 h).2 ▸ htail (by simp) | exact nomatch h
      | _ => exact nomatch h

theorem nameUpTo (count : Nat) : Stops barrier (nameUpTo count) := by
  induction count with
  | zero =>
    unfold Parser.nameUpTo
    infer_instance
  | succ count ih =>
    unfold Parser.nameUpTo
    infer_instance

instance : Stops barrier name :=
  .bind inferInstance nameUpTo

instance : Stops barrier size? := by
  unfold size?
  infer_instance

instance (kind : IntegerKind) : Stops barrier (integerType kind) := by
  unfold integerType
  infer_instance

instance : Stops barrier decimalSize where
  stops {ts size rest} hts h := by
    obtain ⟨digits, behind, hdigits, h⟩ := bind_eq_ok.1 h
    have hbehind := Stops.stops hts hdigits
    obtain ⟨comma, ts, hcomma, h⟩ := bind_eq_ok.1 h
    cases comma with
    | false =>
      obtain ⟨-, rfl⟩ := pure_eq_ok.1 h
      exact symbol?_false hcomma ▸ hbehind
    | true =>
      obtain ⟨decimals, ts₁, hdecimals, h⟩ := bind_eq_ok.1 h
      obtain ⟨-, rfl⟩ := pure_eq_ok.1 h
      obtain ⟨t, rfl, ht⟩ := symbol?_true hcomma
      refine Stops.stops ?_ hdecimals
      rcases List.suffix_cons_iff.1 hbehind with rfl | hbehind
      · cases ts with
        | nil => exact nomatch hdecimals
        | cons u ts =>
          obtain ⟨-, digits, long, hu⟩ := integer_cons_eq_ok hdecimals
          exact absurd hu (hb.number t u ts rfl ht digits long)
      · exact hbehind

instance (kind : DecimalKind) : Stops barrier (decimalType kind) := by
  unfold decimalType
  infer_instance

instance : Stops barrier characterLength := by
  unfold characterLength lengthUnit?
  infer_instance

instance (kind : CharacterKind) : Stops barrier (characterType kind) := by
  unfold characterType
  infer_instance

instance (kind : SizedKind) : Stops barrier (sizedType kind) := by
  unfold sizedType
  infer_instance

instance (fixed varying : CharacterKind) (large : SizedKind) :
    Stops barrier (charType fixed varying large) := by
  unfold charType
  infer_instance

instance (kind : ClockKind) : Stops barrier (clockType kind) := by
  unfold clockType timeZone
  infer_instance

/-- A string stands in front of an enumeration, with a comma or a parenthesis behind it. -/
theorem readValues_eq_ok {ts rest : List Located} {values : List Text}
    (h : readValues ts = .ok values rest) :
    ∃ t u behind content, ts = t :: u :: behind ∧ t.token = .quoted .single content ∧
      (u.token = .symbol .comma ∨ u.token = .symbol .rightParen) := by
  fun_cases readValues ts with
  | case4 t u ts content ht hu => exact ⟨t, u, ts, content, rfl, ht, .inl hu⟩
  | case6 t u ts content ht hu hu₁ => exact ⟨t, u, ts, content, rfl, ht, .inr hu₁⟩
  | _ => simp_all [readValues]

instance : Stops barrier readValues where
  stops {ts values rest} hts h := by
    fun_induction readValues ts generalizing values with
    | case4 t u ts content ht hu found behind hr ih =>
      obtain ⟨-, rfl⟩ := EStateM.Result.ok.inj h
      have hts := hb.tail hts (by simp [ht])
      refine ih ?_ hr
      rcases List.suffix_cons_iff.1 hts with rfl | hts
      · obtain ⟨t₁, u₁, ts₁, content₁, rfl, ht₁, hu₁⟩ := readValues_eq_ok hr
        obtain ⟨w, hw⟩ := hb.string u t₁ u₁ ts₁ rfl hu content₁ ht₁
        simp [hw] at hu₁
      · exact hts
    | case6 t u ts content ht hu hu₁ =>
      obtain ⟨-, rfl⟩ := EStateM.Result.ok.inj h
      exact hb.tail (hb.tail hts (by simp [ht])) (by simp [hu₁])
    | _ => exact nomatch h

instance : Stops barrier Parser.values := by
  unfold Parser.values
  infer_instance

theorem typeRules (element : Parser DataType) :
    ∀ r ∈ Parser.typeRules element, r.1 ≠ .ARRAY → Stops barrier r.2 := by
  simp only [Parser.typeRules, List.forall_mem_cons]
  repeat' apply And.intro
  all_goals first
    | exact fun _ => inferInstance
    | exact fun h => absurd rfl h
    | exact fun _ h => nomatch h

theorem bracketsUpTo (count : Nat) (type : DataType) : Stops barrier (bracketsUpTo count type) := by
  induction count generalizing type with
  | zero =>
    unfold Parser.bracketsUpTo
    infer_instance
  | succ count ih =>
    unfold Parser.bracketsUpTo
    infer_instance

end Stops

theorem baseType_word (element : Parser DataType) (w : Word) (place : Position)
    (ts : List Located) :
    baseType element (⟨.word w, place⟩ :: ts) =
      match (typeRules element).find? fun rule => w.is rule.1 with
      | some (_, rule) => rule ts
      | none => customType (⟨.word w, place⟩ :: ts) := by
  simp only [baseType, bind, EStateM.bind, peek, List.head?_cons]
  cases (typeRules element).find? fun rule => w.is rule.1 <;> rfl

/-- Two types that are both custom ones or both arrays. -/
def DataType.Matches (type type' : DataType) : Prop :=
  match type, type' with
  | .custom _ _, .custom _ _ | .array _, .array _ => True
  | _, _ => False

namespace Seam

variable {s : Seam}

/-- Two token lists that spell the same up to some seam at which no symbol stands. -/
def Later (ts ts' : List Located) : Prop :=
  ∃ s : Seam, (∀ t ∈ s.left.head?, ∀ x, t.token ≠ .symbol x) ∧ s.Ahead ts ts'

namespace Later

variable {ts ts' rest' : List Located}

theorem finish (h : finish.Ahead ts ts') : Later ts ts' :=
  ⟨.finish, by simp [Seam.finish], h⟩

theorem symbol? (h : Later ts ts') {x : Symbol} {found : Bool}
    (hx : Parser.symbol? x ts' = .ok found rest') :
    ∃ rest, Parser.symbol? x ts = .ok found rest ∧ Later rest rest' := by
  obtain ⟨s, hs, h⟩ := h
  cases found with
  | false =>
    obtain rfl := symbol?_false hx
    cases ts with
    | nil => exact ⟨[], rfl, s, hs, h⟩
    | cons t ts =>
      obtain ⟨t', ts', rfl, ht⟩ := h.cons
      refine ⟨t :: ts, symbol?_neg (fun htx => ?_) ts, s, hs, h⟩
      rw [symbol?_pos (ht ▸ htx)] at hx
      exact nomatch hx
  | true =>
    obtain ⟨t', rfl, ht'⟩ := symbol?_true hx
    obtain ⟨t, us, rfl, ht⟩ := h.symm.cons
    have htx : t.token = .symbol x := ht.symm.trans ht'
    generalize hts : t :: us = ts₀, hts' : t' :: rest' = ts₀' at h
    cases h with
    | here => exact absurd htx (hs t (by rw [← hts]; rfl) x)
    | there _ _ htail =>
      obtain ⟨rfl, rfl⟩ := List.cons.inj hts
      obtain ⟨rfl, rfl⟩ := List.cons.inj hts'
      exact ⟨us, symbol?_pos htx us, s, hs, htail⟩

theorem expectSymbol (h : Later ts ts') {x : Symbol} {u : Unit}
    (hx : Parser.expectSymbol x ts' = .ok u rest') :
    ∃ rest, Parser.expectSymbol x ts = .ok u rest ∧ Later rest rest' := by
  obtain ⟨found, behind, hfound, hx⟩ := bind_eq_ok.1 hx
  cases found with
  | false => exact nomatch hx
  | true =>
    obtain ⟨-, rfl⟩ := pure_eq_ok.1 hx
    obtain ⟨rest, hrest, hlater⟩ := h.symbol? hfound
    exact ⟨rest, bind_of_ok hrest, hlater⟩

theorem literalString (h : Later ts ts') {text : Text}
    (hl : Parser.literalString ts' = .ok text rest') :
    ∃ rest, Parser.literalString ts = .ok text rest := by
  obtain ⟨s, -, h⟩ := h
  cases ts' with
  | nil => exact nomatch hl
  | cons t' ts' =>
    obtain ⟨⟨token, place⟩, ts, rfl, ht⟩ := h.symm.cons
    obtain ⟨token, place'⟩ := t'
    obtain rfl : token = _ := ht
    rw [Parser.literalString, bind_of_ok (next_cons _ _), Option.map_some] at hl ⊢
    cases token with
    | word w =>
      simp only [ite_eq_ok] at hl ⊢
      split at hl
      · exact nomatch hl
      · next hw => exact ⟨ts, by rw [if_neg hw, (pure_eq_ok.1 hl).1]; rfl⟩
    | quoted kind content =>
      cases kind <;>
        first | exact ⟨ts, by rw [← (pure_eq_ok.1 hl).1]; rfl⟩ | exact nomatch hl
    | _ => exact nomatch hl

theorem remaining (h : Later ts ts') :
    Parser.remaining ts = .ok (ts'.countP fun t => !t.token.is .PRECISION) ts := by
  obtain ⟨s, -, h⟩ := h
  exact h.remaining

end Later

/-- That the modifiers of a custom type go over the seam in both lists or in neither. -/
def Modified (s : Seam) : Prop :=
  ∀ {ts ts' modifiers rest'}, s.Ahead ts ts' → readModifiers ts' = .ok modifiers rest' →
    s.right <:+ rest' ∨
      ∃ modifiers' rest, readModifiers ts = .ok modifiers' rest ∧ Later rest rest'

/-- Brackets behind two types go on alike in lists that spell the same. -/
theorem bracketsUpTo_matches {count : Nat} {type type₁ type' : DataType}
    {ts ts' rest' : List Located} (hts : Later ts ts') (htype : type.Matches type')
    (h : bracketsUpTo count type' ts' = .ok type₁ rest') :
    ∃ type₀ rest, bracketsUpTo count type ts = .ok type₀ rest ∧ type₀.Matches type₁ ∧
      Later rest rest' := by
  induction count generalizing type type' ts ts' with
  | zero =>
    obtain ⟨rfl, rfl⟩ := pure_eq_ok.1 h
    exact ⟨type, ts, rfl, htype, hts⟩
  | succ count ih =>
    obtain ⟨bracket, behind', hbracket, h⟩ := bind_eq_ok.1 h
    obtain ⟨behind, hbracket', hbehind⟩ := hts.symbol? hbracket
    rw [Parser.bracketsUpTo, bind_of_ok hbracket']
    cases bracket with
    | false =>
      obtain ⟨rfl, rfl⟩ := pure_eq_ok.1 h
      exact ⟨type, behind, rfl, htype, hbehind⟩
    | true =>
      obtain ⟨_, rest₁', hclose, h⟩ := bind_eq_ok.1 h
      obtain ⟨rest₁, hclose', hrest₁⟩ := hbehind.expectSymbol hclose
      have hitem : (DataType.array type).Matches (.array type') := trivial
      obtain ⟨type₀, rest, h', hmatch, hrest⟩ := ih hrest₁ hitem h
      exact ⟨type₀, rest, by rw [if_pos rfl, bind_of_ok hclose', h'], hmatch, hrest⟩

/-- That a type which goes over the seam in the second list does so in the first one too, as a type
of the same kind. -/
def Crossed (s : Seam) (p : Parser DataType) : Prop :=
  ∀ {ts ts' type' rest'}, s.Ahead ts ts' → p ts' = .ok type' rest' →
    s.right <:+ rest' ∨
      ∃ type rest, p ts = .ok type rest ∧ type.Matches type' ∧ Later rest rest'

namespace Crossed

variable [Barrier s.right] {element : Parser DataType}

/-- What holds of the element of an array holds of the array. -/
theorem arrayType (helement : s.Crossed element) : s.Crossed (arrayType element) := by
  intro ts ts' type' rest' hts h
  obtain ⟨_, inside', hless, h⟩ := bind_eq_ok.1 h
  obtain ⟨inner', behind', hinner, h⟩ := bind_eq_ok.1 h
  obtain ⟨_, rest₁', hgreater, h⟩ := bind_eq_ok.1 h
  obtain ⟨rfl, rfl⟩ := pure_eq_ok.1 h
  obtain ⟨inside, hless', hinside⟩ :=
    Follows.back (p := expectSymbol .less) inferInstance inferInstance hts hless
      (Stops.stops hts.symm.suffix hless)
  rcases helement hinside hinner with hright | ⟨inner, behind, hinner', -, hbehind⟩
  · exact .inl (Stops.stops hright hgreater)
  · obtain ⟨rest, hgreater', hrest⟩ := hbehind.expectSymbol hgreater
    refine .inr ⟨.array inner, rest, ?_, trivial, hrest⟩
    rw [Parser.arrayType, bind_of_ok hless', bind_of_ok hinner', bind_of_ok hgreater']
    rfl

theorem customType (hs : s.Modified) : s.Crossed customType := by
  intro ts ts' type' rest' hts h
  obtain ⟨n, behind', hname, h⟩ := bind_eq_ok.1 h
  obtain ⟨paren, inside', hparen, h⟩ := bind_eq_ok.1 h
  obtain ⟨behind, hname', hbehind⟩ := Follows.back (p := name) inferInstance inferInstance hts hname
    (Stops.stops hts.symm.suffix hname)
  have hright : s.right <:+ inside' := Stops.stops hbehind.symm.suffix hparen
  obtain ⟨inside, hparen', hinside⟩ :=
    Follows.back (p := symbol? .leftParen) inferInstance inferInstance hbehind hparen hright
  cases paren with
  | false =>
    obtain ⟨-, rfl⟩ := pure_eq_ok.1 h
    exact .inl hright
  | true =>
    obtain ⟨modifiers', rest₁', hmodifiers, h⟩ := bind_eq_ok.1 h
    obtain ⟨rfl, rfl⟩ := pure_eq_ok.1 h
    rcases hs hinside hmodifiers with hright | ⟨modifiers, rest, hmodifiers', hrest⟩
    · exact .inl hright
    · refine .inr ⟨.custom n modifiers, rest, ?_, trivial, hrest⟩
      rw [Parser.customType, bind_of_ok hname', bind_of_ok hparen', if_pos rfl,
        bind_of_ok hmodifiers']
      rfl

theorem baseType [s.Closed] (hs : s.Modified) (helement : s.Crossed element) :
    s.Crossed (baseType element) := by
  intro ts ts' type' rest' hts h
  cases ts' with
  | nil => exact nomatch h
  | cons t' ts' =>
    obtain ⟨⟨token, place⟩, us, rfl, ht⟩ := hts.symm.cons
    obtain ⟨token, place'⟩ := t'
    obtain rfl : token = _ := ht
    cases token with
    | word w =>
      obtain ⟨_, _, he, -, htail⟩ := hts.pass (by simp)
      obtain ⟨-, rfl⟩ := List.cons.inj he
      rw [baseType_word] at h ⊢
      cases hfind : (typeRules element).find? fun rule => w.is rule.1 with
      | none =>
        simp only [hfind] at h ⊢
        exact customType hs hts h
      | some r =>
        obtain ⟨k, rule⟩ := r
        have hmem := List.mem_of_find?_eq_some hfind
        simp only [hfind] at h ⊢
        by_cases hk : k = .ARRAY
        · obtain rfl : rule = Parser.arrayType element := by
            subst hk
            simpa [typeRules] using hmem
          exact helement.arrayType htail h
        · exact .inl ((Stops.typeRules element _ hmem hk).stops htail.symm.suffix h)
    | _ =>
      obtain ⟨found, _, hfound, h⟩ := bind_eq_ok.1 h
      obtain ⟨rfl, rfl⟩ := EStateM.Result.ok.inj hfound
      exact nomatch h

theorem dataTypeUpTo [s.Closed] (hs : s.Modified) (depth : Nat) :
    s.Crossed (dataTypeUpTo depth) := by
  induction depth with
  | zero => exact fun _ h => nomatch h
  | succ depth ih =>
    intro ts ts' type' rest' hts h
    obtain ⟨base', behind', hbase, h⟩ := bind_eq_ok.1 h
    have hbrackets := remaining_bind_eq_ok.1 h
    rcases baseType hs ih hts hbase with hright | ⟨base, behind, hbase', hmatch, hbehind⟩
    · exact .inl ((Stops.bracketsUpTo _ _).stops hright hbrackets)
    · obtain ⟨type, rest, h', hmatch, hrest⟩ := bracketsUpTo_matches hbehind hmatch hbrackets
      refine .inr ⟨type, rest, ?_, hmatch, hrest⟩
      rw [Parser.dataTypeUpTo, bind_of_ok hbase', bind_of_ok hbehind.remaining, h']

/-- The types that go over the seam are arrays of custom types with modifiers. -/
theorem dataType [s.Closed] (hs : s.Modified) : s.Crossed dataType := by
  intro ts ts' type' rest' hts h
  have htype : Parser.dataTypeUpTo ((ts'.countP fun t => !t.token.is .PRECISION) + 1) ts' =
      .ok type' rest' := h
  refine (dataTypeUpTo hs _ hts htype).imp_right fun ⟨type, rest, h', hmatch, hrest⟩ => ?_
  exact ⟨type, rest, by rw [Parser.dataType, bind_of_ok hts.remaining, h'], hmatch, hrest⟩

end Crossed

end Seam

/-- That a typed string stands in front, or the word of an interval. -/
def Typed (ts : List Located) : Prop :=
  ∃ type behind, dataType ts = .ok type behind ∧ (type = .plain .interval ∨
    (∀ n modifiers, type ≠ .custom n modifiers) ∧
      ∃ text rest, literalString behind = .ok text rest)

namespace Seam

/-- That the second list has a typed string only where the first one has, and that no parentheses in
front of the seam are ambiguous, if there is a seam. -/
class Settled (s : Seam) : Prop where
  typed : ∀ {ts ts'}, s.Ahead ts ts' → Typed ts' → Typed ts
  guarded : s = finish ∨ s.guarded

theorem settled_of_modified {s : Seam} [s.Closed] [Barrier s.right] (hs : s.Modified)
    (hguarded : s.guarded) : s.Settled where
  guarded := .inr hguarded
  typed {ts ts'} hts h := by
    obtain ⟨type, behind', htype, h⟩ := h
    rcases Crossed.dataType hs hts htype with
      hright | ⟨type₀, behind, htype₀, hmatch, hbehind⟩
    · obtain ⟨behind, htype, hbehind⟩ :=
        Follows.back (p := dataType) inferInstance inferInstance hts htype hright
      refine ⟨type, behind, htype, h.imp id fun h => ⟨h.1, ?_⟩⟩
      obtain ⟨text, rest', htext⟩ := h.2
      obtain ⟨rest, htext, -⟩ :=
        Follows.back (p := literalString) inferInstance inferInstance hbehind htext
          (Stops.stops hright htext)
      exact ⟨text, rest, htext⟩
    · refine ⟨type₀, behind, htype₀, .inr ?_⟩
      cases type₀ with
      | array element =>
        rcases h with rfl | ⟨-, text, rest', htext⟩
        · exact hmatch.elim
        · obtain ⟨rest, htext⟩ := hbehind.literalString htext
          exact ⟨by simp, text, rest, htext⟩
      | custom n modifiers =>
        cases type with
        | custom n' modifiers' => simp at h
        | _ => exact hmatch.elim
      | _ => exact hmatch.elim

instance : finish.Settled where
  guarded := .inl rfl
  typed {ts ts'} hts h := by
    obtain ⟨type, behind', htype, h⟩ := h
    obtain ⟨behind, htype, hbehind⟩ :=
      Follows.back (p := dataType) inferInstance inferInstance hts htype List.nil_suffix
    refine ⟨type, behind, htype, h.imp id fun h => ⟨h.1, ?_⟩⟩
    obtain ⟨text, rest', htext⟩ := h.2
    obtain ⟨rest, htext, -⟩ :=
      Follows.back (p := literalString) inferInstance inferInstance hbehind htext List.nil_suffix
    exact ⟨text, rest, htext⟩

end Seam

/-- Only the rule of `INTERVAL` gives that type, and it takes nothing behind the word. -/
theorem typeRules_interval (element : Parser DataType) :
    ∀ r ∈ typeRules element, ∀ ts rest, r.2 ts = .ok (.plain .interval) rest →
      r.1 = .INTERVAL ∧ ts = rest := by
  simp [typeRules, integerType, decimalType, characterType, sizedType, clockType, charType,
    arrayType, bind_eq_ok, map_eq_ok, pure_eq_ok, ite_eq_ok]

/-- Without brackets a type stays as it is, with brackets it becomes an array. -/
theorem bracketsUpTo_eq_ok {count : Nat} {type type' : DataType} {ts rest : List Located}
    (h : bracketsUpTo count type ts = .ok type' rest) :
    (type' = type ∧ rest = ts) ∨ ∃ element, type' = .array element := by
  induction count generalizing type ts with
  | zero =>
    obtain ⟨rfl, rfl⟩ := pure_eq_ok.1 h
    exact .inl ⟨rfl, rfl⟩
  | succ count ih =>
    obtain ⟨bracket, behind, hbracket, h⟩ := bind_eq_ok.1 h
    cases bracket with
    | false =>
      obtain ⟨rfl, rfl⟩ := pure_eq_ok.1 h
      exact .inl ⟨rfl, symbol?_false hbracket⟩
    | true =>
      obtain ⟨_, _, -, h⟩ := bind_eq_ok.1 h
      rcases ih h with ⟨rfl, -⟩ | h
      · exact .inr ⟨type, rfl⟩
      · exact .inr h

theorem dataType_interval {ts rest : List Located} (h : dataType ts = .ok (.plain .interval) rest) :
    ∃ w place, ts = ⟨.word w, place⟩ :: rest ∧ w.is .INTERVAL := by
  obtain ⟨base, behind, hbase, hbrackets⟩ := dataType_eq_ok.1 h
  obtain ⟨rfl, rfl⟩ : base = .plain .interval ∧ behind = rest := by
    rcases bracketsUpTo_eq_ok hbrackets with ⟨rfl, rfl⟩ | ⟨element, h⟩
    · exact ⟨rfl, rfl⟩
    · cases h
  rcases ts with _ | ⟨⟨token, place⟩, ts⟩
  · cases hbase
  · cases token with
    | word w =>
      rw [baseType_word] at hbase
      split at hbase
      · next k rule hfind =>
        obtain ⟨rfl, rfl⟩ :=
          typeRules_interval _ _ (List.mem_of_find?_eq_some hfind) _ _ hbase
        have hw := List.find?_some hfind
        exact ⟨w, place, rfl, hw⟩
      · simp [customType, bind_eq_ok, map_eq_ok, pure_eq_ok, ite_eq_ok] at hbase
    | _ =>
      obtain ⟨found, _, hfound, h⟩ := bind_eq_ok.1 hbase
      obtain ⟨rfl, rfl⟩ := EStateM.Result.ok.inj hfound
      cases h

end SqlModels.Sql
