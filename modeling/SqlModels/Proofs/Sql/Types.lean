import SqlModels.Proofs.Sql.Follows

namespace SqlModels.Sql

open SqlModels.Sql.Parser

theorem Parser.dataType_eq_ok {ts rest : List Located} {type : DataType} :
    dataType ts = .ok type rest ↔ ∃ base behind,
      baseType (dataTypeUpTo (ts.countP fun t => !t.token.is .PRECISION)) ts = .ok base behind ∧
        bracketsUpTo (behind.countP fun t => !t.token.is .PRECISION) base behind =
          .ok type rest := by
  rw [dataType, remaining_bind_eq_ok, dataTypeUpTo, bind_eq_ok]
  simp only [remaining_bind_eq_ok]

namespace Follows

variable {s : Seam}

instance : Follows s size? size? := by
  unfold size?
  infer_instance

instance (kind : IntegerKind) : Follows s (integerType kind) (integerType kind) := by
  unfold integerType
  infer_instance

instance : Follows s decimalSize decimalSize := by
  unfold decimalSize
  infer_instance

instance (kind : DecimalKind) : Follows s (decimalType kind) (decimalType kind) := by
  unfold decimalType
  infer_instance

instance : Follows s lengthUnit? lengthUnit? := by
  unfold lengthUnit?
  infer_instance

instance : Follows s characterLength characterLength := by
  unfold characterLength
  infer_instance

instance (kind : CharacterKind) : Follows s (characterType kind) (characterType kind) := by
  unfold characterType
  infer_instance

instance (kind : SizedKind) : Follows s (sizedType kind) (sizedType kind) := by
  unfold sizedType
  infer_instance

instance [s.Closed] (fixed varying : CharacterKind) (large : SizedKind) :
    Follows s (charType fixed varying large) (charType fixed varying large) := by
  unfold charType
  infer_instance

instance : Follows s timeZone timeZone := by
  unfold timeZone
  infer_instance

instance (kind : ClockKind) : Follows s (clockType kind) (clockType kind) := by
  unfold clockType
  infer_instance

theorem readValues_takes {ts rest : List Located} {values : List Text}
    (h : readValues ts = .ok values rest) : rest <:+ ts := by
  fun_induction readValues ts generalizing values with
  | case4 t u ts content ht hu found behind hr ih =>
    obtain ⟨-, rfl⟩ := EStateM.Result.ok.inj h
    exact (ih hr).trans (List.suffix_append [t, u] ts)
  | case6 t u ts =>
    obtain ⟨-, rfl⟩ := EStateM.Result.ok.inj h
    exact List.suffix_append [t, u] ts
  | _ => exact nomatch h

instance : Follows s readValues readValues where
  takes := readValues_takes
  follows {ts ts' values rest} hts h hleft := by
    fun_induction readValues ts generalizing values ts' with
    | case4 t u ts content ht hu found behind hr ih =>
      obtain ⟨rfl, rfl⟩ := EStateM.Result.ok.inj h
      have hleft' := hleft.trans (readValues_takes hr)
      obtain ⟨t', ts₁, rfl, ht', hts₁⟩ := hts.tail (hleft'.trans (List.suffix_cons u ts))
      obtain ⟨u', ts₂, rfl, hu', hts₂⟩ := hts₁.tail hleft'
      obtain ⟨rest', h', hrest⟩ := ih hts₂ hr
      exact ⟨rest', by simp [readValues, ← ht', ← hu', ht, hu, h'], hrest⟩
    | case6 t u ts content ht hu hu₁ =>
      obtain ⟨rfl, rfl⟩ := EStateM.Result.ok.inj h
      obtain ⟨t', ts₁, rfl, ht', hts₁⟩ := hts.tail (hleft.trans (List.suffix_cons u ts))
      obtain ⟨u', ts₂, rfl, hu', hts₂⟩ := hts₁.tail hleft
      exact ⟨ts₂, by simp [readValues, ← ht', ← hu', ht, hu₁], hts₂⟩
    | _ => exact nomatch h
  breaks hs {ts ts' fault rest} hts h := by
    subst hs
    fun_induction readValues ts generalizing ts' fault rest with
    | case1 =>
      obtain ⟨rfl, rfl⟩ := EStateM.Result.error.inj h
      obtain rfl := hts.nil
      exact ⟨_, _, rfl, Iff.rfl, hts⟩
    | case2 t content ht =>
      obtain ⟨rfl, rfl⟩ := EStateM.Result.error.inj h
      obtain ⟨t', ts₁, rfl, ht', hts₁⟩ := hts.tail List.nil_suffix
      obtain rfl := hts₁.nil
      exact ⟨.unexpected .enumEnd none, [], by simp [readValues, ← ht', ht], Iff.rfl, hts₁⟩
    | case3 t ht =>
      obtain ⟨rfl, rfl⟩ := EStateM.Result.error.inj h
      obtain ⟨t', ts₁, rfl, ht', hts₁⟩ := hts.tail List.nil_suffix
      obtain rfl := hts₁.nil
      exact ⟨.unexpected .enumValue (some t'), [], by simp [readValues, ← ht'], by simp, hts₁⟩
    | case5 t u ts content ht hu found behind hr ih =>
      obtain ⟨rfl, rfl⟩ := EStateM.Result.error.inj h
      obtain ⟨t', ts₁, rfl, ht', hts₁⟩ := hts.tail List.nil_suffix
      obtain ⟨u', ts₂, rfl, hu', hts₂⟩ := hts₁.tail List.nil_suffix
      obtain ⟨fault', rest', h', hrest⟩ := ih hr hts₂
      exact ⟨fault', rest', by simp [readValues, ← ht', ← hu', ht, hu, h'], hrest⟩
    | case7 t u ts content ht hu hu₁ =>
      obtain ⟨rfl, rfl⟩ := EStateM.Result.error.inj h
      obtain ⟨t', ts₁, rfl, ht', hts₁⟩ := hts.tail List.nil_suffix
      obtain ⟨u', ts₂, rfl, hu', hts₂⟩ := hts₁.tail List.nil_suffix
      exact ⟨.unexpected .enumEnd (some u'), ts₂,
        by simp [readValues, ← ht', ← hu', ht, hu, hu₁], by simp, hts₂⟩
    | case8 t u ts ht =>
      obtain ⟨rfl, rfl⟩ := EStateM.Result.error.inj h
      obtain ⟨t', ts₁, rfl, ht', hts₁⟩ := hts.tail List.nil_suffix
      obtain ⟨u', ts₂, rfl, hu', hts₂⟩ := hts₁.tail List.nil_suffix
      exact ⟨.unexpected .enumValue (some t'), u' :: ts₂, by simp [readValues, ← ht'], by simp,
        hts₁⟩
    | _ => exact nomatch h

instance : Follows s Parser.values Parser.values := by
  unfold Parser.values
  infer_instance

theorem readModifiers_takes {ts rest : List Located} {modifiers : List Text}
    (h : readModifiers ts = .ok modifiers rest) : rest <:+ ts := by
  fun_induction readModifiers ts generalizing modifiers with
  | case2 t ts =>
    obtain ⟨-, rfl⟩ := EStateM.Result.ok.inj h
    exact List.suffix_cons t ts
  | case3 t ts ht hc ih => exact (ih h).trans (List.suffix_cons t ts)
  | case5 t ts ht hc m hm found behind hr ih =>
    obtain ⟨-, rfl⟩ := EStateM.Result.ok.inj h
    exact (ih hr).trans (List.suffix_cons t ts)
  | _ => exact nomatch h

instance : Follows s readModifiers readModifiers where
  takes := readModifiers_takes
  follows {ts ts' modifiers rest} hts h hleft := by
    fun_induction readModifiers ts generalizing modifiers ts' with
    | case2 t ts ht =>
      obtain ⟨rfl, rfl⟩ := EStateM.Result.ok.inj h
      obtain ⟨t', ts₁, rfl, ht', hts₁⟩ := hts.tail hleft
      exact ⟨ts₁, by simp [readModifiers, ← ht', ht], hts₁⟩
    | case3 t ts ht hc ih =>
      obtain ⟨t', ts₁, rfl, ht', hts₁⟩ := hts.tail (hleft.trans (readModifiers_takes h))
      obtain ⟨rest', h', hrest⟩ := ih hts₁ h
      exact ⟨rest', by simp [readModifiers, ← ht', hc, h'], hrest⟩
    | case5 t ts ht hc m hm found behind hr ih =>
      obtain ⟨rfl, rfl⟩ := EStateM.Result.ok.inj h
      obtain ⟨t', ts₁, rfl, ht', hts₁⟩ := hts.tail (hleft.trans (readModifiers_takes hr))
      obtain ⟨rest', h', hrest⟩ := ih hts₁ hr
      exact ⟨rest', by simp [readModifiers, ← ht', ht, hc, hm, h'], hrest⟩
    | _ => exact nomatch h
  breaks hs {ts ts' fault rest} hts h := by
    subst hs
    fun_induction readModifiers ts generalizing ts' fault rest with
    | case1 =>
      obtain ⟨rfl, rfl⟩ := EStateM.Result.error.inj h
      obtain rfl := hts.nil
      exact ⟨_, _, rfl, Iff.rfl, hts⟩
    | case2 => exact nomatch h
    | case3 t ts ht hc ih =>
      obtain ⟨t', ts₁, rfl, ht', hts₁⟩ := hts.tail List.nil_suffix
      obtain ⟨fault', rest', h', hrest⟩ := ih h hts₁
      exact ⟨fault', rest', by simp [readModifiers, ← ht', hc, h'], hrest⟩
    | case4 t ts ht hc hm =>
      obtain ⟨rfl, rfl⟩ := EStateM.Result.error.inj h
      obtain ⟨t', ts₁, rfl, ht', hts₁⟩ := hts.tail List.nil_suffix
      exact ⟨.unexpected .typeModifiers (some t'), ts₁,
        by simp [readModifiers, ← ht', ht, hc, hm], by simp, hts₁⟩
    | case5 => exact nomatch h
    | case6 t ts ht hc m hm found behind hr ih =>
      obtain ⟨rfl, rfl⟩ := EStateM.Result.error.inj h
      obtain ⟨t', ts₁, rfl, ht', hts₁⟩ := hts.tail List.nil_suffix
      obtain ⟨fault', rest', h', hrest⟩ := ih hr hts₁
      exact ⟨fault', rest', by simp [readModifiers, ← ht', ht, hc, hm, h'], hrest⟩

instance : Follows s customType customType := by
  unfold customType
  infer_instance

variable {element element' : Parser DataType}

instance [Follows s element element'] : Follows s (arrayType element) (arrayType element') := by
  unfold arrayType
  infer_instance

/-- Two tables of rules for the same keywords, each rule following the other. -/
class Rules {α : Type} (s : Seam) (rules rules' : List (Keyword × Parser α)) : Prop where
  find (w : Word) :
    (rules.find? (fun r => w.is r.1) = none ∧ rules'.find? (fun r => w.is r.1) = none) ∨
      ∃ k p p', Follows s p p' ∧ rules.find? (fun r => w.is r.1) = some (k, p) ∧
        rules'.find? (fun r => w.is r.1) = some (k, p')

instance {α : Type} : Rules s ([] : List (Keyword × Parser α)) [] where
  find _ := .inl ⟨rfl, rfl⟩

instance {α : Type} {k : Keyword} {p p' : Parser α} {rules rules' : List (Keyword × Parser α)}
    [hp : Follows s p p'] [hrules : Rules s rules rules'] :
    Rules s ((k, p) :: rules) ((k, p') :: rules') where
  find w := by
    by_cases hk : w.is k
    · exact .inr ⟨k, p, p', hp, by simp [hk], by simp [hk]⟩
    · simpa [hk] using hrules.find w

instance [s.Closed] [Follows s element element'] :
    Rules s (typeRules element) (typeRules element') := by
  unfold typeRules
  infer_instance

instance [s.Closed] [Follows s element element'] :
    Follows s (baseType element) (baseType element') := by
  unfold baseType
  refine .peek (inferInstanceAs (Follows s (unexpected _ _) (unexpected _ _))) fun token _ _ => ?_
  cases token with
  | word w =>
    simp only
    have hrules : Rules s (typeRules element) (typeRules element') := inferInstance
    rcases hrules.find w with ⟨h, h'⟩ | ⟨k, p, p', hp, h, h'⟩
    · rw [h, h']
      infer_instance
    · rw [h, h']
      exact .next hp fun _ _ _ => hp
  | _ => exact inferInstanceAs (Follows s (unexpected _ _) (unexpected _ _))

theorem bracketsUpTo (count : Nat) (type : DataType) :
    Follows s (bracketsUpTo count type) (bracketsUpTo count type) := by
  induction count generalizing type with
  | zero =>
    unfold Parser.bracketsUpTo
    infer_instance
  | succ count ih =>
    unfold Parser.bracketsUpTo
    infer_instance

theorem dataTypeUpTo [s.Closed] (depth : Nat) :
    Follows s (dataTypeUpTo depth) (dataTypeUpTo depth) := by
  induction depth with
  | zero =>
    unfold Parser.dataTypeUpTo
    infer_instance
  | succ depth ih =>
    unfold Parser.dataTypeUpTo
    exact .bind inferInstance fun type => .bind inferInstance fun count => bracketsUpTo count type

instance [s.Closed] : Follows s dataType dataType :=
  .bind inferInstance fun count => dataTypeUpTo (count + 1)

end Follows

end SqlModels.Sql
