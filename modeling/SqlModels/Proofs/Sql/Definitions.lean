import SqlModels.Proofs.Sql.Queries
import SqlModels.Sql.Parser.Statement

-- A rule of many steps is a large instance.
set_option synthInstance.maxSize 1000

namespace SqlModels.Sql

open SqlModels.Sql.Parser

variable {s : Seam}

theorem Parser.identifier_eq_error {ts rest : List Located} {fault : Fault}
    (h : identifier ts = .error fault rest) :
    rest = ts.tail ∧ ∀ t ∈ ts.head?, identOf? t.token = none := by
  cases ts with
  | nil => exact ⟨(EStateM.Result.error.inj (identifier_nil.symm.trans h)).2.symm, by simp⟩
  | cons t ts =>
    rw [identifier_cons] at h
    cases hi : identOf? t.token with
    | some i => simp [hi] at h
    | none =>
      rw [hi] at h
      exact ⟨(EStateM.Result.error.inj h).2.symm, by simpa using hi⟩

theorem Parser.nameUpTo_zero_error {ts rest : List Located} {fault : Fault}
    (h : nameUpTo 0 ts = .error fault rest) : identifier ts = .error fault rest := by
  rcases bind_eq_error.1 h with h | ⟨i, behind, -, h⟩
  · exact h
  · exact nomatch h

/-- A name breaks off where an identifier is missing, in front or behind a period. -/
theorem Parser.nameUpTo_succ_error {count : Nat} {ts rest : List Located} {fault : Fault}
    (h : nameUpTo (count + 1) ts = .error fault rest) : identifier ts = .error fault rest ∨
      ∃ i behind further, identifier ts = .ok i behind ∧ symbol? .period behind = .ok true further ∧
        nameUpTo count further = .error fault rest := by
  rcases bind_eq_error.1 h with h | ⟨i, behind, hi, h⟩
  · exact .inl h
  rcases bind_eq_error.1 h with h | ⟨period, further, hperiod, h⟩
  · exact absurd h symbol?_ne_error
  cases period with
  | false => exact nomatch h
  | true =>
    rcases bind_eq_error.1 h with h | ⟨n, behind₂, -, h⟩
    · exact .inr ⟨i, behind, further, hi, hperiod, h⟩
    · exact nomatch h

theorem Parser.nameUpTo_eq_error {count : Nat} {ts rest : List Located} {fault : Fault}
    (h : nameUpTo count ts = .error fault rest) : rest <:+ ts := by
  induction count generalizing ts with
  | zero => exact (identifier_eq_error (nameUpTo_zero_error h)).1 ▸ ts.tail_suffix
  | succ count ih =>
    rcases nameUpTo_succ_error h with h | ⟨i, behind, further, hi, hperiod, h⟩
    · exact (identifier_eq_error h).1 ▸ ts.tail_suffix
    · exact (ih h).trans ((Follows.takes (s := .finish) (q := symbol? .period) hperiod).trans
        (Follows.takes (s := .finish) (q := identifier) hi))

/-- A name that breaks off before the seam breaks off in both lists. -/
theorem Seam.nameUpTo_error {count : Nat} {ts ts' rest : List Located} {fault : Fault}
    (hts : s.Ahead ts ts') (h : nameUpTo count ts = .error fault rest) (hleft : s.left <:+ rest) :
    ∃ fault' rest', nameUpTo count ts' = .error fault' rest' ∧ s.Ahead rest rest' := by
  have hfirst {ts ts' rest : List Located} {fault : Fault} (hts : s.Ahead ts ts')
      (h : identifier ts = .error fault rest) (hleft : s.left <:+ rest) :
      ∃ fault' rest', identifier ts' = .error fault' rest' ∧ s.Ahead rest rest' := by
    obtain ⟨rfl, hi⟩ := identifier_eq_error h
    cases ts with
    | nil =>
      obtain rfl := hts.nil
      exact ⟨_, _, identifier_nil, hts⟩
    | cons t ts =>
      obtain ⟨t', ts', rfl, ht, htail⟩ := hts.tail hleft
      exact ⟨_, ts', by rw [identifier_cons, ← ht, hi t rfl], htail⟩
  induction count generalizing ts ts' with
  | zero =>
    obtain ⟨fault', rest', h', hrest⟩ := hfirst hts (nameUpTo_zero_error h) hleft
    exact ⟨fault', rest', bind_of_error h', hrest⟩
  | succ count ih =>
    rcases nameUpTo_succ_error h with h | ⟨i, behind, further, hi, hperiod, h⟩
    · obtain ⟨fault', rest', h', hrest⟩ := hfirst hts h hleft
      exact ⟨fault', rest', bind_of_error h', hrest⟩
    · have hfurther := hleft.trans (nameUpTo_eq_error h)
      obtain ⟨behind', hi', hbehind⟩ := Follows.follows (q := identifier) hts hi
        (hfurther.trans (Follows.takes (s := s) (q := symbol? .period) hperiod))
      obtain ⟨further', hperiod', hfurther⟩ :=
        Follows.follows (q := symbol? .period) hbehind hperiod hfurther
      obtain ⟨fault', rest', h', hrest⟩ := ih hfurther h
      refine ⟨fault', rest', ?_, hrest⟩
      rw [nameUpTo, bind_of_ok hi', bind_of_ok hperiod', if_pos rfl, bind_of_error h']

namespace Follows

/-- A name that is passed over even where it breaks off. -/
instance : Follows s (Parser.tolerate name) (Parser.tolerate name) where
  takes {ts n rest} h := by
    cases n with
    | some n => exact takes (s := s) (q := name) (tolerate_eq_some.1 h)
    | none =>
      obtain ⟨fault, h, -⟩ := tolerate_eq_none.1 h
      exact nameUpTo_eq_error h
  follows {ts ts' n rest} hts h hleft := by
    cases n with
    | some n =>
      obtain ⟨rest', h', hrest⟩ := follows (q := name) hts (tolerate_eq_some.1 h) hleft
      exact ⟨rest', tolerate_eq_some.2 h', hrest⟩
    | none =>
      obtain ⟨fault, h, -⟩ := tolerate_eq_none.1 h
      obtain ⟨fault', rest', h', hrest⟩ := Seam.nameUpTo_error hts h hleft
      rw [hts.count] at h'
      refine ⟨rest', tolerate_eq_none.2 ⟨fault', h', ?_⟩, hrest⟩
      rintro rfl
      exact Calm.calm (p := name) _ _ h'
  breaks _ _ _ _ _ _ h := absurd (tolerate_eq_error.1 h).2 (Calm.calm _ _)

variable [s.Closed]

instance : Follows s referentialAction referentialAction := by
  unfold referentialAction
  infer_instance

instance : Follows s referentialActions referentialActions := by
  unfold referentialActions
  infer_instance

instance (k : Keyword) : Follows s (sequenceLimit k) (sequenceLimit k) := by
  unfold sequenceLimit
  infer_instance

instance : Follows s sequenceOptions sequenceOptions := by
  unfold sequenceOptions
  extract_lets rest₃ rest₂ rest₁
  have h₃ (u : Unit) : Follows s (rest₃ u) (rest₃ u) := by
    dsimp only [rest₃]
    infer_instance
  clear_value rest₃
  have h₂ (u : Unit) : Follows s (rest₂ u) (rest₂ u) := by
    dsimp only [rest₂]
    infer_instance
  clear_value rest₂
  have h₁ (u : Unit) : Follows s (rest₁ u) (rest₁ u) := by
    dsimp only [rest₁]
    infer_instance
  clear_value rest₁
  infer_instance

instance : Follows s keyColumns keyColumns := by
  unfold keyColumns
  infer_instance

instance : Follows s indexColumns indexColumns := by
  unfold indexColumns
  refine .peek inferInstance fun _ _ _ => ?_
  infer_instance

instance : Follows s fulltextColumns fulltextColumns := by
  unfold fulltextColumns
  infer_instance

instance : Follows s optionWord optionWord := by
  unfold optionWord
  refine .bind inferInstance fun _ => .next inferInstance fun token _ _ => ?_
  cases token <;> infer_instance

instance : Follows s startValue startValue := by
  unfold startValue
  refine .next inferInstance fun token _ _ => ?_
  cases token with
  | number digits long =>
    simp only
    cases readInteger digits 0 digits <;> infer_instance
  | _ => infer_instance

instance (k : Keyword) : Follows s (namedOptions k) (namedOptions k) := by
  unfold namedOptions
  infer_instance

instance : Follows s sortedBy sortedBy := by
  unfold sortedBy
  infer_instance

instance : Follows s onCommit onCommit := by
  unfold onCommit
  infer_instance

instance : Follows s rowFormat rowFormat := by
  unfold rowFormat
  refine .bind inferInstance fun format => ?_
  split <;> infer_instance

omit [s.Closed] in
instance : Follows s clusterName clusterName := by
  unfold clusterName
  refine .next inferInstance fun token _ _ => ?_
  rcases token with _ | _ | ⟨kind, _⟩ | _ | _ | _ | _ <;> try cases kind
  all_goals infer_instance

instance : Follows s typedName typedName := by
  unfold typedName
  infer_instance

variable [s.Settled]

instance : Follows s generated generated := by
  unfold generated
  infer_instance

instance : Follows s columnOption? columnOption? := by
  let last : Parser (Option ColumnOption) := do
    if ← keywords? [.ON, .UPDATE] then return some (.onUpdate (← expression))
    if ← keyword? .GENERATED then generated else return none
  have hlast : Follows s last last := by
    dsimp only [last]
    infer_instance
  unfold columnOption?
  iterate 2 refine .bind inferInstance fun _ => .ite inferInstance ?_
  refine .bind inferInstance fun _ => .ite (.next inferInstance fun token _ _ => ?_) ?_
  · rcases token with _ | _ | ⟨kind, _⟩ | _ | _ | _ | _ <;> try cases kind
    all_goals infer_instance
  iterate 7 refine .bind inferInstance fun _ => .ite inferInstance ?_
  exact .bind inferInstance fun _ => hlast

theorem bareOptionsUpTo (count : Nat) :
    Follows s (bareOptionsUpTo count) (bareOptionsUpTo count) := by
  induction count with
  | zero =>
    unfold Parser.bareOptionsUpTo
    infer_instance
  | succ count ih =>
    unfold Parser.bareOptionsUpTo
    refine .bind inferInstance fun o => ?_
    cases o <;> infer_instance

theorem optionsUpTo (count : Nat) : Follows s (optionsUpTo count) (optionsUpTo count) := by
  induction count with
  | zero =>
    unfold Parser.optionsUpTo
    infer_instance
  | succ count ih =>
    unfold Parser.optionsUpTo
    refine .bind inferInstance fun _ => .ite (.bind inferInstance fun _ => ?_) ?_
    all_goals
      refine .bind inferInstance fun o => ?_
      cases o <;> infer_instance

instance : Follows s tableConstraint? tableConstraint? := by
  unfold tableConstraint?
  extract_lets rest
  have hrest (label : Option Ident) : Follows s (rest label) (rest label) := by
    dsimp only [rest]
    iterate 5 refine .bind inferInstance fun _ => .ite inferInstance ?_
    refine .peek ?_ fun token _ _ => ?_
    all_goals
      refine .bind inferInstance fun _ => .ite ?_ inferInstance
      cases label <;> infer_instance
  clear_value rest
  infer_instance

instance : Follows s tableFiles tableFiles := by
  unfold tableFiles
  infer_instance

instance : Follows s storageMark? storageMark? := by
  unfold storageMark?
  refine .bind inferInstance fun mark => ?_
  split <;> infer_instance

theorem storageMarksUpTo (count : Nat) :
    Follows s (storageMarksUpTo count) (storageMarksUpTo count) := by
  induction count with
  | zero =>
    unfold Parser.storageMarksUpTo
    infer_instance
  | succ count ih =>
    unfold Parser.storageMarksUpTo
    infer_instance

section Columns

variable {τ : Type} {typed typed' : Parser (Ident × τ)} [Follows s typed typed']

instance : Follows s (columnDef typed) (columnDef typed') := by
  have := optionsUpTo (s := s)
  unfold columnDef
  refine .bind inferInstance fun named => ?_
  infer_instance

instance : Follows s (tableItem typed) (tableItem typed') := by
  unfold tableItem
  refine .bind inferInstance fun constraint => ?_
  cases constraint with
  | some c => infer_instance
  | none =>
    refine .peek inferInstance fun token _ _ => ?_
    cases token <;> infer_instance

theorem tableItemsUpTo (count : Nat) :
    Follows s (tableItemsUpTo typed count) (tableItemsUpTo typed' count) := by
  induction count with
  | zero =>
    unfold Parser.tableItemsUpTo
    infer_instance
  | succ count ih =>
    unfold Parser.tableItemsUpTo
    infer_instance

instance : Follows s (tableItems typed) (tableItems typed') := by
  have (count : Nat) : Follows s (Parser.tableItemsUpTo typed count)
      (Parser.tableItemsUpTo typed' count) := tableItemsUpTo count
  unfold tableItems
  infer_instance

end Columns

instance : Follows s storage storage := by
  have := storageMarksUpTo (s := s)
  unfold storage
  infer_instance

instance : Follows s tableOptions tableOptions := by
  unfold tableOptions
  extract_lets rest₇ rest₆ rest₅ rest₄ rest₃ rest₂ rest₁
  have h₇ (u : Unit) : Follows s (rest₇ u) (rest₇ u) := by
    dsimp only [rest₇]
    infer_instance
  clear_value rest₇
  have h₆ (u : Unit) : Follows s (rest₆ u) (rest₆ u) := by
    dsimp only [rest₆]
    infer_instance
  clear_value rest₆
  have h₅ (u : Unit) : Follows s (rest₅ u) (rest₅ u) := by
    dsimp only [rest₅]
    infer_instance
  clear_value rest₅
  have h₄ (u : Unit) : Follows s (rest₄ u) (rest₄ u) := by
    dsimp only [rest₄]
    infer_instance
  clear_value rest₄
  have h₃ (u : Unit) : Follows s (rest₃ u) (rest₃ u) := by
    dsimp only [rest₃]
    infer_instance
  clear_value rest₃
  have h₂ (u : Unit) : Follows s (rest₂ u) (rest₂ u) := by
    dsimp only [rest₂]
    infer_instance
  clear_value rest₂
  have h₁ (u : Unit) : Follows s (rest₁ u) (rest₁ u) := by
    dsimp only [rest₁]
    refine .bind inferInstance fun _ => .ite (.bind inferInstance fun _ => ?_) inferInstance
    refine .next inferInstance fun token _ _ => ?_
    rcases token with _ | _ | ⟨kind, _⟩ | _ | _ | _ | _ <;> try cases kind
    all_goals infer_instance
  clear_value rest₁
  infer_instance

section Tables

variable {τ : Type} {typed typed' : Parser (Ident × τ)} [Follows s typed typed']

instance : Follows s (createTable typed) (createTable typed') := by
  unfold createTable
  iterate 2 refine .bind inferInstance fun _ => ?_
  refine .bind inferInstance fun _ => .ite (.bind inferInstance fun _ => ?_) ?_
  all_goals
    refine .bind inferInstance fun _ => .ite (.bind inferInstance fun _ => ?_) ?_ <;> infer_instance

instance : Follows s (createExternalTable typed) (createExternalTable typed') := by
  unfold createExternalTable
  infer_instance

instance : Follows s partition partition := by
  unfold partition
  infer_instance

instance : Follows s (addOp typed) (addOp typed') := by
  unfold addOp
  refine .bind inferInstance fun constraint => ?_
  cases constraint <;> infer_instance

instance : Follows s (renameOp : Parser (AlterOp τ)) renameOp := by
  unfold renameOp
  infer_instance

instance : Follows s (dropOp : Parser (AlterOp τ)) dropOp := by
  unfold dropOp
  infer_instance

instance : Follows s (renamePartitionsOp : Parser (AlterOp τ)) renamePartitionsOp := by
  unfold renamePartitionsOp
  infer_instance

instance : Follows s (changeOp typed) (changeOp typed') := by
  have := bareOptionsUpTo (s := s)
  unfold changeOp
  infer_instance

instance : Follows s (alterColumnOp : Parser (AlterOp τ)) alterColumnOp := by
  unfold alterColumnOp
  infer_instance

instance : Follows s (alterOp typed) (alterOp typed') := by
  unfold alterOp
  iterate 4 refine .bind inferInstance fun _ => .ite inferInstance ?_
  infer_instance

end Tables

end Follows

end SqlModels.Sql
