import SqlModels.Proofs.Sql.Definitions

-- A rule of many steps is a large instance.
set_option synthInstance.maxSize 1000

namespace SqlModels.Sql.Follows

open SqlModels.Sql.Parser

variable {τ : Type} {s : Seam}

instance : Follows s semicolons semicolons where
  takes h := (EStateM.Result.ok.inj h).2 ▸ List.dropWhile_suffix _
  follows {ts ts' found rest} hts h hleft := by
    have hfound : (ts.head?.any fun t => t.token = .symbol .semicolon) =
        ts'.head?.any fun t => t.token = .symbol .semicolon := by
      simpa only [Option.any_map, Function.comp_def] using
        congrArg (Option.any fun token => token = .symbol .semicolon) hts.head
    obtain ⟨rfl, hdrop⟩ := EStateM.Result.ok.inj h
    suffices hrest : s.Ahead rest (ts'.dropWhile fun t => t.token = .symbol .semicolon) from
      ⟨_, by rw [semicolons, hfound], hrest⟩
    clear h hfound
    induction ts generalizing ts' with
    | nil =>
      obtain rfl := hts.nil
      exact hdrop ▸ hts
    | cons t ts ih =>
      obtain ⟨t', ts₁, rfl, ht⟩ := hts.cons
      by_cases hsemicolon : t.token = .symbol .semicolon
      · simp only [List.dropWhile_cons, ← ht, hsemicolon, decide_true, if_true] at hdrop ⊢
        obtain ⟨_, _, he, -, htail⟩ := hts.tail (hleft.trans (hdrop ▸ List.dropWhile_suffix _))
        obtain ⟨rfl, rfl⟩ := List.cons.inj he
        exact ih htail hdrop
      · simp only [List.dropWhile_cons, ← ht, hsemicolon, decide_false] at hdrop ⊢
        exact hdrop ▸ hts
  breaks _ _ _ _ _ _ h := nomatch h

variable [s.Closed]

instance : Follows s renameIndex renameIndex := by
  unfold renameIndex
  infer_instance

instance (role : Bool) : Follows s (droppedNames role) (droppedNames role) := by
  unfold droppedNames
  refine .bind inferInstance fun _ => .bind inferInstance fun _ => .peek ?_ fun _ _ _ => ?_
  all_goals
    iterate 3 refine .bind inferInstance fun _ => ?_
    infer_instance

instance : Follows s schema schema := by
  unfold schema
  infer_instance

omit [s.Closed] in
theorem locationsUpTo (count : Nat) : Follows s (locationsUpTo count) (locationsUpTo count) := by
  induction count with
  | zero =>
    unfold Parser.locationsUpTo
    infer_instance
  | succ count ih =>
    unfold Parser.locationsUpTo
    infer_instance

instance : Follows s database database := by
  have := locationsUpTo (s := s)
  unfold database
  infer_instance

instance : Follows s isolationLevel isolationLevel := by
  unfold isolationLevel
  infer_instance

instance : Follows s transactionMode? transactionMode? := by
  unfold transactionMode?
  infer_instance

theorem transactionModesUpTo (count : Nat) (required : Bool) :
    Follows s (transactionModesUpTo count required) (transactionModesUpTo count required) := by
  induction count generalizing required with
  | zero =>
    unfold Parser.transactionModesUpTo
    infer_instance
  | succ count ih =>
    unfold Parser.transactionModesUpTo
    infer_instance

instance : Follows s transactionModes transactionModes := by
  have := transactionModesUpTo (s := s)
  unfold transactionModes
  infer_instance

instance : Follows s chain chain := by
  unfold chain
  infer_instance

instance : Follows s characterSet characterSet := by
  unfold characterSet
  infer_instance

instance : Follows s sessionRole sessionRole := by
  unfold sessionRole
  infer_instance

variable [s.Settled]

instance : Follows s view view := by
  unfold view
  iterate 4 refine .bind inferInstance fun _ => ?_
  infer_instance

instance : Follows s alterView alterView := by
  unfold alterView
  infer_instance

instance : Follows s parameter parameter := by
  let default : Parser Unit := do
    let default ← keyword? .DEFAULT
    let given ← if default then pure true else symbol? .equal
    if given then let _ ← expression
  have hdefault : Follows s default default := by
    dsimp only [default]
    infer_instance
  unfold parameter
  refine .bind inferInstance fun _ => .bind inferInstance fun type => ?_
  split
  · exact .bind inferInstance fun _ => hdefault
  · exact hdefault

instance : Follows s functionName functionName := by
  unfold functionName
  infer_instance

instance : Follows s (dropStatement : Parser (Statement τ)) dropStatement := by
  unfold dropStatement
  refine .bind inferInstance fun _ => .bind inferInstance fun _ => .ite ?_ ?_
  · exact .bind inferInstance fun ⟨_, _⟩ => inferInstance
  · iterate 2 refine .bind inferInstance fun _ => .ite inferInstance ?_
    infer_instance

instance : Follows s index index := by
  unfold index
  extract_lets rest₅ rest₄ rest₃ rest₂ rest₁
  have h₅ (u : Unit) : Follows s (rest₅ u) (rest₅ u) := by
    dsimp only [rest₅]
    infer_instance
  clear_value rest₅
  have h₄ (u : Unit) : Follows s (rest₄ u) (rest₄ u) := by
    dsimp only [rest₄]
    infer_instance
  clear_value rest₄
  have h₃ (u : Unit) : Follows s (rest₃ u) (rest₃ u) := by
    dsimp only [rest₃]
    infer_instance
  clear_value rest₃
  have h₂ (u : Unit) : Follows s (rest₂ u) (rest₂ u) := by
    dsimp only [rest₂]
    infer_instance
  clear_value rest₂
  have h₁ (unnamed : Bool) : Follows s (rest₁ unnamed) (rest₁ unnamed) := by
    dsimp only [rest₁]
    infer_instance
  clear_value rest₁
  infer_instance

theorem variableValuesUpTo (count : Nat) :
    Follows s (variableValuesUpTo count) (variableValuesUpTo count) := by
  induction count with
  | zero =>
    unfold Parser.variableValuesUpTo
    infer_instance
  | succ count ih =>
    unfold Parser.variableValuesUpTo
    exact .tolerate (fun _ _ _ h => nomatch h) inferInstance fun _ => inferInstance

instance (target : Name) (modified : Bool) :
    Follows s (setting target modified) (setting target modified) := by
  have := variableValuesUpTo (s := s)
  let time : Parser Unit := do
    match ← Parser.tolerate expression with
    | none => expected .timeZoneValue
    | some _ => return
  have htime : Follows s time time :=
    .tolerate (fun _ _ _ h => nomatch h) inferInstance fun _ => inferInstance
  unfold setting
  infer_instance

instance : Follows s (setStatement : Parser (Statement τ)) setStatement := by
  unfold setStatement
  extract_lets done
  refine .bind inferInstance fun modified => ?_
  extract_lets rest
  have hrest (hive : Bool) : Follows s (rest hive) (rest hive) := by
    cases hive <;> infer_instance
  clear_value rest
  infer_instance

instance : Follows s (truncateStatement : Parser (Statement τ)) truncateStatement := by
  unfold truncateStatement
  infer_instance

instance : Follows s rowStatement? rowStatement? := by
  unfold rowStatement?
  refine .bind inferInstance fun k => ?_
  split
  · infer_instance
  · infer_instance
  · infer_instance
  · refine .bind inferInstance fun _ => ?_
    refine .peek ?_ fun _ _ _ => ?_ <;> exact .ite inferInstance inferInstance

section Columns

variable {typed typed' : Parser (Ident × τ)} [Follows s typed typed']

instance : Follows s (alterStatement typed) (alterStatement typed') := by
  unfold alterStatement
  infer_instance

instance : Follows s (createStatement typed) (createStatement typed') := by
  unfold createStatement
  iterate 6 refine .bind inferInstance fun _ => ?_
  iterate 4 refine .bind inferInstance fun _ => .ite inferInstance ?_
  refine .peek ?_ fun _ _ _ => ?_
  all_goals
    refine .ite inferInstance ?_
    infer_instance

instance : Follows s (statement typed) (statement typed') := by
  unfold statement
  iterate 5 refine .bind inferInstance fun _ => .ite inferInstance ?_
  refine .bind inferInstance fun _ => .ite inferInstance ?_
  infer_instance

theorem statementsUpTo (count : Nat) (delimited : Bool) :
    Follows s (statementsUpTo typed count delimited) (statementsUpTo typed' count delimited) := by
  induction count generalizing delimited with
  | zero =>
    unfold Parser.statementsUpTo
    infer_instance
  | succ count ih =>
    unfold Parser.statementsUpTo
    refine .bind inferInstance fun _ => .peek inferInstance fun _ _ _ => ?_
    infer_instance

instance : Follows s (statements typed) (statements typed') := by
  have (count : Nat) : Follows s (Parser.statementsUpTo typed count true)
      (Parser.statementsUpTo typed' count true) :=
    statementsUpTo count true
  unfold statements
  infer_instance

end Columns

end SqlModels.Sql.Follows
