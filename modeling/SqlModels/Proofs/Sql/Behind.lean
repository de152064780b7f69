import SqlModels.Proofs.Sql.Sources

/-!
What stands behind the types of columns. Neither the options of a column nor anything behind its
declaration starts with an `UNSIGNED`, so in accepted statements none is left behind a type.
-/

namespace SqlModels.Sql

open SqlModels.Sql.Parser

variable {α β : Type}

/-- What a parser gives and the tokens it leaves have a property, wherever it starts. -/
structure Reads (p : Parser α) (Q : α → List Located → Prop) : Prop where
  reads : ∀ {ts a rest}, p ts = .ok a rest → Q a rest

namespace Reads

variable {p q : Parser α} {f : α → Parser β} {Q Q' : α → List Located → Prop}
  {R : β → List Located → Prop}

theorem pure {a : α} (h : ∀ rest, Q a rest) : Reads (pure a) Q where
  reads h' := by
    obtain ⟨rfl, rfl⟩ := pure_eq_ok.1 h'
    exact h _

theorem bind (hf : ∀ a, Reads (f a) R) : Reads (p >>= f) R where
  reads h := by
    obtain ⟨a, behind, -, h⟩ := bind_eq_ok.1 h
    exact (hf a).reads h

/-- What the last step gives is handed on. -/
theorem last {g : α → β} (hp : Reads p fun a rest => R (g a) rest) :
    Reads (p >>= fun a => Pure.pure (g a)) R where
  reads h := by
    obtain ⟨a, behind, hread, h⟩ := bind_eq_ok.1 h
    obtain ⟨rfl, rfl⟩ := pure_eq_ok.1 h
    exact hp.reads hread

theorem ite {c : Prop} [Decidable c] (hp : Reads p Q) (hq : Reads q Q) :
    Reads (if c then p else q) Q := by
  split
  · exact hp
  · exact hq

theorem never (h : ∀ ts, ∃ e rest, p ts = .error e rest) : Reads p Q where
  reads {ts a rest} h' := by
    obtain ⟨e, rest', he⟩ := h ts
    cases he.symm.trans h'

theorem mono (hp : Reads p Q) (h : ∀ a rest, Q a rest → Q' a rest) : Reads p Q' :=
  ⟨fun hread => h _ _ (hp.reads hread)⟩

theorem of_yields {P : α → Prop} (h : ∀ source, Yields source p P) : Reads p fun a _ => P a :=
  ⟨fun {ts _ _} hread => ((h ts).yields List.suffix_rfl hread).1⟩

end Reads

/-- That an `UNSIGNED` stands in front. -/
def AtSign (ts : List Located) : Prop :=
  ∃ t ∈ ts.head?, t.token.is .UNSIGNED = true

/-- Where an `UNSIGNED` stands behind the type of a declaration, it stands in front of a list. -/
def Leaves (specs : List (ColumnSpec Placed)) (rest : List Located) : Prop :=
  ∀ spec ∈ specs, AtSign spec.type.rest → AtSign rest

/-- That no `UNSIGNED` stands behind the type of a declaration. -/
def NoneLeft (specs : List (ColumnSpec Placed)) : Prop :=
  ∀ spec ∈ specs, ¬AtSign spec.type.rest

variable {ts rest : List Located} {specs : List (ColumnSpec Placed)}

theorem NoneLeft.leaves (h : NoneLeft specs) (rest : List Located) : Leaves specs rest :=
  fun spec hspec hsign => absurd hsign (h spec hspec)

theorem Leaves.noneLeft (h : Leaves specs rest) (hrest : ¬AtSign rest) : NoneLeft specs :=
  fun spec hspec hsign => hrest (h spec hspec hsign)

section Options

theorem AtSign.is (h : AtSign ts) {k : Keyword}
    (hk : k.name.toList ≠ Keyword.UNSIGNED.name.toList) : ∀ t ∈ ts.head?, t.token.is k = false := by
  obtain ⟨u, hu, hsign⟩ := h
  intro t ht
  obtain rfl := Option.some.inj (hu.symm.trans ht)
  exact Token.is_of_name_ne hsign hk.symm

theorem AtSign.symbol (h : AtSign ts) (x : Symbol) : symbol? x ts = .ok false ts := by
  obtain ⟨u, hu, hsign⟩ := h
  obtain ⟨us, rfl⟩ := List.head?_eq_some_iff.1 hu
  refine symbol?_neg (fun hx => ?_) us
  rw [hx] at hsign
  cases hsign

theorem AtSign.keyword (h : AtSign ts) {k : Keyword}
    (hk : k.name.toList ≠ Keyword.UNSIGNED.name.toList) : keyword? k ts = .ok false ts :=
  keyword?_neg (h.is hk)

theorem AtSign.keywords (h : AtSign ts) {k : Keyword} (ks : List Keyword)
    (hk : k.name.toList ≠ Keyword.UNSIGNED.name.toList) :
    keywords? (k :: ks) ts = .ok false ts := by
  obtain ⟨u, hu, -⟩ := id h
  obtain ⟨us, rfl⟩ := List.head?_eq_some_iff.1 hu
  simp [keywords?, startsWith, h.is hk u rfl]

theorem AtSign.columnOption (h : AtSign ts) : columnOption? ts = .ok none ts := by
  simp (disch := decide) [columnOption?, bind, EStateM.bind, pure, EStateM.pure, h.keyword,
    h.keywords]

theorem AtSign.options (h : AtSign ts) (count : Nat) : optionsUpTo count ts = .ok [] ts := by
  cases count with
  | zero => rfl
  | succ count =>
    rw [optionsUpTo, bind_of_ok (h.keyword (by decide)), if_neg Bool.false_ne_true,
      bind_of_ok h.columnOption]
    rfl

theorem AtSign.bareOptions (h : AtSign ts) (count : Nat) :
    bareOptionsUpTo count ts = .ok [] ts := by
  cases count with
  | zero => rfl
  | succ count =>
    rw [bareOptionsUpTo, bind_of_ok h.columnOption]
    rfl

end Options

/-- Where no column is read, nothing is declared of any. -/
theorem composes_bare (source : List Located) :
    Composes (expected .identifier : Parser (Ident × Placed)) source
      (fun op => ∀ spec ∈ op.specs, False) (fun _ => True)
      fun statement => ∀ spec ∈ statement.specs, False := by
  refine Yields.composes_specs (.columnDef (R := fun _ => False) .expected) ?_
  refine (Yields.changeOp (R := fun _ => False) .expected).mono ?_
  rintro _ ⟨_, _, _, _, -, hfalse⟩
  exact hfalse.elim

/-- The declarations of an operation or a statement that is read, and what is left behind them. -/
theorem Reads.of_bare {p : Parser α} {specs : α → List (ColumnSpec Placed)}
    (h : ∀ source, Yields source p fun a => ∀ spec ∈ specs a, False) :
    Reads p fun a _ => NoneLeft (specs a) :=
  (of_yields h).mono fun _ _ hnone spec hspec => (hnone spec hspec).elim

theorem columnDef_leaves : Reads (columnDef placedName) fun d rest => Leaves [d.spec] rest where
  reads {ts d rest} h := by
    obtain ⟨⟨column, p⟩, us, hread, h₁⟩ := bind_eq_ok.1 h
    obtain ⟨-, -, rfl⟩ := placedName_eq_ok.1 hread
    obtain ⟨collated, vs, hcollated, h₂⟩ := bind_eq_ok.1 h₁
    refine List.forall_mem_singleton.2 fun hsign => ?_
    cases collated with
    | true =>
      obtain ⟨_, _, -, h₃⟩ := bind_eq_ok.1 h₂
      obtain ⟨options, _, -, h₄⟩ := bind_eq_ok.1 (remaining_bind_eq_ok.1 h₃)
      obtain ⟨rfl, -⟩ := pure_eq_ok.1 h₄
      exact nomatch (hsign.keyword (by decide)).symm.trans hcollated
    | false =>
      obtain rfl := keyword?_false hcollated
      obtain ⟨options, ws, hoptions, h₃⟩ := bind_eq_ok.1 (remaining_bind_eq_ok.1 h₂)
      obtain ⟨rfl, rfl⟩ := pure_eq_ok.1 h₃
      obtain ⟨-, rfl⟩ := EStateM.Result.ok.inj ((hsign.options _).symm.trans hoptions)
      exact hsign

theorem changeOp_leaves : Reads (changeOp placedName) fun op rest => Leaves op.specs rest := by
  refine .bind fun _ => .bind fun old => ⟨fun {ts op rest} h => ?_⟩
  obtain ⟨⟨column, p⟩, us, hread, h₁⟩ := bind_eq_ok.1 h
  obtain ⟨-, -, rfl⟩ := placedName_eq_ok.1 hread
  obtain ⟨options, vs, hoptions, h₂⟩ := bind_eq_ok.1 (remaining_bind_eq_ok.1 h₁)
  obtain ⟨rfl, rfl⟩ := pure_eq_ok.1 h₂
  refine List.forall_mem_singleton.2 fun hsign => ?_
  obtain ⟨-, rfl⟩ := EStateM.Result.ok.inj ((hsign.bareOptions _).symm.trans hoptions)
  exact hsign

/-- The declarations of an item of a table. -/
def itemSpecs (item : ColumnDef Placed ⊕ TableConstraint) : List (ColumnSpec Placed) :=
  (itemOp item).specs

theorem tableItem_leaves :
    Reads (tableItem placedName) fun item rest => Leaves (itemSpecs item) rest := by
  refine .bind fun found => ?_
  cases found with
  | some c => exact .pure fun _ => List.forall_mem_nil _
  | none =>
    refine .bind fun next => ?_
    split
    · exact .last (g := Sum.inl) columnDef_leaves
    · exact .never fun _ => ⟨_, _, rfl⟩

/-- A comma or a parenthesis stands behind every item. -/
theorem tableItemsUpTo_noneLeft (count : Nat) :
    Reads (tableItemsUpTo placedName count) fun items _ => NoneLeft (items.flatMap itemSpecs) := by
  induction count with
  | zero => exact .never fun _ => ⟨_, _, rfl⟩
  | succ count ih =>
    refine ⟨fun {ts items rest} h => ?_⟩
    obtain ⟨item, us, hitem, h₁⟩ := bind_eq_ok.1 h
    have hfirst : NoneLeft (itemSpecs item) := by
      refine (tableItem_leaves.reads hitem).noneLeft fun hsign => ?_
      rw [bind_of_ok (hsign.symbol _), bind_of_ok (hsign.symbol _)] at h₁
      exact nomatch h₁
    obtain ⟨comma, vs, -, h₂⟩ := bind_eq_ok.1 h₁
    obtain ⟨closed, ws, -, h₃⟩ := bind_eq_ok.1 h₂
    cases closed with
    | true =>
      obtain ⟨rfl, -⟩ := pure_eq_ok.1 h₃
      simpa using hfirst
    | false =>
      cases comma with
      | true =>
        obtain ⟨further, xs, hfurther, h₄⟩ := bind_eq_ok.1 h₃
        obtain ⟨rfl, -⟩ := pure_eq_ok.1 h₄
        exact List.forall_mem_append.2 ⟨hfirst, ih.reads hfurther⟩
      | false => exact nomatch h₃

theorem tableItems_noneLeft :
    Reads (tableItems placedName) fun items _ => NoneLeft (items.flatMap itemSpecs) := by
  refine .bind fun _ => .ite (.bind fun _ => .ite (.pure fun _ => ?_) ?_) (.pure fun _ => ?_)
  · exact List.forall_mem_nil _
  · exact .bind fun count => tableItemsUpTo_noneLeft (count + 1)
  · exact List.forall_mem_nil _

theorem ofItems_noneLeft {items : List (ColumnDef Placed ⊕ TableConstraint)} (table : Name)
    (ifNotExists : Bool) (h : NoneLeft (items.flatMap itemSpecs)) :
    NoneLeft (Statement.createTable (.ofItems table ifNotExists items)).specs := by
  refine List.forall_mem_map.2 fun d hd => ?_
  obtain ⟨item, hitem, hd⟩ := List.mem_filterMap.1 hd
  obtain rfl := Sum.getLeft?_eq_some_iff.1 hd
  exact List.forall_mem_flatMap.1 h _ hitem d.spec List.mem_cons_self

theorem createTable_noneLeft : Reads (Parser.createTable placedName) fun d _ =>
    NoneLeft (Statement.createTable d).specs := by
  refine .bind fun ifNotExists => .bind fun table => ?_
  extract_lets rest₃ rest₂ rest₁
  have h₃ (u : Unit) : Reads (rest₃ u) fun d _ => NoneLeft (Statement.createTable d).specs := by
    refine ⟨fun h => ?_⟩
    obtain ⟨items, us, hitems, h₁⟩ := bind_eq_ok.1 h
    obtain ⟨_, vs, -, h₂⟩ := bind_eq_ok.1 h₁
    obtain ⟨rfl, -⟩ := pure_eq_ok.1 h₂
    exact ofItems_noneLeft table ifNotExists (tableItems_noneLeft.reads hitems)
  have h₂ (u : Unit) : Reads (rest₂ u) fun d _ => NoneLeft (Statement.createTable d).specs :=
    .bind fun _ => .ite (.bind fun _ => h₃ ()) (h₃ ())
  have h₁ (u : Unit) : Reads (rest₁ u) fun d _ => NoneLeft (Statement.createTable d).specs :=
    .bind fun _ => .ite (.bind fun _ => h₂ ()) (h₂ ())
  exact .bind fun _ => .ite (.bind fun _ => h₁ ()) (h₁ ())

theorem createExternalTable_noneLeft : Reads (createExternalTable placedName) fun d _ =>
    NoneLeft (Statement.createTable d).specs := by
  refine .bind fun _ => .bind fun ifNotExists => .bind fun table => ⟨fun h => ?_⟩
  obtain ⟨items, us, hitems, h₁⟩ := bind_eq_ok.1 h
  obtain ⟨_, vs, -, h₂⟩ := bind_eq_ok.1 h₁
  obtain ⟨_, ws, -, h₃⟩ := bind_eq_ok.1 h₂
  obtain ⟨rfl, -⟩ := pure_eq_ok.1 h₃
  exact ofItems_noneLeft table ifNotExists (tableItems_noneLeft.reads hitems)

theorem addOp_leaves : Reads (addOp placedName) fun op rest => Leaves op.specs rest := by
  refine .bind fun found => ?_
  cases found with
  | some c => exact .pure fun _ => List.forall_mem_nil _
  | none =>
    refine .bind fun _ => .bind fun _ => .ite (.bind fun _ => .pure fun _ => ?_) ?_
    · exact List.forall_mem_nil _
    · exact .bind fun _ => .last (g := AlterOp.addColumn) columnDef_leaves

theorem alterOp_leaves : Reads (alterOp placedName) fun op rest => Leaves op.specs rest := by
  have hbare {p : Parser (AlterOp Placed)}
      (h : ∀ source, Yields source p fun op => ∀ spec ∈ op.specs, False) :
      Reads p fun op rest => Leaves op.specs rest :=
    (Reads.of_bare h).mono fun _ rest hnone => hnone.leaves rest
  refine .bind fun _ => .ite addOp_leaves (.bind fun _ => .ite ?_ ?_)
  · exact hbare fun source => (composes_bare source).renameOp
  refine .bind fun _ => .ite (hbare fun source => (composes_bare source).dropOp) ?_
  refine .bind fun _ => .ite ?_ (.bind fun _ => .ite changeOp_leaves ?_)
  · iterate 5 refine .bind fun _ => ?_
    exact .pure fun _ => List.forall_mem_nil _
  refine .bind fun _ => .ite (hbare fun source => (composes_bare source).alterColumnOp) ?_
  refine .bind fun _ => .ite ?_ (.never fun _ => ⟨_, _, rfl⟩)
  exact .bind fun _ => .bind fun _ => .pure fun _ => List.forall_mem_nil _

/-- A comma stands behind every item but the last. -/
theorem commaSeparated_leaves {p : Parser α} {specs : α → List (ColumnSpec Placed)}
    (hp : Reads p fun a rest => Leaves (specs a) rest) :
    Reads (commaSeparated p) fun list rest => Leaves (list.flatMap specs) rest := by
  have hcount (count : Nat) :
      Reads (commaSeparatedUpTo p count) fun list rest => Leaves (list.flatMap specs) rest := by
    have hsingle (a : α) (rest : List Located) (h : Leaves (specs a) rest) :
        Leaves ([a].flatMap specs) rest := by
      rwa [List.flatMap_singleton]
    induction count with
    | zero => exact .last (g := fun a => [a]) (hp.mono hsingle)
    | succ count ih =>
      refine ⟨fun {ts list rest} h => ?_⟩
      obtain ⟨first, us, hfirst, h₁⟩ := bind_eq_ok.1 h
      obtain ⟨comma, vs, hcomma, h₂⟩ := bind_eq_ok.1 h₁
      cases comma with
      | true =>
        obtain ⟨further, ws, hfurther, h₃⟩ := bind_eq_ok.1 h₂
        obtain ⟨rfl, rfl⟩ := pure_eq_ok.1 h₃
        have hnone : NoneLeft (specs first) := (hp.reads hfirst).noneLeft fun hsign =>
          nomatch (hsign.symbol _).symm.trans hcomma
        exact List.forall_mem_append.2 ⟨hnone.leaves _, ih.reads hfurther⟩
      | false =>
        obtain rfl := symbol?_false hcomma
        obtain ⟨rfl, rfl⟩ := pure_eq_ok.1 h₂
        exact hsingle first _ (hp.reads hfirst)
  exact .bind hcount

theorem alterStatement_leaves :
    Reads (alterStatement placedName) fun statement rest => Leaves statement.specs rest := by
  have hother : Reads (Pure.pure (f := Parser) (Statement.other (τ := Placed)))
      fun statement rest => Leaves statement.specs rest :=
    .pure fun _ => List.forall_mem_nil _
  refine .bind fun _ => .ite ?_ ?_
  · refine .bind fun _ => .bind fun _ => .bind fun table => ?_
    exact .last (g := Statement.alterTable table) (commaSeparated_leaves alterOp_leaves)
  iterate 2 refine .bind fun _ => .ite (.bind fun _ => hother) ?_
  exact .bind fun _ => .ite (.never fun _ => ⟨_, _, rfl⟩) (.never fun _ => ⟨_, _, rfl⟩)

theorem createStatement_noneLeft :
    Reads (createStatement placedName) fun statement _ => NoneLeft statement.specs := by
  have hother : Reads (Pure.pure (f := Parser) (Statement.other (τ := Placed)))
      fun statement _ => NoneLeft statement.specs :=
    .pure fun _ => List.forall_mem_nil _
  have hnever : Reads (expected .createdObject) fun (statement : Statement Placed) _ =>
      NoneLeft statement.specs :=
    .never fun _ => ⟨_, _, rfl⟩
  iterate 6 refine .bind fun _ => ?_
  refine .bind fun _ => .ite (.last (g := Statement.createTable) createTable_noneLeft) ?_
  refine .bind fun _ => .ite (.bind fun _ => .bind fun _ => hother) ?_
  refine .bind fun _ => .ite (.bind fun _ => hother) ?_
  refine .bind fun _ => .ite (.last (g := Statement.createTable) createExternalTable_noneLeft) ?_
  refine .bind fun _ => .ite (.never fun _ => ⟨_, _, rfl⟩) ?_
  iterate 4 refine .bind fun _ => .ite (.bind fun _ => hother) ?_
  exact hnever

theorem statement_leaves :
    Reads (statement placedName) fun statement rest => Leaves statement.specs rest := by
  have hother : Reads (Pure.pure (f := Parser) (Statement.other (τ := Placed)))
      fun statement rest => Leaves statement.specs rest :=
    .pure fun _ => List.forall_mem_nil _
  have hbare {p : Parser (Statement Placed)}
      (h : ∀ source, Yields source p fun statement => ∀ spec ∈ statement.specs, False) :
      Reads p fun statement rest => Leaves statement.specs rest :=
    (Reads.of_bare h).mono fun _ rest hnone => hnone.leaves rest
  refine .bind fun _ => .ite ?_ (.bind fun _ => .ite alterStatement_leaves ?_)
  · exact createStatement_noneLeft.mono fun _ rest hnone => hnone.leaves rest
  refine .bind fun _ => .ite (hbare fun source => (composes_bare source).dropStatement) ?_
  refine .bind fun _ => .ite (hbare fun source => (composes_bare source).setStatement) ?_
  refine .bind fun _ => .ite (hbare fun source => (composes_bare source).truncateStatement) ?_
  refine .bind fun _ => .ite hother (.bind fun _ => .ite (.bind fun _ => hother) ?_)
  iterate 2 refine .bind fun _ => .ite (.bind fun _ => .bind fun _ => hother) ?_
  exact .bind fun _ => .ite (.bind fun _ => hother) (.never fun _ => ⟨_, _, rfl⟩)

/-- Statements end where the text does, or a semicolon or an `END` follows. -/
theorem AtSign.not_statements (h : AtSign ts) {count : Nat} {list : List (Statement Placed)} :
    statementsUpTo placedName count false ts ≠ .ok list rest := by
  intro hread
  cases count with
  | zero => cases hread
  | succ count =>
    obtain ⟨u, hu, hsign⟩ := id h
    obtain ⟨us, rfl⟩ := List.head?_eq_some_iff.1 hu
    have hsymbol : u.token ≠ .symbol .semicolon := fun he => by
      rw [he] at hsign
      cases hsign
    have hsemicolons : semicolons (u :: us) = .ok false (u :: us) := by
      simp [semicolons, hsymbol]
    have hpeek : peek (u :: us) = .ok (some u) (u :: us) := rfl
    have hend : u.token.is .END = false := h.is (by decide) u rfl
    rw [statementsUpTo, bind_of_ok hsemicolons, bind_of_ok hpeek] at hread
    simp only [hend, Bool.false_eq_true, if_false, Bool.or_false] at hread
    cases hread

theorem statementsUpTo_noneLeft (count : Nat) (delimited : Bool) :
    Reads (statementsUpTo placedName count delimited) fun list _ =>
      NoneLeft (list.flatMap Statement.specs) := by
  induction count generalizing delimited with
  | zero => exact .never fun _ => ⟨_, _, rfl⟩
  | succ count ih =>
    refine .bind fun _ => .bind fun found => ?_
    split
    · exact .pure fun _ => List.forall_mem_nil _
    refine .ite (.pure fun _ => List.forall_mem_nil _)
      (.ite ⟨fun h => ?_⟩ (.never fun _ => ⟨_, _, rfl⟩))
    obtain ⟨first, us, hfirst, h₁⟩ := bind_eq_ok.1 h
    obtain ⟨further, vs, hfurther, h₂⟩ := bind_eq_ok.1 h₁
    obtain ⟨rfl, -⟩ := pure_eq_ok.1 h₂
    have hnone := (statement_leaves.reads hfirst).noneLeft fun hsign =>
      hsign.not_statements hfurther
    exact List.forall_mem_append.2 ⟨hnone, (ih false).reads hfurther⟩

/-- In accepted statements no `UNSIGNED` is left behind the type of a column. -/
theorem statements_noneLeft : Reads (statements placedName) fun list _ =>
    NoneLeft (list.flatMap Statement.specs) :=
  .bind fun count => statementsUpTo_noneLeft (count + 1) true

end SqlModels.Sql
