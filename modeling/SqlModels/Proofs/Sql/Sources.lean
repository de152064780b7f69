import SqlModels.Proofs.Sql.Numeric
import SqlModels.Proofs.Sql.Places

/-!
Where the parts of statements come from. A parser hands on what stands in the tokens: the names of
tables, columns and keys are spelled by tokens, and what is declared of columns is what is read at
some place among them.
-/

-- A rule of many steps is a large instance.
set_option synthInstance.maxSize 1000

namespace SqlModels.Sql

open SqlModels.Sql.Parser

/-- That a token of a list spells a name. -/
def Stands (source : List Located) (name : String) : Prop :=
  ∃ t ∈ source, ∃ i, identOf? t.token = some i ∧ i.value = name

section ReadIn

variable {τ : Type} (source : List Located)

def TableConstraint.ReadIn : TableConstraint → Prop
  | .primaryKey columns => ∀ i ∈ columns, Stands source i.value
  | _ => True

structure CreateTable.ReadIn (d : CreateTable τ) : Prop where
  name : Stands source d.name.last
  columns : ∀ c ∈ d.columns, Stands source c.name.value
  constraints : ∀ c ∈ d.constraints, c.ReadIn source

/-- The names that an operation brings into a table stand in the list. -/
def AlterOp.ReadIn : AlterOp τ → Prop
  | .addConstraint c => c.ReadIn source
  | .addColumn d => Stands source d.name.value
  | .renameTable name => Stands source name.last
  | .renameColumn _ new | .changeColumn _ new _ _ => Stands source new.value
  | _ => True

def Statement.ReadIn : Statement τ → Prop
  | .createTable d => d.ReadIn source
  | .alterTable _ ops => ∀ op ∈ ops, op.ReadIn source
  | _ => True

end ReadIn

variable {α β τ : Type} {typed : Parser (Ident × τ)} {source : List Located}

/-- What a parser reads in a list, wherever it starts, has a property. -/
structure Yields (source : List Located) (p : Parser α) (Q : α → Prop) : Prop where
  yields : ∀ {ts a rest}, ts <:+ source → p ts = .ok a rest → Q a ∧ rest <:+ source

namespace Yields

variable {p q : Parser α} {f : α → Parser β} {Q Q' : α → Prop} {R : β → Prop}

theorem takes [hp : Follows .finish p p] : Yields source p fun _ => True :=
  ⟨fun hts h => ⟨trivial, (hp.takes h).trans hts⟩⟩

theorem bind (hp : Yields source p Q) (hf : ∀ a, Q a → Yields source (f a) R) :
    Yields source (p >>= f) R where
  yields hts h := by
    obtain ⟨a, behind, h₁, h₂⟩ := bind_eq_ok.1 h
    obtain ⟨ha, hbehind⟩ := hp.yields hts h₁
    exact (hf a ha).yields hbehind h₂

/-- A step of which nothing is handed on. -/
theorem skip [Follows .finish p p] (hf : ∀ a, Yields source (f a) R) : Yields source (p >>= f) R :=
  .bind .takes fun a _ => hf a

theorem pure {a : α} (h : Q a) : Yields source (pure a) Q where
  yields hts h' := by
    obtain ⟨rfl, rfl⟩ := pure_eq_ok.1 h'
    exact ⟨h, hts⟩

theorem never (h : ∀ ts, ∃ e rest, p ts = .error e rest) : Yields source p Q where
  yields {ts a rest} _ h' := by
    obtain ⟨e, rest', he⟩ := h ts
    cases he.symm.trans h'

theorem expected {wanted : Expectation} : Yields source (expected wanted) Q :=
  .never fun _ => ⟨_, _, rfl⟩

theorem ite {c : Prop} [Decidable c] (hp : Yields source p Q) (hq : Yields source q Q) :
    Yields source (if c then p else q) Q := by
  split
  · exact hp
  · exact hq

theorem mono (hp : Yields source p Q) (h : ∀ a, Q a → Q' a) : Yields source p Q' :=
  ⟨fun hts h' => (hp.yields hts h').imp_left (h _)⟩

theorem peek : Yields source peek fun _ => True :=
  ⟨fun hts h => ⟨trivial, (EStateM.Result.ok.inj h).2 ▸ hts⟩⟩

theorem identifier : Yields source identifier fun i => Stands source i.value where
  yields {ts i rest} hts h := by
    obtain ⟨t, rfl, ht⟩ := identifier_eq_ok.1 h
    exact ⟨⟨t, hts.subset List.mem_cons_self, i, ht, rfl⟩, (List.suffix_cons t rest).trans hts⟩

theorem typedName : Yields source typedName fun named => Stands source named.1.value :=
  .bind identifier fun _ hcolumn => .skip fun _ => .pure hcolumn

/-- A declaration with its place is what is read there. -/
theorem placedName : Yields source placedName fun named => named.2.start <:+ source ∧
    Parser.typedName named.2.start = .ok (named.1, named.2.type) named.2.rest where
  yields {ts named rest} hts h := by
    obtain ⟨hread, rfl, rfl⟩ := placedName_eq_ok.1 h
    have htakes := Follows.takes (s := .finish) (q := Parser.typedName) hread
    exact ⟨⟨hts, hread⟩, htakes.trans hts⟩

theorem commaSeparated (hp : Yields source p Q) :
    Yields source (commaSeparated p) fun list => ∀ a ∈ list, Q a := by
  have hcount (count : Nat) :
      Yields source (commaSeparatedUpTo p count) fun list => ∀ a ∈ list, Q a := by
    induction count with
    | zero => exact .bind hp fun a ha => .pure (List.forall_mem_singleton.2 ha)
    | succ count ih =>
      refine .bind hp fun a ha => .skip fun comma => .ite ?_ ?_
      · exact .bind ih fun list hlist => .pure (List.forall_mem_cons.2 ⟨ha, hlist⟩)
      · exact .pure (List.forall_mem_singleton.2 ha)
  exact .skip fun count => hcount count

/-- The part of a name that counts. -/
theorem name : Yields source name fun n => Stands source (Name.last n) := by
  have hcount (count : Nat) : Yields source (nameUpTo count) fun n =>
      n ≠ [] ∧ Stands source (Name.last n) := by
    induction count with
    | zero => exact .bind identifier fun i hi => .pure ⟨List.cons_ne_nil i [], hi⟩
    | succ count ih =>
      refine .bind identifier fun i hi => .skip fun period => .ite ?_ ?_
      · refine .bind ih fun n hn => .pure ⟨List.cons_ne_nil i n, ?_⟩
        rw [Name.last, List.getLast?_cons_of_ne_nil hn.1]
        exact hn.2
      · exact .pure ⟨List.cons_ne_nil i [], hi⟩
  exact .skip fun count => (hcount count).mono fun n hn => hn.2

theorem customType : Yields source customType fun type =>
    ∀ n modifiers, type = .custom n modifiers → Stands source (Name.last n) := by
  refine .bind name fun n hn => .skip fun _ => .ite (.skip fun modifiers => .pure ?_) (.pure ?_)
  all_goals
    rintro _ _ ⟨⟩
    exact hn

theorem columnList :
    Yields source columnList fun columns => ∀ i ∈ columns, Stands source i.value := by
  refine .skip fun parenthesis => .ite ?_ .expected
  exact .bind (.commaSeparated identifier) fun columns hcolumns => .skip fun _ => .pure hcolumns

theorem keyColumns :
    Yields source keyColumns fun columns => ∀ i ∈ columns, Stands source i.value :=
  .skip fun _ => .skip fun _ => columnList

/-- No other constraint than a primary key names columns of a key. -/
theorem tableConstraint? :
    Yields source tableConstraint? fun found => ∀ c ∈ found, c.ReadIn source := by
  have hother {c : TableConstraint} (hc : c.ReadIn source) :
      Yields source (Pure.pure (some c)) fun found => ∀ c ∈ found, c.ReadIn source :=
    .pure fun c' hc' => Option.some.inj hc' ▸ hc
  unfold Parser.tableConstraint?
  extract_lets constraint
  have hconstraint (label : Option Ident) :
      Yields source (constraint label) fun found => ∀ c ∈ found, c.ReadIn source := by
    refine .skip fun _ => .ite (.bind keyColumns fun columns hcolumns => hother hcolumns) ?_
    refine .skip fun _ => .ite (.skip fun _ => hother trivial) ?_
    refine .skip fun _ => .ite ?_ ?_
    · iterate 6 refine .skip fun _ => ?_
      exact hother trivial
    refine .skip fun _ => .ite (.skip fun _ => hother trivial) ?_
    refine .skip fun _ => .ite (.skip fun _ => hother trivial) ?_
    refine .bind .peek fun found _ => .skip fun _ => .ite ?_ ?_
    · split
      · exact .never fun _ => ⟨_, _, rfl⟩
      · exact .skip fun _ => hother trivial
    · refine .ite (.never fun _ => ⟨_, _, rfl⟩) (.pure fun c hc => ?_)
      exact absurd hc (Option.not_mem_none c)
  refine .skip fun _ => .ite ?_ (hconstraint none)
  exact .skip fun label => hconstraint label

/-- What is known of the name and the type of a column is known of its definition. -/
theorem columnDef {R : Ident × τ → Prop} (h : Yields source typed R) :
    Yields source (columnDef typed) fun d => R (d.name, d.type) := by
  have hoptions := Follows.optionsUpTo (s := .finish)
  refine .bind h fun ⟨column, type⟩ hread => .skip fun _ => ?_
  have hcolumn (options : List ColumnOption) : Yields source
      (Pure.pure (f := Parser) (⟨column, type, options⟩ : ColumnDef τ))
      fun d => R (d.name, d.type) :=
    .pure hread
  split
  · exact .skip fun _ => .skip fun _ => .skip fun options => hcolumn options
  · exact .skip fun _ => .skip fun options => hcolumn options

theorem changeOp {R : Ident × τ → Prop} (h : Yields source typed R) :
    Yields source (changeOp typed) fun op =>
      ∃ old new type options, op = .changeColumn old new type options ∧ R (new, type) := by
  have := Follows.bareOptionsUpTo (s := .finish)
  refine .skip fun _ => .skip fun old => .bind h fun ⟨new, type⟩ hread => ?_
  exact .skip fun _ => .skip fun options => .pure ⟨old, new, type, options, rfl, hread⟩

end Yields

/-! ### From parts to statements -/

/-- Whether an operation brings something into a table that stands in the list. -/
def AlterOp.brings : AlterOp τ → Bool
  | .addConstraint _ | .addColumn _ | .renameTable _ | .renameColumn .. | .changeColumn .. => true
  | _ => false

/-- The operation that adds an item to a table. -/
def itemOp : ColumnDef τ ⊕ TableConstraint → AlterOp τ :=
  Sum.elim .addColumn .addConstraint

/-- Properties of operations, table names and statements that a statement has if its parts have
theirs, and that the parts have as they are read. -/
structure Composes (typed : Parser (Ident × τ)) (source : List Located) (A : AlterOp τ → Prop)
    (N : Name → Prop) (S : Statement τ → Prop) : Prop where
  addConstraint : Yields source tableConstraint? fun found => ∀ c ∈ found, A (.addConstraint c)
  addColumn : Yields source (columnDef typed) fun d => A (.addColumn d)
  renameTable : Yields source name fun n => A (.renameTable n)
  renameColumn : Yields source identifier fun new => ∀ old, A (.renameColumn old new)
  changeColumn : Yields source (changeOp typed) A
  otherOp (op : AlterOp τ) (h : op.brings = false) : A op
  name : Yields source name N
  createTable {table : Name} {items : List (ColumnDef τ ⊕ TableConstraint)} (ifNotExists : Bool)
    (htable : N table) (hitems : ∀ item ∈ items, A (itemOp item)) :
    S (.createTable (.ofItems table ifNotExists items))
  alterTable {ops : List (AlterOp τ)} (table : Name) (hops : ∀ op ∈ ops, A op) :
    S (.alterTable table ops)
  dropTables (ifExists : Bool) (names : List Name) : S (.dropTables ifExists names)
  other : S .other

namespace Composes

variable {A : AlterOp τ → Prop} {N : Name → Prop} {S : Statement τ → Prop}
  (h : Composes typed source A N S)

include h

theorem tableItem : Yields source (tableItem typed) fun item => A (itemOp item) := by
  refine .bind h.addConstraint fun found hfound => ?_
  cases found with
  | some c => exact .pure (hfound c rfl)
  | none =>
    refine .bind .peek fun next _ => ?_
    split
    · exact .bind h.addColumn fun d hd => .pure hd
    · exact .never fun _ => ⟨_, _, rfl⟩

theorem tableItems :
    Yields source (tableItems typed) fun items => ∀ item ∈ items, A (itemOp item) := by
  have hcount (count : Nat) : Yields source (tableItemsUpTo typed count) fun items =>
      ∀ item ∈ items, A (itemOp item) := by
    induction count with
    | zero => exact .expected
    | succ count ih =>
      refine .bind h.tableItem fun item hitem => .skip fun comma => .skip fun _ => .ite ?_ ?_
      · exact .pure (List.forall_mem_singleton.2 hitem)
      · refine .ite ?_ .expected
        exact .bind ih fun items hitems => .pure (List.forall_mem_cons.2 ⟨hitem, hitems⟩)
  refine .skip fun _ => .ite ?_ (.pure (List.forall_mem_nil _))
  exact .skip fun _ => .ite (.pure (List.forall_mem_nil _)) (.skip fun count => hcount (count + 1))

theorem newTable : Yields source (Parser.createTable typed) fun d => S (.createTable d) := by
  refine .skip fun ifNotExists => .bind h.name fun table htable => ?_
  extract_lets rest₃ rest₂ rest₁
  have h₃ (u : Unit) : Yields source (rest₃ u) fun d => S (.createTable d) :=
    .bind h.tableItems fun items hitems => .skip fun _ => .pure (h.createTable _ htable hitems)
  have h₂ (u : Unit) : Yields source (rest₂ u) fun d => S (.createTable d) :=
    .skip fun _ => .ite (.skip fun _ => h₃ ()) (h₃ ())
  have h₁ (u : Unit) : Yields source (rest₁ u) fun d => S (.createTable d) :=
    .skip fun _ => .ite (.skip fun _ => h₂ ()) (h₂ ())
  exact .skip fun _ => .ite (.skip fun _ => h₁ ()) (h₁ ())

theorem newExternalTable :
    Yields source (createExternalTable typed) fun d => S (.createTable d) := by
  refine .skip fun _ => .skip fun ifNotExists => .bind h.name fun table htable => ?_
  refine .bind h.tableItems fun items hitems => .skip fun _ => .skip fun _ => ?_
  exact .pure (h.createTable ifNotExists htable hitems)

theorem addOp : Yields source (addOp typed) A := by
  refine .bind h.addConstraint fun found hfound => ?_
  cases found with
  | some c => exact .pure (hfound c rfl)
  | none =>
    refine .skip fun _ => .skip fun _ => .ite (.skip fun _ => .pure (h.otherOp _ rfl)) ?_
    exact .skip fun _ => .bind h.addColumn fun d hd => .pure hd

theorem renameOp : Yields source renameOp A := by
  refine .skip fun _ => .ite (.bind h.renameTable fun newName hname => .pure hname) ?_
  refine .skip fun _ => .skip fun old => .skip fun _ => ?_
  exact .bind h.renameColumn fun new hnew => .pure (hnew old)

theorem dropOp : Yields source dropOp A := by
  iterate 2 refine .skip fun _ => .ite (.skip fun _ => .pure (h.otherOp _ rfl)) ?_
  refine .skip fun _ => .ite ?_ ?_
  · iterate 3 refine .skip fun _ => ?_
    exact .pure (h.otherOp _ rfl)
  refine .skip fun _ => .ite (.pure (h.otherOp _ rfl)) ?_
  iterate 4 refine .skip fun _ => ?_
  exact .pure (h.otherOp _ rfl)

theorem alterColumnOp : Yields source alterColumnOp A := by
  refine .skip fun _ => .skip fun column => ?_
  have hcolumn := h.otherOp (.alterColumn column) rfl
  iterate 2 refine .skip fun _ => .ite (.pure hcolumn) ?_
  refine .skip fun _ => .ite (.skip fun _ => .pure hcolumn) ?_
  refine .skip fun _ => .ite (.pure hcolumn) ?_
  exact .skip fun _ => .ite (.skip fun _ => .pure hcolumn) .expected

theorem alterOp : Yields source (alterOp typed) A := by
  refine .skip fun _ => .ite h.addOp (.skip fun _ => .ite h.renameOp ?_)
  refine .skip fun _ => .ite h.dropOp (.skip fun _ => .ite ?_ ?_)
  · iterate 5 refine .skip fun _ => ?_
    exact .pure (h.otherOp _ rfl)
  refine .skip fun _ => .ite h.changeColumn (.skip fun _ => .ite h.alterColumnOp ?_)
  refine .skip fun _ => .ite (.skip fun _ => .skip fun _ => .pure (h.otherOp _ rfl)) ?_
  exact .expected

theorem alterStatement : Yields source (alterStatement typed) S := by
  refine .skip fun _ => .ite ?_ ?_
  · refine .skip fun _ => .skip fun _ => .skip fun table => ?_
    exact .bind (.commaSeparated h.alterOp) fun ops hops => .pure (h.alterTable table hops)
  iterate 2 refine .skip fun _ => .ite (.skip fun _ => .pure h.other) ?_
  exact .skip fun _ => .ite (.never fun _ => ⟨_, _, rfl⟩) .expected

theorem createStatement : Yields source (createStatement typed) S := by
  iterate 6 refine .skip fun _ => ?_
  refine .skip fun _ => .ite (.bind h.newTable fun d hd => .pure hd) ?_
  refine .skip fun _ => .ite (.skip fun _ => .skip fun _ => .pure h.other) ?_
  refine .skip fun _ => .ite (.skip fun _ => .pure h.other) ?_
  refine .skip fun _ => .ite (.bind h.newExternalTable fun d hd => .pure hd) ?_
  refine .bind .peek fun found _ => .ite .expected ?_
  iterate 4 refine .skip fun _ => .ite (.skip fun _ => .pure h.other) ?_
  exact .expected

theorem dropStatement : Yields source dropStatement S := by
  refine .skip fun _ => .skip fun _ => .ite (.skip fun _ => .pure (h.dropTables _ _)) ?_
  iterate 2 refine .skip fun _ => .ite (.skip fun _ => .pure h.other) ?_
  refine .skip fun _ => .ite ?_ .expected
  iterate 3 refine .skip fun _ => ?_
  exact .pure h.other

theorem setStatement : Yields source setStatement S := by
  unfold Parser.setStatement
  extract_lets done
  have hdone (u : Unit) : Yields source (done u) S := .pure h.other
  clear_value done
  dsimp only
  -- whatever is set, all ways through the rule end in the same step
  repeat' first
    | exact hdone _
    | refine .ite ?_ ?_
    | refine .skip fun _ => ?_

theorem truncateStatement : Yields source truncateStatement S := by
  refine .skip fun _ => .skip fun _ => .skip fun _ => .ite ?_ (.pure h.other)
  exact .skip fun _ => .pure h.other

theorem statement : Yields source (statement typed) S := by
  refine .skip fun _ => .ite h.createStatement (.skip fun _ => .ite h.alterStatement ?_)
  refine .skip fun _ => .ite h.dropStatement (.skip fun _ => .ite h.setStatement ?_)
  refine .skip fun _ => .ite h.truncateStatement (.skip fun _ => .ite (.pure h.other) ?_)
  refine .skip fun _ => .ite (.skip fun _ => .pure h.other) ?_
  iterate 2 refine .skip fun _ => .ite (.skip fun _ => .skip fun _ => .pure h.other) ?_
  exact .skip fun _ => .ite (.skip fun _ => .pure h.other) .expected

theorem statements :
    Yields source (statements typed) fun list => ∀ statement ∈ list, S statement := by
  have hcount (count : Nat) (delimited : Bool) :
      Yields source (statementsUpTo typed count delimited) fun list =>
        ∀ statement ∈ list, S statement := by
    induction count generalizing delimited with
    | zero => exact .expected
    | succ count ih =>
      refine .skip fun _ => .bind .peek fun found _ => ?_
      split
      · exact .pure (List.forall_mem_nil _)
      refine .ite (.pure (List.forall_mem_nil _)) (.ite ?_ .expected)
      refine .bind h.statement fun first hfirst => .bind (ih false) fun list hlist => ?_
      exact .pure (List.forall_mem_cons.2 ⟨hfirst, hlist⟩)
  exact .skip fun count => hcount (count + 1) true

end Composes

namespace Yields

/-- The names that statements bring into tables stand in the list. Those of what is dropped need
not. -/
theorem composes_readIn : Composes Parser.typedName source (AlterOp.ReadIn source)
    (fun n => Stands source (Name.last n)) (Statement.ReadIn source) where
  addConstraint := tableConstraint?
  addColumn := columnDef typedName
  renameTable := name
  renameColumn := identifier.mono fun _ hnew _ => hnew
  changeColumn := (changeOp typedName).mono fun _ ⟨_, _, _, _, hop, hnew⟩ => hop ▸ hnew
  otherOp op hop := by cases op <;> trivial
  name := name
  createTable ifNotExists htable hitems := by
    refine ⟨htable, fun d hd => ?_, fun c hc => ?_⟩
    · obtain ⟨item, hitem, hd⟩ := List.mem_filterMap.1 hd
      obtain rfl := Sum.getLeft?_eq_some_iff.1 hd
      exact hitems _ hitem
    · obtain ⟨item, hitem, hc⟩ := List.mem_filterMap.1 hc
      obtain rfl := Sum.getRight?_eq_some_iff.1 hc
      exact hitems _ hitem
  alterTable _ hops := hops
  dropTables _ _ := trivial
  other := trivial

/-- Only definitions and changes of columns declare anything of them. -/
theorem composes_specs {Q : ColumnSpec τ → Prop}
    (hcolumn : Yields source (Parser.columnDef typed) fun d => Q d.spec)
    (hchange : Yields source (Parser.changeOp typed) fun op => ∀ spec ∈ op.specs, Q spec) :
    Composes typed source (fun op => ∀ spec ∈ op.specs, Q spec) (fun _ => True)
      fun statement => ∀ spec ∈ statement.specs, Q spec where
  addConstraint := .mono .takes fun _ _ _ _ => List.forall_mem_nil _
  addColumn := hcolumn.mono fun d hd => List.forall_mem_singleton.2 hd
  renameTable := .mono .takes fun _ _ => List.forall_mem_nil _
  renameColumn := .mono .takes fun _ _ _ => List.forall_mem_nil _
  changeColumn := hchange
  otherOp op hop := by cases op <;> simp [AlterOp.brings, AlterOp.specs] at hop ⊢
  name := .takes
  createTable ifNotExists _ hitems := by
    refine List.forall_mem_map.2 fun d hd => ?_
    obtain ⟨item, hitem, hd⟩ := List.mem_filterMap.1 hd
    obtain rfl := Sum.getLeft?_eq_some_iff.1 hd
    exact hitems _ hitem d.spec List.mem_cons_self
  alterTable _ hops := List.forall_mem_flatMap.2 hops
  dropTables _ _ := List.forall_mem_nil _
  other := List.forall_mem_nil _

/-- What statements declare of columns is what is read at the places that they give. -/
theorem specs_placed : Yields source (statements Parser.placedName) fun list =>
    ∀ statement ∈ list, ∀ spec ∈ statement.specs, spec.type.start <:+ source ∧
      ∃ column, Parser.typedName spec.type.start = .ok (column, spec.type.type) spec.type.rest := by
  have hplaced : Yields source Parser.placedName fun named => named.2.start <:+ source ∧
      ∃ column, Parser.typedName named.2.start = .ok (column, named.2.type) named.2.rest :=
    placedName.mono fun named hread => hread.imp_right fun hread => ⟨named.1, hread⟩
  refine (composes_specs (columnDef hplaced) ?_).statements
  refine (changeOp hplaced).mono ?_
  rintro _ ⟨_, _, _, _, rfl, hread⟩
  exact List.forall_mem_singleton.2 hread

end Yields

end SqlModels.Sql
