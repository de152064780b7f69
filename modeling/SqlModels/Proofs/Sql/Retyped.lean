import SqlModels.Proofs.Sql.Constraints

/-!
Statements as functions of the type of one column, and that the rules of table definitions and of
changes to tables give such functions where they cross the site of the column.
-/

-- A rule of many steps is a large instance.
set_option synthInstance.maxSize 1000

namespace SqlModels.Sql

open SqlModels.Sql.Parser

variable {α β : Type}

/-- A list as a function of a type on which one item depends. -/
def ListHole (Hole : (DataType → α) → Prop) (list : DataType → List α) : Prop :=
  ∃ before item behind, Hole item ∧ list = fun σ => before ++ item σ :: behind

theorem ListHole.cons {Hole : (DataType → α) → Prop} {list : DataType → List α}
    (h : ListHole Hole list) (a : α) : ListHole Hole fun σ => a :: list σ := by
  obtain ⟨before, item, behind, hitem, rfl⟩ := h
  exact ⟨a :: before, item, behind, hitem, rfl⟩

theorem listHole_head {Hole : (DataType → α) → Prop} {item : DataType → α} (h : Hole item)
    (behind : List α) : ListHole Hole fun σ => item σ :: behind :=
  ⟨[], item, behind, h, rfl⟩

/-- A column as a function of its type. -/
def ColumnDef.Hole (column : Ident) (d : DataType → ColumnDef) : Prop :=
  ∃ options, d = fun σ => ⟨column, σ, options⟩

/-- An item of a table as a function of the type of a column. -/
def ItemHole (column : Ident) (item : DataType → ColumnDef ⊕ TableConstraint) : Prop :=
  ∃ d, ColumnDef.Hole column d ∧ item = fun σ => .inl (d σ)

/-- A table as a function of the type of one of its columns. -/
def CreateTable.Hole (column : Ident) (table : DataType → CreateTable) : Prop :=
  ∃ name ifNotExists columns constraints, ListHole (ColumnDef.Hole column) columns ∧
    table = fun σ => ⟨name, ifNotExists, columns σ, constraints⟩

/-- A change of a table as a function of the type of the column that it declares. -/
def AlterOp.Hole (column : Ident) (op : DataType → AlterOp) : Prop :=
  (∃ d, ColumnDef.Hole column d ∧ op = fun σ => .addColumn (d σ)) ∨
    ∃ old options, op = fun σ => .changeColumn old column σ options

/-- A statement as a function of the type of a column that it declares. -/
def Statement.Hole (column : Ident) (statement : DataType → Statement) : Prop :=
  (∃ table, CreateTable.Hole column table ∧ statement = fun σ => .createTable (table σ)) ∨
    ∃ name ops, ListHole (AlterOp.Hole column) ops ∧ statement = fun σ => .alterTable name (ops σ)

/-- The table of a list of items is a function of the type of a column if the list is one. -/
theorem CreateTable.hole_ofItems {column : Ident} {name : Name} {ifNotExists : Bool}
    {items : DataType → List (ColumnDef ⊕ TableConstraint)} (h : ListHole (ItemHole column) items) :
    CreateTable.Hole column fun σ => .ofItems name ifNotExists (items σ) := by
  obtain ⟨before, _, behind, ⟨d, hd, rfl⟩, rfl⟩ := h
  refine ⟨name, ifNotExists, _, (before ++ behind).filterMap Sum.getRight?,
    ⟨before.filterMap Sum.getLeft?, d, behind.filterMap Sum.getLeft?, hd, rfl⟩, ?_⟩
  funext σ
  simp [CreateTable.ofItems, List.filterMap_append, List.filterMap_cons]

namespace Site

/-- That the column goes on as no column can. -/
def Open (x : Site) : Prop :=
  ∃ t rest, x.behind = t :: rest ∧ (t.token = .symbol .leftParen ∨ t.token = .symbol .period)

/-- That something is a function of the type of the column, and stops behind the type if the column
goes on as no column can. -/
def Hole (x : Site) (H : (DataType → α) → Prop) (part : DataType → α)
    (rest : List Located) : Prop :=
  H part ∧ (x.Open → rest = x.behind)

/-- That something is a function of the type of the column, and the column goes on as columns do. -/
def Whole (x : Site) (H : (DataType → α) → Prop) (part : DataType → α) (_ : List Located) : Prop :=
  H part ∧ ¬x.Open

end Site

/-- What follows the name and the type of a column. -/
def Parser.columnRest : Parser (List ColumnOption) := do
  if ← keyword? .COLLATE then let _ ← name
  optionsUpTo (← remaining)

theorem Parser.columnDef_eq (typed : Parser (Ident × DataType)) :
    columnDef typed = typed >>= fun named => columnRest >>= fun options =>
      pure ⟨named.1, named.2, options⟩ := by
  unfold columnDef columnRest
  refine congrArg (typed >>= ·) (funext fun named => ?_)
  rw [bind_assoc]
  refine congrArg (keyword? .COLLATE >>= ·) (funext fun collated => ?_)
  cases collated <;> simp

namespace Site

variable {x : Site}

/-- What takes no symbol takes nothing behind a column that goes on as no column can. -/
theorem Open.stuck (hx : x.Open) {p : Parser α} {a b : α} {rest : List Located}
    (hp : ∀ y place ts, p (⟨.symbol y, place⟩ :: ts) = .ok a (⟨.symbol y, place⟩ :: ts))
    (h : p x.behind = .ok b rest) : rest = x.behind := by
  obtain ⟨⟨token, place⟩, ts, hbehind, ht⟩ := hx
  obtain ⟨y, rfl⟩ : ∃ y, token = .symbol y := by
    rcases ht with ht | ht <;> exact ⟨_, ht⟩
  rw [hbehind, hp] at h
  rw [hbehind, (EStateM.Result.ok.inj h).2]

/-- No option and no collation starts with a symbol. -/
theorem columnRest_stuck {options : List ColumnOption} {rest : List Located} (hx : x.Open)
    (h : columnRest x.behind = .ok options rest) : rest = x.behind := by
  have hoptions (count : Nat) (y : Symbol) (place : Position) (ts : List Located) :
      optionsUpTo count (⟨.symbol y, place⟩ :: ts) = .ok [] (⟨.symbol y, place⟩ :: ts) := by
    cases count <;> rfl
  exact hx.stuck (p := columnRest) (fun y place ts => hoptions _ y place ts) h

theorem bareOptions_stuck {count : Nat} {options : List ColumnOption} {rest : List Located}
    (hx : x.Open) (h : bareOptionsUpTo count x.behind = .ok options rest) : rest = x.behind :=
  hx.stuck (fun _ _ _ => by cases count <;> rfl) h

/-- Neither a comma nor a closing parenthesis nor a semicolon follows. -/
theorem Open.symbol?_neg (hx : x.Open) {y : Symbol} (hy : y ≠ .leftParen ∧ y ≠ .period) :
    symbol? y x.behind = .ok false x.behind := by
  obtain ⟨t, rest, hbehind, ht⟩ := hx
  rw [hbehind]
  refine Parser.symbol?_neg (fun h => ?_) rest
  rcases ht with ht | ht
  · exact hy.1 (Token.symbol.inj (h.symm.trans ht))
  · exact hy.2 (Token.symbol.inj (h.symm.trans ht))

end Site

/-- What stands behind an item of a table: the end of the list, or further items. -/
def Parser.furtherItems (typed : Parser (Ident × DataType)) (count : Nat) :
    Parser (List (ColumnDef ⊕ TableConstraint)) := do
  let comma ← symbol? .comma
  if ← symbol? .rightParen then return []
  else if comma then tableItemsUpTo typed count
  else expected .columnEnd

theorem Parser.tableItemsUpTo_succ (typed : Parser (Ident × DataType)) (count : Nat) :
    tableItemsUpTo typed (count + 1) =
      tableItem typed >>= fun item => furtherItems typed count >>= fun items =>
        pure (item :: items) := by
  rw [tableItemsUpTo]
  refine congrArg (tableItem typed >>= ·) (funext fun item => ?_)
  simp only [furtherItems, bind_assoc]
  refine congrArg (symbol? .comma >>= ·) (funext fun comma => ?_)
  refine congrArg (symbol? .rightParen >>= ·) (funext fun close => ?_)
  cases close <;> cases comma <;> simp
  rfl

/-- What stands behind one of several items: nothing more, or further items behind a comma. -/
def Parser.furtherOf (item : Parser α) (count : Nat) : Parser (List α) := do
  if ← symbol? .comma then commaSeparatedUpTo item count else return []

theorem Parser.commaSeparatedUpTo_succ (item : Parser α) (count : Nat) :
    commaSeparatedUpTo item (count + 1) =
      item >>= fun first => furtherOf item count >>= fun further => pure (first :: further) := by
  rw [commaSeparatedUpTo]
  refine congrArg (item >>= ·) (funext fun first => ?_)
  rw [furtherOf, bind_assoc]
  refine congrArg (symbol? .comma >>= ·) (funext fun comma => ?_)
  cases comma <;> simp

/-- Every change of a table starts with a word. -/
theorem Parser.alterOp_word {ts rest : List Located} {op : AlterOp}
    (h : alterOp typedName ts = .ok op rest) : ∃ w place us, ts = ⟨.word w, place⟩ :: us := by
  rcases ts with _ | ⟨⟨token, place⟩, ts⟩
  · exact nomatch h
  · cases token with
    | word w => exact ⟨w, place, ts, rfl⟩
    | _ => exact nomatch h

/-- Every item of a table starts with a word. -/
theorem Parser.tableItem_word {ts rest : List Located} {item : ColumnDef ⊕ TableConstraint}
    (h : tableItem typedName ts = .ok item rest) : ∃ w place us, ts = ⟨.word w, place⟩ :: us := by
  obtain ⟨c, us, hc, h⟩ := bind_eq_ok.1 h
  cases ts with
  | nil => 
    obtain ⟨rfl, rfl⟩ := EStateM.Result.ok.inj ((tableConstraint?_neg (by simp)).symm.trans hc)
    exact nomatch h
  | cons t ts =>
    obtain ⟨token, place⟩ := t
    cases token with
    | word w => exact ⟨w, place, ts, rfl⟩
    | _ =>
      have hnone := tableConstraint?_neg (by rintro t ⟨⟩; rfl) |>.symm.trans hc
      obtain ⟨rfl, rfl⟩ := EStateM.Result.ok.inj hnone
      exact nomatch h

theorem Parser.tableItemsUpTo_word {count : Nat} {ts rest : List Located}
    {items : List (ColumnDef ⊕ TableConstraint)}
    (h : tableItemsUpTo typedName count ts = .ok items rest) :
    ∃ w place us, ts = ⟨.word w, place⟩ :: us := by
  cases count with
  | zero => exact nomatch h
  | succ count =>
    obtain ⟨item, us, hitem, -⟩ := bind_eq_ok.1 h
    exact tableItem_word hitem

/-- Behind a statement there is a semicolon, the end of the text, or a word `END`. -/
theorem Parser.statementsUpTo_delimits {count : Nat} {ts rest : List Located}
    {list : List Statement} (h : statementsUpTo typedName count false ts = .ok list rest) :
    (∃ t us, ts = t :: us ∧ t.token = .symbol .semicolon) ∨
      rest = ts ∧ ∀ t ∈ ts.head?, t.token.is .END := by
  cases count with
  | zero => exact nomatch h
  | succ count =>
    cases ts with
    | nil => exact .inr ⟨(EStateM.Result.ok.inj h).2.symm, nofun⟩
    | cons t us =>
      by_cases ht : t.token = .symbol .semicolon
      · exact .inl ⟨t, us, rfl, ht⟩
      have hnone : semicolons (t :: us) = .ok false (t :: us) := by simp [semicolons, ht]
      have hpeek : peek (t :: us) = .ok (some t) (t :: us) := rfl
      rw [statementsUpTo, bind_of_ok hnone, bind_of_ok hpeek] at h
      by_cases hend : t.token.is .END = true
      · simp only [hend, if_true] at h
        refine .inr ⟨(pure_eq_ok.1 h).2.symm, fun u hu => ?_⟩
        exact Option.some.inj hu ▸ hend
      · simp only [if_neg hend] at h
        exact nomatch h

/-- Further items that cross the column start with a comma. -/
theorem Crossing.ends_furtherItems {x : Site}
    {Hole : (DataType → List (ColumnDef ⊕ TableConstraint)) → List Located → Prop} {count : Nat}
    {us rest : List Located} {items : List (ColumnDef ⊕ TableConstraint)}
    (h : Crossing x Hole (fun typed => furtherItems typed count) us items rest) : Ends us := by
  obtain ⟨comma, us₁, hcomma, hrun⟩ := bind_eq_ok.1 h.run
  obtain ⟨close, us₂, hclose, hitems⟩ := bind_eq_ok.1 hrun
  have hleft : x.left <:+ us₁ := by
    cases comma with
    | true =>
      obtain ⟨t, rfl, ht⟩ := symbol?_true hcomma
      exact Site.left_suffix_of_symbol h.starts ht
    | false => exact symbol?_false hcomma ▸ h.starts
  cases close with
  | true =>
    obtain ⟨t, rfl, ht⟩ := symbol?_true hclose
    obtain ⟨-, rfl⟩ := pure_eq_ok.1 hitems
    exact absurd (Site.left_suffix_of_symbol hleft ht) (x.not_left_suffix h.ends)
  | false =>
    obtain rfl := symbol?_false hclose
    cases comma with
    | false => exact nomatch hitems
    | true =>
      obtain ⟨t, rfl, ht⟩ := symbol?_true hcomma
      obtain ⟨w, place, us, rfl⟩ := tableItemsUpTo_word hitems
      exact .comma ht

/-- Whatever follows behind a comma, where it crosses the column, starts with that comma. -/
theorem Crossing.ends_furtherOf {x : Site} {Hole : (DataType → List α) → List Located → Prop}
    {item : Parser (Ident × DataType) → Parser α} {count : Nat} {us rest : List Located}
    {as : List α} (h : Crossing x Hole (fun typed => furtherOf (item typed) count) us as rest)
    (hword : ∀ {ts a rest}, item typedName ts = .ok a rest →
      ∃ w place us, ts = ⟨.word w, place⟩ :: us) : Ends us := by
  obtain ⟨comma, us₁, hcomma, hitems⟩ := bind_eq_ok.1 h.run
  cases comma with
  | false =>
    obtain ⟨-, rfl⟩ := pure_eq_ok.1 hitems
    obtain rfl := symbol?_false hcomma
    exact absurd h.starts (x.not_left_suffix h.ends)
  | true =>
    obtain ⟨t, rfl, ht⟩ := symbol?_true hcomma
    obtain ⟨a, us₂, ha⟩ : ∃ a us₂, item typedName us₁ = .ok a us₂ := by
      cases count with
      | zero =>
        obtain ⟨a, us₂, ha, -⟩ := bind_eq_ok.1 hitems
        exact ⟨a, us₂, ha⟩
      | succ count =>
        obtain ⟨a, us₂, ha, -⟩ := bind_eq_ok.1 hitems
        exact ⟨a, us₂, ha⟩
    obtain ⟨w, place, us, rfl⟩ := hword ha
    exact .comma ht

namespace Crosses

variable {x : Site}

theorem columnDef : Crosses x (x.Hole (ColumnDef.Hole x.column)) columnDef := by
  have := Follows.optionsUpTo (s := .finish)
  have hrest : Follows .finish columnRest columnRest := by
    unfold columnRest
    infer_instance
  rw [show Parser.columnDef = _ from funext columnDef_eq]
  refine typed.after hrest fun {S us options rest} hS h => ?_
  obtain ⟨rfl, rfl⟩ := hS
  exact ⟨⟨options, rfl⟩, fun hx => Site.columnRest_stuck hx h⟩

/-- A constraint of a table, and what stands there without one. -/
theorem constraint {Hole : (DataType → α) → List Located → Prop}
    {f : Option TableConstraint → Parser (Ident × DataType) → Parser α}
    (hsome : ∀ c, ∃ a, f (some c) = fun _ => pure a) (hnone : Crosses x Hole (f none)) :
    Crosses x Hole fun typed => tableConstraint? >>= fun c => f c typed := by
  refine bind (Follows.takes (s := .finish) (q := tableConstraint?)) (fun c => ?_)
    fun {ts ts' c us a rest} hts hc hleft hcross => ?_
  · cases c with
    | some c =>
      obtain ⟨a, ha⟩ := hsome c
      exact ha ▸ fixed inferInstance
    | none => exact hnone
  · cases c with
    | some c =>
      obtain ⟨a, ha⟩ := hsome c
      exact (ha ▸ hcross).false_of_pure.elim
    | none =>
      obtain ⟨rfl, hhead⟩ := tableConstraint?_none hc
      refine ⟨none, ts', tableConstraint?_neg fun t' ht' => ?_, hts, rfl⟩
      cases us with
      | nil =>
        rw [hts.nil] at ht'
        cases ht'
      | cons t us =>
        obtain ⟨t₁, ts₁, rfl, ht⟩ := hts.cons
        obtain rfl := Option.some.inj ht'
        exact ht ▸ hhead t rfl

theorem tableItem : Crosses x (x.Hole (ItemHole x.column)) tableItem := by
  have hcolumn : Crosses x (x.Hole (ItemHole x.column)) fun typed =>
      Parser.columnDef typed >>= fun d => pure (.inl d) :=
    columnDef.map fun hS => ⟨⟨_, hS.1, rfl⟩, hS.2⟩
  refine constraint (fun c => ⟨.inr c, rfl⟩) (peek (fun found => ?_) fun token _ _ => ?_)
  · split
    · exact hcolumn
    · exact fixed inferInstance
  · cases token with
    | word w => exact .inl rfl
    | _ => exact .inr fun _ _ _ h => by cases h

theorem tableItemsUpTo (count : Nat) :
    Crosses x (x.Whole (ListHole (ItemHole x.column))) fun typed =>
      Parser.tableItemsUpTo typed count := by
  induction count with
  | zero => exact fixed (p := expected .columnOrConstraint) inferInstance
  | succ count ih =>
    have hmore : Crosses x (x.Whole (ListHole (ItemHole x.column))) fun typed =>
        furtherItems typed count :=
      before inferInstance fun comma => before inferInstance fun close =>
        ite (fixed (p := pure []) inferInstance)
          (ite ih (fixed (p := expected .columnEnd) inferInstance))
    have (count : Nat) : Follows .finish (Parser.tableItemsUpTo typedName count)
        (Parser.tableItemsUpTo typedName count) := Follows.tableItemsUpTo count
    rw [funext fun typed => tableItemsUpTo_succ typed count]
    refine tableItem.pair hmore ?_ (fun {ts ts' item us items rest} hts h hcross => ?_) ?_ ?_
    · unfold furtherItems
      infer_instance
    · exact Site.before (fun s => inferInstance) hts h hcross.starts hcross.ends_furtherItems
    · rintro S us items rest ⟨hS, hopen⟩ hrest
      refine ⟨listHole_head hS _, fun hx => ?_⟩
      rw [hopen hx, furtherItems, bind_of_ok (hx.symbol?_neg (by decide)),
        bind_of_ok (hx.symbol?_neg (by decide))] at hrest
      exact nomatch hrest
    · rintro item S rest ⟨hS, hopen⟩
      exact ⟨hS.cons item, hopen⟩

theorem tableItems : Crosses x (x.Whole (ListHole (ItemHole x.column))) tableItems :=
  before inferInstance fun _ => ite
    (before inferInstance fun _ => ite (fixed (p := pure []) inferInstance)
      (before inferInstance fun count => tableItemsUpTo (count + 1)))
    (fixed (p := pure []) inferInstance)

theorem createTable : Crosses x (x.Whole (CreateTable.Hole x.column)) createTable := by
  have hrest (ifNotExists : Bool) (table : Name) : Crosses x (x.Whole (CreateTable.Hole x.column))
      fun typed => Parser.tableItems typed >>= fun items => tableOptions >>= fun _ =>
        pure (.ofItems table ifNotExists items) :=
    tableItems.after inferInstance fun hS _ => ⟨CreateTable.hole_ofItems hS.1, hS.2⟩
  unfold Parser.createTable
  refine before (Site.keywords? (by decide)) fun ifNotExists => before inferInstance fun table => ?_
  refine before (Site.keywords? (by decide)) fun clustered =>
    ite (before inferInstance fun _ => ?_) ?_
  all_goals
    refine before inferInstance fun _ => ite (before inferInstance fun _ => ?_) ?_ <;>
      exact before inferInstance fun _ => ite (before inferInstance fun _ => hrest _ _) (hrest _ _)

theorem createExternalTable :
    Crosses x (x.Whole (CreateTable.Hole x.column)) createExternalTable := by
  unfold Parser.createExternalTable
  refine before inferInstance fun _ => before (Site.keywords? (by decide)) fun ifNotExists =>
    before inferInstance fun table => ?_
  suffices h : Crosses x (x.Whole (CreateTable.Hole x.column)) fun typed =>
      Parser.tableItems typed >>= fun items =>
        (storage >>= fun _ => namedOptions .TBLPROPERTIES) >>= fun _ =>
          pure (.ofItems table ifNotExists items) by
    simpa only [bind_assoc] using h
  exact tableItems.after inferInstance fun hS _ => ⟨CreateTable.hole_ofItems hS.1, hS.2⟩

theorem addOp : Crosses x (x.Hole (AlterOp.Hole x.column)) addOp := by
  have hcolumn : Crosses x (x.Hole (AlterOp.Hole x.column)) fun typed =>
      Parser.columnDef typed >>= fun d => pure (.addColumn d) :=
    columnDef.map fun hS => ⟨.inl ⟨_, hS.1, rfl⟩, hS.2⟩
  refine constraint (fun c => ⟨.addConstraint c, rfl⟩) ?_
  let partitions : Parser AlterOp := partition >>= fun _ => pure .addPartitions
  have hpartitions : Follows .finish partitions partitions := by
    dsimp only [partitions]
    infer_instance
  exact before (Site.keywords? (by decide)) fun _ => before inferInstance fun _ =>
    ite (fixed hpartitions) (before inferInstance fun _ => hcolumn)

theorem changeOp : Crosses x (x.Hole (AlterOp.Hole x.column)) changeOp := by
  have := Follows.bareOptionsUpTo (s := .finish)
  refine before inferInstance fun _ => before inferInstance fun old => ?_
  suffices h : Crosses x (x.Hole (AlterOp.Hole x.column)) fun typed => typed >>= fun named =>
      (remaining >>= bareOptionsUpTo) >>= fun options =>
        pure (.changeColumn old named.1 named.2 options) by
    simpa only [bind_assoc] using h
  refine typed.after inferInstance fun {S us options rest} hS h => ?_
  obtain ⟨rfl, rfl⟩ := hS
  refine ⟨.inr ⟨old, options, rfl⟩, fun hx => ?_⟩
  exact Site.bareOptions_stuck hx (remaining_bind_eq_ok.1 h)

theorem alterOp : Crosses x (x.Hole (AlterOp.Hole x.column)) alterOp := by
  let swap : Parser AlterOp := do
    if ← keyword? .SWAP then
      expectKeyword .WITH
      return .swapWith (← name)
    else expected .alterOperation
  have hswap : Follows .finish swap swap := by
    dsimp only [swap]
    infer_instance
  unfold Parser.alterOp
  refine before inferInstance fun _ => ite addOp ?_
  refine before inferInstance fun _ => ite (fixed (p := renameOp) inferInstance) ?_
  refine before inferInstance fun _ => ite (fixed (p := dropOp) inferInstance) ?_
  refine before inferInstance fun _ => ite (fixed (p := renamePartitionsOp) inferInstance) ?_
  refine before inferInstance fun _ => ite changeOp ?_
  exact before inferInstance fun _ => ite (fixed (p := alterColumnOp) inferInstance) (fixed hswap)

/-- Items with commas between them, each of which starts with a word. -/
theorem commaSeparatedUpTo {H : (DataType → α) → Prop}
    {item : Parser (Ident × DataType) → Parser α} (hitem : Crosses x (x.Hole H) item)
    (hfollows : ∀ (s : Seam) [s.Closed] [s.Settled], Follows s (item typedName) (item typedName))
    (hword : ∀ {ts a rest}, item typedName ts = .ok a rest →
      ∃ w place us, ts = ⟨.word w, place⟩ :: us) (count : Nat) :
    Crosses x (x.Hole (ListHole H)) fun typed => Parser.commaSeparatedUpTo (item typed) count := by
  induction count with
  | zero => exact hitem.map fun hS => ⟨listHole_head hS.1 [], hS.2⟩
  | succ count ih =>
    have hfurther : Crosses x (x.Hole (ListHole H)) fun typed => furtherOf (item typed) count :=
      before inferInstance fun _ => ite ih (fixed (p := pure []) inferInstance)
    rw [funext fun typed => commaSeparatedUpTo_succ (item typed) count]
    refine hitem.pair hfurther ?_ (fun {ts ts' a us as rest} hts h hcross => ?_) ?_ ?_
    · have := hfollows .finish
      have (count : Nat) : Follows .finish (Parser.commaSeparatedUpTo (item typedName) count)
          (Parser.commaSeparatedUpTo (item typedName) count) := Follows.commaSeparatedUpTo count
      unfold furtherOf
      infer_instance
    · exact Site.before hfollows hts h hcross.starts (hcross.ends_furtherOf hword)
    · rintro S us as rest ⟨hS, hopen⟩ hrest
      refine ⟨listHole_head hS _, fun hx => ?_⟩
      rw [hopen hx, furtherOf, bind_of_ok (hx.symbol?_neg (by decide))] at hrest
      exact (pure_eq_ok.1 hrest).2.symm
    · rintro a S rest ⟨hS, hopen⟩
      exact ⟨hS.cons a, hopen⟩

theorem alterStatement : Crosses x (x.Hole (Statement.Hole x.column)) alterStatement := by
  have hops (table : Name) (count : Nat) : Crosses x (x.Hole (Statement.Hole x.column)) fun typed =>
      Parser.commaSeparatedUpTo (Parser.alterOp typed) count >>= fun ops =>
        pure (.alterTable table ops) :=
    (commaSeparatedUpTo alterOp (fun s => inferInstance) alterOp_word count).map fun hS =>
      ⟨.inr ⟨table, _, hS.1, rfl⟩, hS.2⟩
  let other : Parser Statement := do
    if ← keyword? .VIEW then
      alterView
      return .other
    if ← keyword? .INDEX then
      renameIndex
      return .other
    if ← keyword? .ROLE then throw .unalterableRole
    expected .alteredObject
  have hother : Follows .finish other other := by
    dsimp only [other]
    infer_instance
  refine before inferInstance fun _ => ite ?_ (fixed hother)
  refine before (Site.keywords? (by decide)) fun _ => before inferInstance fun _ =>
    before inferInstance fun table => ?_
  suffices h : Crosses x (x.Hole (Statement.Hole x.column)) fun typed => remaining >>= fun count =>
      Parser.commaSeparatedUpTo (Parser.alterOp typed) count >>= fun ops =>
        pure (.alterTable table ops) by
    simpa only [commaSeparated, bind_assoc] using h
  exact before inferInstance fun count => hops table count

theorem createStatement : Crosses x (x.Hole (Statement.Hole x.column)) createStatement := by
  have htable {p : Parser (Ident × DataType) → Parser CreateTable}
      (hp : Crosses x (x.Whole (CreateTable.Hole x.column)) p) :
      Crosses x (x.Hole (Statement.Hole x.column)) fun typed =>
        p typed >>= fun table => pure (.createTable table) :=
    hp.map fun hS => ⟨.inl ⟨_, hS.1, rfl⟩, fun hx => absurd hx hS.2⟩
  unfold Parser.createStatement
  iterate 2 refine before (Site.keywords? (by decide)) fun _ => ?_
  iterate 4 refine before inferInstance fun _ => ?_
  refine before inferInstance fun _ => ite (htable createTable) ?_
  iterate 2 refine before inferInstance fun _ => ite (fixed inferInstance) ?_
  refine before inferInstance fun _ => ite (htable createExternalTable) ?_
  refine fixed (.peek ?_ fun _ _ _ => ?_)
  all_goals
    refine .ite inferInstance ?_
    infer_instance

theorem statement : Crosses x (x.Hole (Statement.Hole x.column)) statement := by
  unfold Parser.statement
  refine before inferInstance fun _ => ite createStatement ?_
  refine before inferInstance fun _ => ite alterStatement ?_
  refine fixed ?_
  iterate 3 refine .bind inferInstance fun _ => .ite inferInstance ?_
  refine .bind inferInstance fun _ => .ite inferInstance ?_
  infer_instance

theorem statementsUpTo (count : Nat) (delimited : Bool) :
    Crosses x (x.Whole (ListHole (Statement.Hole x.column))) fun typed =>
      Parser.statementsUpTo typed count delimited := by
  induction count generalizing delimited with
  | zero => exact fixed (p := expected .statementEnd) inferInstance
  | succ count ih =>
    have hmore : Crosses x (x.Whole (ListHole (Statement.Hole x.column))) fun typed =>
        Parser.statement typed >>= fun first => Parser.statementsUpTo typed count false >>=
          fun further => pure (first :: further) := by
      refine statement.pair (ih false) (Follows.statementsUpTo count false)
        (fun {ts ts' first us further rest} hts h hcross => ?_) ?_ ?_
      · refine Site.before (fun s => inferInstance) hts h hcross.starts ?_
        obtain ⟨t, vs, rfl, ht⟩ | ⟨rfl, -⟩ := statementsUpTo_delimits hcross.run
        · exact .semicolon ht
        · exact absurd hcross.length_lt (lt_irrefl _)
      · rintro S us further rest ⟨hS, hopen⟩ hrest
        refine ⟨listHole_head hS _, fun hx => ?_⟩
        obtain ⟨t, us, hbehind, ht⟩ := hx
        obtain ⟨_, _, he, hsemicolon⟩ | ⟨-, hend⟩ :=
          statementsUpTo_delimits (hopen ⟨t, us, hbehind, ht⟩ ▸ hrest)
        · obtain ⟨rfl, rfl⟩ := List.cons.inj (hbehind.symm.trans he)
          simp [hsemicolon] at ht
        · have := hend t (by simp [hbehind])
          rcases ht with ht | ht <;> simp [ht, Token.is] at this
      · rintro first S rest ⟨hS, hopen⟩
        exact ⟨hS.cons first, hopen⟩
    unfold Parser.statementsUpTo
    refine before inferInstance fun _ => peek (fun found => ?_) fun _ _ _ => .inl rfl
    cases found with
    | none => exact fixed (p := pure []) inferInstance
    | some t =>
      exact ite (fixed (p := pure []) inferInstance)
        (ite hmore (fixed (p := expected .statementEnd) inferInstance))

theorem statements : Crosses x (x.Whole (ListHole (Statement.Hole x.column))) statements :=
  before inferInstance fun count => statementsUpTo (count + 1) true

end Crosses

end SqlModels.Sql
