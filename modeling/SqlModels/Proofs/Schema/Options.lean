import SqlModels.Schema.Column

/-!
The options of a column. Each of them tells one thing, and of those that tell the same thing the
last one counts; that rows are numbered, and that the column is a key, no option takes back. So
options of different kinds may stand in any order.
-/

namespace SqlModels

namespace Sql.ColumnOption

/-- What an option says about null values. -/
def nullable? : ColumnOption → Option Bool
  | .null => some true
  | .notNull => some false
  | _ => none

/-- The expression that an option declares as the default of a column, if it does. -/
def default? : ColumnOption → Option Expr
  | .default e => some e
  | _ => none

/-- Whether an option declares a primary key. -/
def isPrimaryKey : ColumnOption → Bool
  | .primaryKey => true
  | _ => false

theorem isPrimaryKey_iff {option : ColumnOption} :
    option.isPrimaryKey = true ↔ option = .primaryKey := by
  cases option <;> simp [isPrimaryKey]

theorem isAutoIncrement_iff {option : ColumnOption} : option.isAutoIncrement = true ↔
    ∃ tokens, option = .dialectSpecific tokens ∧
      ∃ t ∈ tokens, Text.eqIgnoringCase t.text "AUTO_INCREMENT".toList = true := by
  have hname : Keyword.AUTO_INCREMENT.name = "AUTO_INCREMENT" := rfl
  cases option with
  | dialectSpecific tokens => simp [isAutoIncrement, hname]
  | _ => simp [isAutoIncrement]

/-- What the grammar makes of the word. -/
example : (dialectSpecific [.ofKeyword .AUTO_INCREMENT]).isAutoIncrement = true := by
  decide

end Sql.ColumnOption

/-- The last of the images of some items is that of a later one, or else that of the first. -/
theorem getLast?_filterMap_cons {α β : Type} (f : α → Option β) (a : α) (rest : List α) :
    ((a :: rest).filterMap f).getLast? = (rest.filterMap f).getLast?.or (f a) := by
  cases ha : f a with
  | none => rw [List.filterMap_cons_none ha, Option.or_none]
  | some b =>
    rw [List.filterMap_cons_some ha, List.getLast?_cons]
    cases (rest.filterMap f).getLast? <;> rfl

namespace Column

open Sql (ColumnOption)

/-- What one more option changes, reading by reading. -/
theorem addOption_eq (read : ColumnOptions × Bool) (option : ColumnOption) : addOption read option =
    ({ read.1 with
        nullable := option.nullable?.getD read.1.nullable
        default := (option.default?.map defaultLiteral).or read.1.default
        autoIncrement := read.1.autoIncrement || option.isAutoIncrement },
      read.2 || option.isPrimaryKey) := by
  cases option with
  | dialectSpecific tokens =>
    cases hauto : (ColumnOption.dialectSpecific tokens).isAutoIncrement <;>
      simp [addOption, hauto, ColumnOption.nullable?, ColumnOption.default?,
        ColumnOption.isPrimaryKey]
  | _ =>
    simp [addOption, ColumnOption.nullable?, ColumnOption.default?, ColumnOption.isAutoIncrement,
      ColumnOption.isPrimaryKey]

/-- The readings of options one after another: the last one of a kind, or else what was read
before. -/
theorem foldl_addOption_eq (read : ColumnOptions × Bool) (options : List ColumnOption) :
    options.foldl addOption read =
      ({ read.1 with
          nullable := ((options.filterMap ColumnOption.nullable?).getLast?).getD read.1.nullable
          default := ((options.filterMap ColumnOption.default?).getLast?.map defaultLiteral).or
            read.1.default
          autoIncrement := read.1.autoIncrement || options.any ColumnOption.isAutoIncrement },
        read.2 || options.any ColumnOption.isPrimaryKey) := by
  induction options generalizing read with
  | nil => simp
  | cons option rest ih =>
    simp only [List.foldl_cons, ih, addOption_eq, getLast?_filterMap_cons, Option.getD_or,
      Option.map_or, Option.or_assoc, List.any_cons, Bool.or_assoc]

/-- What a declaration comes to, reading by reading. -/
theorem declare_eq (name : String) (type : Sql.DataType) (options : List ColumnOption) :
    declare name type options =
      (⟨name, (ColumnType.ofSql type).1,
        { nullable := ((options.filterMap ColumnOption.nullable?).getLast?).getD true
          default := (options.filterMap ColumnOption.default?).getLast?.map defaultLiteral
          autoIncrement := options.any ColumnOption.isAutoIncrement
          unsigned := (ColumnType.ofSql type).2 }⟩,
        options.any ColumnOption.isPrimaryKey) := by
  simp [declare, foldl_addOption_eq]

/-- Options may be rearranged if those on null values keep their order, and if those that declare a
default do: the column stays the same, and so does whether it is declared a key. Of either kind the
last one counts. Rows are numbered if some option has a token for that, in any letter case, and the
column is a key if some option says so. -/
theorem declare_in_any_order (name : String) (type : Sql.DataType) (options : List ColumnOption) :
    (∀ others : List ColumnOption, others.Perm options →
      others.filterMap ColumnOption.nullable? = options.filterMap ColumnOption.nullable? →
      others.filterMap ColumnOption.default? = options.filterMap ColumnOption.default? →
        declare name type others = declare name type options) ∧
    ∃ (column : Column) (primary : Bool), declare name type options = (column, primary) ∧
      column.name = name ∧
      (column.type, column.options.unsigned) = ColumnType.ofSql type ∧
      column.options.nullable =
        ((options.filterMap ColumnOption.nullable?).getLast?).getD true ∧
      column.options.default =
        (options.filterMap ColumnOption.default?).getLast?.map defaultLiteral ∧
      (column.options.autoIncrement = true ↔ ∃ tokens, .dialectSpecific tokens ∈ options ∧
        ∃ t ∈ tokens, Text.eqIgnoringCase t.text "AUTO_INCREMENT".toList = true) ∧
      (primary = true ↔ .primaryKey ∈ options) := by
  refine ⟨fun others hperm hnull hdefault => ?_, _, _, declare_eq name type options, rfl, rfl, rfl,
    rfl, ?_, ?_⟩
  · rw [declare_eq, declare_eq, hnull, hdefault, hperm.any_eq, hperm.any_eq]
  · simp only [List.any_eq_true, ColumnOption.isAutoIncrement_iff]
    constructor
    · rintro ⟨-, hmem, tokens, rfl, htokens⟩
      exact ⟨tokens, hmem, htokens⟩
    · rintro ⟨tokens, hmem, htokens⟩
      exact ⟨_, hmem, tokens, rfl, htokens⟩
  · simp [List.any_eq_true, ColumnOption.isPrimaryKey_iff]

/-- Seven options, two of them on null values and two defaults, and a rearrangement of them. -/
theorem declare_in_any_order_mixed :
    let one : Sql.Expr := .number ['1'] false
    let two : Sql.Expr := .number ['2'] false
    let auto : ColumnOption := .dialectSpecific [.word ⟨"Auto_Increment", false⟩]
    let options : List ColumnOption :=
      [.null, auto, .default one, .comment [], .notNull, .primaryKey, .default two]
    let others : List ColumnOption :=
      [.primaryKey, .default one, .null, .default two, .comment [], .notNull, auto]
    others.Perm options ∧
      others.filterMap ColumnOption.nullable? = options.filterMap ColumnOption.nullable? ∧
      others.filterMap ColumnOption.default? = options.filterMap ColumnOption.default? ∧
      declare "a" (.integer .int none false) others =
        (⟨"a", .integer 4, ⟨false, some ['2'], true, false⟩⟩, true) := by
  intro one two auto options others
  have hplaces : [5, 2, 0, 6, 3, 4, 1].Perm (List.range options.length) := by decide
  have hperm : others.Perm options := hplaces.map fun i => options.getD i .unique
  refine ⟨hperm, rfl, rfl, ?_⟩
  rw [(declare_in_any_order "a" (.integer .int none false) options).1 others hperm rfl rfl]
  rfl

end Column

end SqlModels
