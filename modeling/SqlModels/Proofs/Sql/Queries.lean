import SqlModels.Proofs.Sql.Joins

/-!
Queries, changes to rows and whole expressions over a closed seam. The inside of an expression is
read by the rules of queries and the other way round, level by level.
-/

-- A rule of many steps is a large instance.
set_option synthInstance.maxSize 1000

namespace SqlModels.Sql

open SqlModels.Sql.Parser

namespace Follows

variable {s : Seam}

instance : Follows s namedTable namedTable := by
  unfold namedTable
  have hnext {f f' : Option Located → Parser Expr}
      (h : ∀ {found found'}, found.map Located.token = found'.map Located.token →
        Follows s (f found) (f' found')) : Follows s (Parser.next >>= f) (Parser.next >>= f') :=
    .next (h rfl) fun _ _ _ => h rfl
  refine hnext fun {first first'} hfirst => hnext fun {second second'} hsecond =>
    hnext fun {third third'} hthird => ?_
  have hperiod : (second.any fun t => t.token = .symbol .period) =
      second'.any fun t => t.token = .symbol .period := by
    simpa only [Option.any_map, Function.comp_def] using
      congrArg (Option.any fun token => token = .symbol .period) hsecond
  rw [hfirst, hthird, hperiod]
  refine .ite ?_ ?_ <;> (split <;> infer_instance)

variable [s.Closed] [s.Settled] {inner inner' : Inner} [Inner.Follows s inner inner']

instance : Follows s (selectedItem inner) (selectedItem inner') := by
  unfold selectedItem
  refine .bind inferInstance fun e => ?_
  split
  · infer_instance
  · refine .bind inferInstance fun i => ?_
    cases i <;> infer_instance

instance : Follows s (top? inner) (top? inner') := by
  unfold top?
  infer_instance

instance : Follows s temporary? temporary? := by
  unfold temporary?
  infer_instance

instance : Follows s into? into? := by
  unfold into?
  infer_instance

instance : Follows s (elementView? inner) (elementView? inner') := by
  unfold elementView?
  infer_instance

instance : Follows s (groupKeys inner) (groupKeys inner') := by
  unfold groupKeys
  infer_instance

instance : Follows s (namedWindow inner) (namedWindow inner') := by
  unfold namedWindow
  infer_instance

instance : Follows s (selection inner) (selection inner') := by
  unfold selection
  infer_instance

instance : Follows s (valuesRow inner) (valuesRow inner') := by
  unfold valuesRow
  infer_instance

instance : Follows s (valuesRows inner) (valuesRows inner') := by
  unfold valuesRows
  infer_instance

instance : Follows s (queryTerm inner) (queryTerm inner') := by
  unfold queryTerm
  infer_instance

instance (op : Keyword) : Follows s (setQuantifier? op) (setQuantifier? op) := by
  unfold setQuantifier?
  infer_instance

instance : Follows s (furtherTerm? inner) (furtherTerm? inner') := by
  unfold furtherTerm?
  refine .bind inferInstance fun op => ?_
  cases op <;> infer_instance

instance : Follows s (offset? inner) (offset? inner') := by
  unfold offset?
  infer_instance

instance (set : RowLimits) : Follows s (furtherLimits inner set) (furtherLimits inner' set) := by
  unfold furtherLimits
  refine .ite (.bind inferInstance fun count => ?_) (.bind inferInstance fun count => ?_)
  all_goals
    refine .ite (.bind inferInstance fun skipped => ?_) (.bind inferInstance fun skipped => ?_)
  all_goals cases count <;> cases skipped <;> infer_instance

instance : Follows s (rowLimits inner) (rowLimits inner') := by
  unfold rowLimits
  infer_instance

instance : Follows s fetchedCount fetchedCount := by
  unfold fetchedCount
  infer_instance

instance : Follows s fetch fetch := by
  unfold fetch
  refine .bind inferInstance fun _ => .bind inferInstance fun _ => ?_
  refine .ite (.bind inferInstance fun count => ?_) (.bind inferInstance fun count => ?_)
  all_goals
    refine .bind inferInstance fun last => ?_
    cases last <;> infer_instance

instance : Follows s lock lock := by
  unfold lock
  infer_instance

instance : Follows s (queryBody inner) (queryBody inner') := by
  unfold queryBody
  infer_instance

instance : Follows s namedColumns namedColumns := by
  unfold namedColumns
  infer_instance

instance : Follows s (namedQuery inner) (namedQuery inner') := by
  unfold namedQuery
  infer_instance

instance : Follows s (namedQueries? inner) (namedQueries? inner') := by
  unfold namedQueries?
  infer_instance

omit [s.Closed] [s.Settled] in
/-- The words up to an equals sign, if nothing behind the seam is taken. -/
instance : Follows s wordsToEqual wordsToEqual where
  takes h := (EStateM.Result.ok.inj h).2 ▸ List.dropWhile_suffix _
  follows {ts ts' words rest} hts h hleft := by
    induction ts generalizing ts' words with
    | nil =>
      obtain rfl := hts.nil
      exact ⟨rest, h, (EStateM.Result.ok.inj h).2 ▸ hts⟩
    | cons t ts ih =>
      obtain ⟨t', ts₁, rfl, ht⟩ := hts.cons
      obtain ⟨rfl, hdrop⟩ := EStateM.Result.ok.inj h
      by_cases hequal : t.token = .symbol .equal
      · simp only [wordsToEqual, List.takeWhile_cons, List.dropWhile_cons, ← ht, hequal] at hdrop ⊢
        exact ⟨_, rfl, hdrop ▸ hts⟩
      · simp only [List.dropWhile_cons, hequal, ne_eq, not_false_eq_true, decide_true, if_true]
          at hdrop
        obtain ⟨_, _, he, -, htail⟩ :=
          hts.tail (hleft.trans (hdrop ▸ List.dropWhile_suffix _))
        obtain ⟨rfl, rfl⟩ := List.cons.inj he
        obtain ⟨rest', h', hrest⟩ := ih htail (congrArg (EStateM.Result.ok _) hdrop)
        obtain ⟨hwords, rfl⟩ := EStateM.Result.ok.inj h'
        refine ⟨_, ?_, hrest⟩
        simp only [wordsToEqual, List.takeWhile_cons, List.dropWhile_cons, ← ht, hequal, ne_eq,
          not_false_eq_true, decide_true, if_true, List.filterMap_cons] at hwords ⊢
        rw [hwords]
  breaks _ _ _ _ _ _ h := nomatch h

instance : Follows s fileFormat fileFormat := by
  unfold fileFormat
  infer_instance

instance : Follows s (assignment inner) (assignment inner') := by
  unfold assignment
  infer_instance

instance : Follows s conflictTarget? conflictTarget? := by
  unfold conflictTarget?
  infer_instance

instance : Follows s (conflictAction inner) (conflictAction inner') := by
  unfold conflictAction
  infer_instance

instance : Follows s (onPresent inner) (onPresent inner') := by
  unfold onPresent
  infer_instance

instance : Follows s (returning? inner) (returning? inner') := by
  unfold returning?
  infer_instance

instance : Follows s insertedColumns? insertedColumns? := by
  unfold insertedColumns?
  infer_instance

instance : Follows s (directoryRows inner) (directoryRows inner') := by
  unfold directoryRows
  infer_instance

instance : Follows s (tableRows inner) (tableRows inner') := by
  unfold tableRows
  infer_instance

instance : Follows s (insertion inner) (insertion inner') := by
  unfold insertion
  infer_instance

instance : Follows s (update inner) (update inner') := by
  unfold update
  infer_instance

instance : Follows s (deletion inner) (deletion inner') := by
  unfold deletion
  infer_instance

instance : Follows s (queryWith inner) (queryWith inner') := by
  unfold queryWith
  infer_instance

end Follows

variable {s : Seam} [s.Closed] [s.Settled]

theorem Inner.Follows.within {read read' : Nat → Reach → Parser Expr}
    (h : ∀ levels reach, Sql.Follows s (read levels reach) (read' levels reach))
    (hlevel : ∀ levels, Inner.Level (.within read levels))
    (hwhole : s.guarded → ∀ levels,
      Sql.Follows .finish (Inner.within read levels).query (Inner.within read' levels).query)
    (levels : Nat) : Inner.Follows s (Inner.within read levels) (Inner.within read' levels) := by
  induction levels with
  | zero => exact ⟨inferInstanceAs (Sql.Follows s (throw _) (throw _)), h 0,
      inferInstanceAs (Sql.Follows s (throw _) (throw _)), hlevel 0, fun hs => hwhole hs 0⟩
  | succ levels ih =>
    exact ⟨h levels .all, h (levels + 1),
      inferInstanceAs (Sql.Follows s (queryWith _) (queryWith _)), hlevel (levels + 1),
      fun hs => hwhole hs (levels + 1)⟩

namespace Follows

/-- An expression over a seam, if queries are read alike of lists without one. -/
theorem exprUpTo_of (hwhole : s.guarded → ∀ count levels,
      Follows .finish (Inner.within (Parser.exprUpTo count) levels).query
        (Inner.within (Parser.exprUpTo count) levels).query)
    (count levels : Nat) (reach : Reach) :
    Follows s (Parser.exprUpTo count levels reach) (Parser.exprUpTo count levels reach) := by
  induction count generalizing levels reach with
  | zero =>
    unfold Parser.exprUpTo
    infer_instance
  | succ count ih =>
    unfold Parser.exprUpTo
    have := Inner.Follows.within ih (.expression count) (fun hs => hwhole hs count) levels
    refine .bind inferInstance fun left => .bind inferInstance fun count => ?_
    exact continuationsUpTo reach count left

end Follows

theorem Inner.Level.finish {inner : Inner} (h : Inner.Level inner) :
    Inner.Follows .finish inner inner := by
  have hread (count levels : Nat) (reach : Reach) :
      Sql.Follows .finish (exprUpTo count levels reach) (exprUpTo count levels reach) :=
    .exprUpTo_of False.elim count levels reach
  cases h with
  | expression count levels => exact .within (hread count) (.expression count) False.elim levels
  | statement levels =>
    exact .within (fun _ _ => .bind inferInstance fun _ => hread ..) .statement False.elim levels

namespace Follows

theorem exprUpTo (count levels : Nat) (reach : Reach) :
    Follows s (exprUpTo count levels reach) (exprUpTo count levels reach) :=
  exprUpTo_of (fun _ count levels => (Inner.Level.expression count levels).finish.query)
    count levels reach

instance : Inner.Follows s .ofStatement .ofStatement :=
  .within (fun levels reach => .bind inferInstance fun count => exprUpTo (count + 1) levels reach)
    .statement (fun _ levels => (Inner.Level.statement levels).finish.query) _

instance : Follows s expression expression := by
  unfold expression
  infer_instance

instance : Follows s query query := by
  unfold query
  infer_instance

end Follows

/-- The words that queries and changes to rows start with. -/
def queryWords : List Keyword :=
  [.SELECT, .WITH, .VALUES, .TABLE, .INSERT, .UPDATE]

/-- Whether a query may start at a token. -/
def Token.startsQuery (t : Token) : Bool :=
  t = .symbol .leftParen || queryWords.any t.is

theorem queryWith_fails (inner : Inner) {t : Located} (h : t.token.startsQuery = false)
    (ts : List Located) :
    ∃ fault rest, queryWith inner (t :: ts) = .error fault rest ∧ fault ≠ .abort := by
  obtain ⟨hparen, hwords⟩ :
      t.token ≠ .symbol .leftParen ∧ ∀ k ∈ queryWords, t.token.is k = false := by
    simpa [Token.startsQuery] using h
  have hnot {k : Keyword} (hk : k ∈ queryWords) : keyword? k (t :: ts) = .ok false (t :: ts) := by
    simp [keyword?, keywords?, startsWith, hwords k hk]
  have hterm : ∃ fault rest, queryTerm inner (t :: ts) = .error fault rest ∧ fault ≠ .abort := by
    rw [queryTerm, bind_of_ok (hnot (by decide)), if_neg Bool.false_ne_true,
      bind_of_ok (symbol?_neg hparen ts), if_neg Bool.false_ne_true,
      bind_of_ok (hnot (by decide)), if_neg Bool.false_ne_true, bind_of_ok (hnot (by decide))]
    exact ⟨_, _, rfl, by simp⟩
  obtain ⟨fault, rest, hfails, hfault⟩ := hterm
  have hwith : namedQueries? inner (t :: ts) = .ok [] (t :: ts) := bind_of_ok (hnot (by decide))
  have hbody : queryBody inner (t :: ts) = .error fault rest :=
    bind_of_error (bind_of_error hfails)
  refine ⟨fault, rest, ?_, hfault⟩
  rw [queryWith, bind_of_ok hwith, bind_of_ok (hnot (by decide)), bind_of_ok (hnot (by decide))]
  exact bind_of_error hbody

theorem Inner.Level.query_fails {inner : Inner} (hinner : Inner.Level inner) {t : Located}
    (h : t.token.startsQuery = false) (ts : List Located) :
    ∃ fault rest, inner.query (t :: ts) = .error fault rest ∧ fault ≠ .abort := by
  cases hinner with
  | expression count levels | statement levels =>
    cases levels with
    | zero => exact ⟨.tooDeep, t :: ts, rfl, by simp⟩
    | succ levels => exact queryWith_fails _ h ts

/-- Joined tables end in a parenthesis. -/
theorem nestedJoin_takes {inner : Inner} (hinner : Inner.Level inner) {depth : Nat} {e : Expr}
    {ts rest : List Located} (h : nestedJoin (tablesUpTo inner depth) ts = .ok e rest) :
    rest.length < ts.length := by
  have := hinner.finish
  have htables : Follows .finish (tablesUpTo inner depth) (tablesUpTo inner depth) :=
    .tablesUpTo depth
  have halias : Follows .finish tableAlias? tableAlias? := inferInstance
  obtain ⟨inside, us, hinside, h⟩ := bind_eq_ok.1 h
  split at h
  · obtain ⟨_, vs, hclose, hrest⟩ := bind_eq_ok.1 h
    obtain ⟨names, ws, hnames, hdone⟩ := bind_eq_ok.1 hrest
    obtain ⟨c, rfl, -⟩ := expectSymbol_ok hclose
    obtain ⟨-, rfl⟩ := pure_eq_ok.1 hdone
    calc ws.length ≤ vs.length := (halias.takes hnames).length_le
      _ < (c :: vs).length := Nat.lt_succ_self _
      _ ≤ ts.length := (htables.takes hinside).length_le
  · cases us <;> exact nomatch h

/-- No parenthesis is ambiguous if no query may start behind it. -/
theorem not_ambiguous {t : Located} (h : t.token.startsQuery = false) (ts : List Located) :
    ¬Ambiguous (t :: ts) := by
  rintro ⟨inner, depth, e, inside, rest, others, hinner, hts, -, he, hread⟩
  obtain ⟨u, inside, rfl⟩ : ∃ u us, inside = u :: us := by
    refine List.exists_cons_of_ne_nil ?_
    rintro rfl
    exact absurd (nestedJoin_takes hinner he) (by simp [hts])
  obtain ⟨rfl, -⟩ := List.cons.inj hts
  obtain ⟨fault, behind, hfails, hfault⟩ := hinner.query_fails h (inside ++ others)
  exact hread (attempt_eq_none.2 ⟨rfl, fault, behind, bind_of_error hfails, hfault⟩)

end SqlModels.Sql
