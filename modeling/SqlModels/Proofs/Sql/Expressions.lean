import SqlModels.Proofs.Sql.Types

-- A rule of many steps is a large instance.
set_option synthInstance.maxSize 1000

namespace SqlModels.Sql

open SqlModels.Sql.Parser

/-- What stands inside an expression or a query, over a seam. -/
class Inner.Follows (s : Seam) (inner inner' : Inner) : Prop where
  value : Sql.Follows s inner.value inner'.value
  operand : ∀ reach, Sql.Follows s (inner.operand reach) (inner'.operand reach)
  query : Sql.Follows s inner.query inner'.query
  level : Inner.Level inner
  /-- Of lists without a seam the same query is read, or none of either. -/
  whole : s.guarded → Sql.Follows .finish inner.query inner'.query

attribute [instance] Inner.Follows.value Inner.Follows.operand Inner.Follows.query

namespace Follows

variable {s : Seam}

instance : Follows s literalString literalString := by
  refine .next (inferInstanceAs (Follows s (unexpected _ _) (unexpected _ _))) fun token _ _ => ?_
  simp only [Option.map_some]
  rcases token with w | _ | ⟨kind, _⟩ | _ | _ | _ | _ <;> try cases kind
  all_goals infer_instance

instance (mark : Char) : Follows s (namedPlaceholder mark) (namedPlaceholder mark) := by
  unfold namedPlaceholder
  infer_instance

instance : Follows s plainValue plainValue := by
  refine .next (inferInstanceAs (Follows s (unexpected _ _) (unexpected _ _))) fun token _ _ => ?_
  simp only [Option.map_some]
  rcases token with w | _ | _ | _ | x | _ | _ <;> try cases x
  all_goals first | infer_instance | (simp only [literalOf?]; infer_instance)

instance : Follows s numberValue numberValue := by
  refine .peek ?_ fun token _ _ => ?_
  all_goals
    refine .bind inferInstance fun e => ?_
    cases e <;> infer_instance

instance [s.Closed] (ks : List Keyword) : Follows s (words? ks) (words? ks) := by
  unfold words?
  infer_instance

instance (ks : List Keyword) : Follows s (wordIn? ks) (wordIn? ks) := by
  unfold wordIn?
  infer_instance

section Parts

variable {p p' : Parser (List Expr)} {item item' : Parser Expr}

instance [Follows s p p'] (k : Keyword) : Follows s (clause k p) (clause k p') := by
  unfold clause
  infer_instance

instance [s.Closed] [Follows s p p'] (ks : List Keyword) :
    Follows s (clause? ks p) (clause? ks p') := by
  unfold clause?
  infer_instance

instance [Follows s item item'] : Follows s (part item) (part item') := by
  unfold part
  infer_instance

instance [Follows s item item'] : Follows s (listed item) (listed item') := by
  unfold listed
  infer_instance

instance : Follows s (inOrder []) (inOrder []) := by
  unfold inOrder
  infer_instance

instance {rules rules' : List (Parser (List Expr))} [Follows s p p']
    [Follows s (inOrder rules) (inOrder rules')] :
    Follows s (inOrder (p :: rules)) (inOrder (p' :: rules')) := by
  unfold inOrder
  infer_instance

instance : Follows s (firstOf []) (firstOf []) := by
  unfold firstOf
  infer_instance

instance {rules rules' : List (Parser (List Expr))} [Follows s p p']
    [Follows s (firstOf rules) (firstOf rules')] :
    Follows s (firstOf (p :: rules)) (firstOf (p' :: rules')) := by
  unfold firstOf
  refine .bind inferInstance fun parts => ?_
  cases parts <;> infer_instance

theorem repeatedUpTo [Follows s p p'] (count : Nat) :
    Follows s (repeatedUpTo p count) (repeatedUpTo p' count) := by
  induction count with
  | zero =>
    unfold Parser.repeatedUpTo
    infer_instance
  | succ count ih =>
    unfold Parser.repeatedUpTo
    refine .bind inferInstance fun parts => ?_
    cases parts <;> infer_instance

instance [Follows s p p'] : Follows s (repeated p) (repeated p') :=
  .bind inferInstance fun count => repeatedUpTo count

instance [Follows s p p'] (k : Keyword) : Follows s (worded k p) (worded k p') := by
  unfold worded
  infer_instance

end Parts

variable [s.Closed]

instance : Follows s dateField dateField := by
  unfold dateField
  infer_instance

instance : Follows s precision? precision? := by
  unfold precision?
  infer_instance

instance : Follows s secondPrecision? secondPrecision? := by
  unfold secondPrecision?
  infer_instance

instance : Follows s lastField lastField := by
  unfold lastField
  infer_instance

instance : Follows s intervalFields? intervalFields? := by
  unfold intervalFields?
  refine .bind inferInstance fun field => ?_
  split <;> infer_instance

instance : Follows s direction direction := by
  unfold direction
  infer_instance

instance : Follows s nullsPlace nullsPlace := by
  unfold nullsPlace
  infer_instance

omit [s.Closed] in
theorem tableStarUpTo (table : Name) (count : Nat) :
    Follows s (tableStarUpTo table count) (tableStarUpTo table count) := by
  induction count generalizing table with
  | zero =>
    unfold Parser.tableStarUpTo
    infer_instance
  | succ count ih =>
    unfold Parser.tableStarUpTo
    refine .bind inferInstance fun _ => .ite ?_ inferInstance
    refine .next (inferInstanceAs (Follows s (unexpected _ _) (unexpected _ _))) fun token _ _ => ?_
    simp only [Option.map_some]
    split <;> infer_instance

instance : Follows s star? star? := by
  refine .next (inferInstanceAs (Follows s (pure none) (pure none))) fun token _ _ => ?_
  simp only [Option.map_some]
  split
  · infer_instance
  · exact .bind inferInstance fun count => tableStarUpTo _ count
  · infer_instance

/-- No name of a table goes over a closed seam, so neither list has a star behind it. -/
theorem tableStarUpTo_none {table : Name} {count : Nat} {ts ts' rest : List Located}
    (hts : s.Ahead ts ts') (h : Parser.tableStarUpTo table count ts = .ok none rest) :
    ∃ rest', Parser.tableStarUpTo table count ts' = .ok none rest' := by
  induction count generalizing table ts ts' with
  | zero => exact ⟨ts', rfl⟩
  | succ count ih =>
    cases ts with
    | nil =>
      obtain rfl := hts.nil
      exact ⟨rest, h⟩
    | cons t ts =>
      by_cases ht : t.token = .symbol .period
      · obtain ⟨t', ts₁, rfl, ht', htail⟩ := hts.pass (by simp [ht])
        rw [Parser.tableStarUpTo, bind_of_ok (symbol?_pos ht ts), if_pos rfl] at h
        rw [Parser.tableStarUpTo, bind_of_ok (symbol?_pos (ht'.symm.trans ht) ts₁), if_pos rfl]
        cases ts with
        | nil => exact nomatch h
        | cons u us =>
          obtain ⟨token, place⟩ := u
          rw [bind_of_ok (next_cons _ _), Option.map_some] at h
          cases token with
          | word w =>
            obtain ⟨⟨token, place'⟩, us', rfl, rfl, hus⟩ := htail.pass (by simp)
            exact ih hus h
          | symbol x => cases x <;> exact nomatch h
          | _ => exact nomatch h
      · obtain ⟨t', ts₁, rfl, ht'⟩ := hts.cons
        exact ⟨t' :: ts₁, bind_of_ok (symbol?_neg (ht' ▸ ht) ts₁)⟩

instance : Follows s (Parser.optionally star?) (Parser.optionally star?) :=
  .optionally fun {ts ts' rest} hts h => by
    cases ts with
    | nil =>
      obtain rfl := hts.nil
      exact ⟨rest, h⟩
    | cons t ts =>
      obtain ⟨⟨token, place'⟩, ts₁, rfl, ht⟩ := hts.cons
      obtain ⟨token, place⟩ := t
      obtain rfl : token = _ := ht
      rw [star?, bind_of_ok (next_cons _ _), Option.map_some] at h ⊢
      cases token with
      | word w =>
        obtain ⟨_, _, he, -, htail⟩ := hts.pass (by simp)
        obtain ⟨-, rfl⟩ := List.cons.inj he
        obtain ⟨rest', h'⟩ := tableStarUpTo_none htail (remaining_bind_eq_ok.1 h)
        exact ⟨rest', bind_eq_ok.2 ⟨_, ts₁, htail.symm.remaining, h'⟩⟩
      | symbol x => cases x <;> first | exact ⟨_, rfl⟩ | exact nomatch h
      | _ => exact ⟨_, rfl⟩

variable {inner inner' : Inner} [Inner.Follows s inner inner']

instance : Follows s (queryOrList inner) (queryOrList inner') := by
  have : Follows s atInnerQuery atInnerQuery := of_look fun hts => by
    simpa only [Option.any_map, Function.comp_def] using
      congrArg (Option.any fun token => token.is .SELECT || token.is .WITH) hts.head
  unfold queryOrList
  infer_instance

instance : Follows s (interval inner) (interval inner') := by
  unfold interval
  infer_instance

instance : Follows s (sortKey inner) (sortKey inner') := by
  unfold sortKey
  infer_instance

instance : Follows s (orderBy? inner) (orderBy? inner') := by
  unfold orderBy?
  infer_instance

instance : Follows s (item inner) (item inner') := by
  unfold item
  refine .bind inferInstance fun star => ?_
  cases star <;> infer_instance

instance : Follows s (distinct? inner) (distinct? inner') := by
  unfold distinct?
  refine .peek ?_ fun _ _ _ => ?_ <;> infer_instance

instance : Follows s (argument inner) (argument inner') := by
  have : Follows s atLabel atLabel := of_look fun hts => by
    simpa only [Option.any_map, Function.comp_def] using
      congrArg (Option.any fun token => token = .symbol .fatArrow) hts.second
  unfold argument
  infer_instance

instance : Follows s (plainArguments inner) (plainArguments inner') := by
  unfold plainArguments
  infer_instance

instance : Follows s (arguments inner) (arguments inner') := by
  unfold arguments
  infer_instance

instance : Follows s (frameDistance inner) (frameDistance inner') := by
  unfold frameDistance
  refine .bind inferInstance fun _ => .ite inferInstance ?_
  refine .peek (inferInstanceAs (Follows s inner.value inner'.value)) fun token _ _ => ?_
  simp only [Option.map_some]
  split <;> infer_instance

instance : Follows s (frameBound inner) (frameBound inner') := by
  unfold frameBound
  refine .bind inferInstance fun _ => .ite inferInstance ?_
  refine .bind inferInstance fun _ => .bind inferInstance fun side => ?_
  cases side <;> infer_instance

instance : Follows s (frame inner) (frame inner') := by
  unfold frame
  infer_instance

instance : Follows s (window inner) (window inner') := by
  unfold window
  infer_instance

instance : Follows s (window? inner) (window? inner') := by
  unfold window?
  infer_instance

instance (function : Name) : Follows s (call inner function) (call inner' function) := by
  unfold call
  infer_instance

instance : Follows s searchMode? searchMode? := by
  unfold searchMode?
  infer_instance

instance : Follows s search search := by
  unfold search
  infer_instance

instance (function : Keyword) :
    Follows s (conversion inner function) (conversion inner' function) := by
  unfold conversion
  infer_instance

instance : Follows s (branch inner) (branch inner') := by
  unfold branch
  infer_instance

instance : Follows s (branch? inner) (branch? inner') := by
  unfold branch?
  infer_instance

instance : Follows s (compared? inner) (compared? inner') := by
  unfold compared?
  infer_instance

instance : Follows s (decision inner) (decision inner') := by
  unfold decision
  infer_instance

instance (negated : Bool) : Follows s (existence inner negated) (existence inner' negated) := by
  unfold existence
  infer_instance

instance : Follows s (extraction inner) (extraction inner') := by
  unfold extraction
  infer_instance

instance (function : Keyword) : Follows s (rounding inner function) (rounding inner' function) := by
  unfold rounding
  infer_instance

instance : Follows s (position inner) (position inner') := by
  unfold position
  infer_instance

instance (k : Keyword) : Follows s (markedValue? inner k) (markedValue? inner' k) := by
  unfold markedValue?
  infer_instance

instance : Follows s (piece inner) (piece inner') := by
  unfold piece
  infer_instance

instance : Follows s (replacement inner) (replacement inner') := by
  unfold replacement
  infer_instance

instance : Follows s (trimming inner) (trimming inner') := by
  unfold trimming
  infer_instance

instance : Follows s (filler? inner) (filler? inner') := by
  unfold filler?
  refine .peek (inferInstanceAs (Follows s (expected _) (expected _))) fun token _ _ => ?_
  simp only [Option.map_some]
  split <;> infer_instance

instance : Follows s (overflow inner) (overflow inner') := by
  unfold overflow
  refine .bind inferInstance fun _ => .ite inferInstance ?_
  refine .bind inferInstance fun _ => .bind inferInstance fun filler => ?_
  refine .bind inferInstance fun k => ?_
  cases k <;> infer_instance

instance : Follows s (groupOrder inner) (groupOrder inner') := by
  unfold groupOrder
  infer_instance

instance : Follows s (listAggregate inner) (listAggregate inner') := by
  unfold listAggregate
  infer_instance

instance : Follows s (limit? inner) (limit? inner') := by
  unfold limit?
  infer_instance

instance : Follows s (arrayAggregate inner) (arrayAggregate inner') := by
  unfold arrayAggregate
  infer_instance

end Follows

end SqlModels.Sql
