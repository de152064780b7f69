import SqlModels.Proofs.Sql.Operators

/-!
Tables over a closed seam. Parentheses open a query or joined tables, and which of the two is told
only by reading on. Where they are not ambiguous, a query that is tried in vain fails by what stands
in front of the seam, so none is read in the second list either. Where there is no seam, both lists
are read to their ends.
-/

-- A rule of many steps is a large instance.
set_option synthInstance.maxSize 1000

namespace SqlModels.Sql

open SqlModels.Sql.Parser

variable {s : Seam} {α β : Type}

namespace Parser

theorem keyword?_true {k : Keyword} {ts rest : List Located} (h : keyword? k ts = .ok true rest) :
    ∃ t, ts = t :: rest ∧ t.token.is k := by
  simp only [keyword?, keywords?] at h
  split at h
  · next hk =>
    cases ts with
    | nil => cases hk
    | cons t ts =>
      simp only [startsWith, Bool.and_true] at hk
      exact ⟨t, by simpa using (EStateM.Result.ok.inj h).2, hk⟩
  · cases h

theorem keyword?_false {k : Keyword} {ts rest : List Located}
    (h : keyword? k ts = .ok false rest) : rest = ts := by
  simp only [keyword?, keywords?] at h
  split at h
  · exact nomatch h
  · exact (EStateM.Result.ok.inj h).2.symm

end Parser

namespace Follows

instance (stops : List Keyword) : Follows s (alias? stops) (alias? stops) := by
  unfold alias?
  refine .bind inferInstance fun marked => .peek ?_ fun token _ _ => ?_
  · exact .ite inferInstance (.ite inferInstance inferInstance)
  · exact .ite inferInstance (.ite inferInstance inferInstance)

instance : Follows s tableAlias? tableAlias? := by
  unfold tableAlias?
  refine .bind inferInstance fun i => ?_
  cases i <;> infer_instance

instance (side : Keyword) : Follows s (sidedJoin side) (sidedJoin side) := by
  unfold sidedJoin
  refine .bind inferInstance fun kind => ?_
  split <;> infer_instance

instance : Follows s conditionalJoin? conditionalJoin? := by
  unfold conditionalJoin?
  refine .bind inferInstance fun kind => ?_
  split <;> infer_instance

instance {inner inner' : Inner} [Follows s inner.query inner'.query] :
    Follows s (derivedTable inner) (derivedTable inner') := by
  unfold derivedTable
  infer_instance

variable [s.Closed] {inner inner' : Inner} [Inner.Follows s inner inner']

instance : Follows s joinMark? joinMark? := by
  unfold joinMark?
  refine .bind inferInstance fun _ => .ite (.bind inferInstance fun kind => ?_) ?_
  · cases kind <;> infer_instance
  · refine .bind inferInstance fun _ => .ite inferInstance ?_
    refine .bind inferInstance fun _ => .bind inferInstance fun words => ?_
    cases words <;> infer_instance

instance : Follows s (pivot? inner) (pivot? inner') := by
  unfold pivot?
  refine .bind inferInstance fun _ => .ite (.bind inferInstance fun _ => ?_) inferInstance
  refine .next (inferInstanceAs (Follows s (expected _ >>= _) (expected _ >>= _)))
    fun token _ _ => ?_
  simp only [Option.map_some]
  cases token <;> infer_instance

/-- No word in front of a parenthesis stands at a closed seam. -/
instance : Follows s (hints? inner) (hints? inner') := by
  let mark : Parser (Option Unit) := do
    let marked ← keyword? .WITH
    if marked && (← atSymbol .leftParen) then return some () else return none
  have hmark : Follows s mark mark := inferInstance
  have : Follows s (Parser.optionally mark) (Parser.optionally mark) := by
    refine .optionally fun {ts ts' rest} hts h => ?_
    suffices hleft : s.left <:+ rest from (hmark.follows hts h hleft).imp fun _ h => h.1
    obtain ⟨marked, behind, hmarked, h⟩ := bind_eq_ok.1 h
    obtain ⟨paren, behind₁, hparen, h⟩ := bind_eq_ok.1 h
    obtain ⟨rfl, rfl⟩ := EStateM.Result.ok.inj hparen
    obtain rfl : behind = rest := by
      split at h <;> exact (pure_eq_ok.1 h).2
    cases marked with
    | false => exact keyword?_false hmarked ▸ hts.suffix
    | true =>
      obtain ⟨t, rfl, ht⟩ := keyword?_true hmarked
      obtain ⟨t', ts₁, rfl, -, htail⟩ :=
        hts.pass (by constructor <;> (intro h; simp [h, Token.is] at ht))
      exact htail.suffix
  unfold hints?
  refine .bind this fun hint => ?_
  cases hint <;> infer_instance

instance (table : Name) : Follows s (partitionsOf table) (partitionsOf table) := by
  unfold partitionsOf
  infer_instance

instance : Follows s (namedFactor inner) (namedFactor inner') := by
  unfold namedFactor
  let aliased (inner : Inner) (table : Name) (rows : Expr) : Parser Expr := do
    let names ← tableAlias?
    match ← pivot? inner with
    | [] => return rows.followed (names ++ (← hints? inner))
    | columns => return Expr.followed (.name table) (names ++ columns)
  have hrows (table : Name) (rows : Expr) :
      Follows s (aliased inner table rows) (aliased inner' table rows) := by
    refine .bind inferInstance fun names => .bind inferInstance fun columns => ?_
    cases columns <;> infer_instance
  refine .bind inferInstance fun table => .bind inferInstance fun selected => ?_
  refine .bind inferInstance fun _ => .ite ?_ (.bind inferInstance fun _ => hrows _ _)
  exact .bind inferInstance fun _ => .bind inferInstance fun _ => hrows _ _

instance : Follows s (joinCondition? inner) (joinCondition? inner') := by
  unfold joinCondition?
  infer_instance

instance {enclosed enclosed' : Parser Tables} [Follows s enclosed enclosed'] :
    Follows s (nestedJoin enclosed) (nestedJoin enclosed') := by
  unfold nestedJoin
  infer_instance

/-- Without a seam, a query that is tried in vain on one list is so on the other. -/
theorem tableFactor_finish {inner inner' : Inner} [Inner.Follows .finish inner inner']
    {enclosed enclosed' : Parser Tables} [Follows .finish enclosed enclosed'] :
    Follows .finish (tableFactor inner enclosed) (tableFactor inner' enclosed') := by
  have hattempt : Follows .finish (Parser.attempt (derivedTable inner))
      (Parser.attempt (derivedTable inner')) := attempt_finish inferInstance
  unfold Parser.tableFactor
  refine .bind inferInstance fun _ => .ite inferInstance ?_
  refine .bind inferInstance fun _ => .ite inferInstance ?_
  refine .bind inferInstance fun _ => .ite (.bind hattempt fun found => ?_) inferInstance
  cases found <;> infer_instance

/-- A query that is tried in vain, whatever stands behind the joined tables that are read instead,
is so on the second list too. -/
theorem tableFactor_guarded (hs : s.guarded) {depth : Nat}
    [Follows s (tablesUpTo inner depth) (tablesUpTo inner' depth)] :
    Follows s (tableFactor inner (tablesUpTo inner depth))
      (tableFactor inner' (tablesUpTo inner' depth)) := by
  have hinner : Inner.Follows s inner inner' := inferInstance
  unfold Parser.tableFactor
  refine .bind inferInstance fun _ => .ite inferInstance ?_
  refine .bind inferInstance fun _ => .ite inferInstance ?_
  refine .opening hs (fun {ts tables rest} h => ?_)
    fun {ts ts' tables rest} hts hclear h hleft => ?_
  · obtain ⟨found, behind, hfound, h₁⟩ := bind_eq_ok.1 h
    cases found with
    | some rows =>
      obtain ⟨-, rfl⟩ := pure_eq_ok.1 h₁
      exact takes (s := s) (q := derivedTable inner') (attempt_eq_some.1 hfound)
    | none =>
      obtain ⟨rfl, -⟩ := attempt_eq_none.1 hfound
      obtain ⟨e, behind, he, h₂⟩ := bind_eq_ok.1 h₁
      obtain ⟨-, rfl⟩ := pure_eq_ok.1 h₂
      exact takes (s := s) (q := nestedJoin (tablesUpTo inner' depth)) he
  · obtain ⟨found, us, hfound, h₁⟩ := bind_eq_ok.1 h
    cases found with
    | some rows =>
      obtain ⟨rfl, rfl⟩ := pure_eq_ok.1 h₁
      obtain ⟨rest', hrows, hrest⟩ :=
        follows (q := derivedTable inner') hts (attempt_eq_some.1 hfound) hleft
      exact ⟨rest', bind_eq_ok.2 ⟨some rows, rest', attempt_eq_some.2 hrows, rfl⟩, hrest⟩
    | none =>
      obtain ⟨rfl, -⟩ := attempt_eq_none.1 hfound
      obtain ⟨e, behind, he, h₂⟩ := bind_eq_ok.1 h₁
      obtain ⟨rfl, rfl⟩ := pure_eq_ok.1 h₂
      obtain ⟨rest', he', hrest⟩ :=
        follows (q := nestedJoin (tablesUpTo inner' depth)) hts he hleft
      obtain ⟨others, hothers, hcut⟩ :=
        hts.split (takes (s := s) (q := nestedJoin (tablesUpTo inner' depth)) he) hleft
      obtain ⟨inside, inside', rfl, rfl, hinside⟩ := hcut.front
      have hvain : Parser.attempt (derivedTable inner) (inside ++ others) =
          .ok none (inside ++ others) :=
        not_not.1 fun hread =>
          hclear ⟨inner, depth, e, inside, _, others, hinner.level, rfl, hfound, he, hread⟩
      have hsame : Seam.finish.Ahead (inside ++ others) (inside' ++ others) :=
        .of_same (by simp only [List.map_append, hinside])
      have hwhole := hinner.whole hs
      have hattempt : Follows .finish (Parser.attempt (derivedTable inner))
          (Parser.attempt (derivedTable inner')) := attempt_finish inferInstance
      obtain ⟨_, hvain', -⟩ := hattempt.follows hsame hvain List.nil_suffix
      obtain ⟨rfl, -⟩ := attempt_eq_none.1 hvain'
      exact ⟨rest', bind_eq_ok.2 ⟨none, _, hvain', bind_eq_ok.2 ⟨e, rest', he', rfl⟩⟩, hrest⟩

theorem tableFactor [hs : s.Settled] {depth : Nat}
    [Follows s (tablesUpTo inner depth) (tablesUpTo inner' depth)] :
    Follows s (Parser.tableFactor inner (tablesUpTo inner depth))
      (Parser.tableFactor inner' (tablesUpTo inner' depth)) := by
  rcases hs.guarded with rfl | hguarded
  · exact tableFactor_finish
  · exact tableFactor_guarded hguarded

variable [s.Settled]

theorem tablesUpTo (depth : Nat) :
    Follows s (tablesUpTo inner depth) (tablesUpTo inner' depth) := by
  induction depth with
  | zero =>
    unfold Parser.tablesUpTo
    infer_instance
  | succ depth ih =>
    have hfactor : Follows s (Parser.tableFactor inner (Parser.tablesUpTo inner depth))
        (Parser.tableFactor inner' (Parser.tablesUpTo inner' depth)) := tableFactor
    have hjoin : Follows s (join? inner (Parser.tablesUpTo inner depth))
        (join? inner' (Parser.tablesUpTo inner' depth)) := by
      unfold join?
      refine .bind inferInstance fun mark => ?_
      cases mark <;> infer_instance
    unfold Parser.tablesUpTo joinedTables
    refine .bind inferInstance fun _ => .bind inferInstance fun joins => ?_
    cases joins <;> infer_instance

instance : Follows s (tables inner) (tables inner') := by
  have (depth : Nat) : Follows s (Parser.tablesUpTo inner depth) (Parser.tablesUpTo inner' depth) :=
    tablesUpTo depth
  unfold tables
  infer_instance

end Follows

end SqlModels.Sql
