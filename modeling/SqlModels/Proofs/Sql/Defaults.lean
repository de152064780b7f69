import SqlModels.Proofs.Model.Kinds
import SqlModels.Proofs.Schema.Options
import SqlModels.Proofs.Sql.Sources

/-!
The defaults of columns. Whatever expression the grammar reads in a text, the default value that
comes of it tells what it is: rule by rule, a form is printed with signs of its own, or it is one
that was read before.
-/

-- A rule of many steps is a large instance.
set_option synthInstance.maxSize 1000

namespace SqlModels.Sql

open SqlModels.Sql.Parser

namespace Yields

variable {α : Type} {source : List Located} {p : Parser α} {Q : α → Prop}

theorem next : Yields source next fun found => ∀ t ∈ found, t ∈ source where
  yields {ts found rest} hts h := by
    obtain ⟨rfl, rfl⟩ := EStateM.Result.ok.inj h
    exact ⟨fun t ht => hts.subset (List.mem_of_mem_head? ht), (List.tail_suffix ts).trans hts⟩

/-- A step that looks at the tokens and takes none. -/
theorem look (f : List Located → α) : Yields source (fun ts => .ok (f ts) ts) fun _ => True :=
  ⟨fun hts h => ⟨trivial, (EStateM.Result.ok.inj h).2 ▸ hts⟩⟩

/-- Nothing is read of which something would have to hold. -/
theorem none {found : Option α} (h : found = Option.none) :
    Yields source (Pure.pure found) fun found => ∀ a ∈ found, Q a :=
  .pure fun a ha => absurd (h ▸ ha) (Option.not_mem_none a)

theorem attempt (hp : Yields source p Q) :
    Yields source (attempt p) fun found => ∀ a ∈ found, Q a where
  yields {ts found rest} hts h := by
    cases found with
    | none =>
      obtain ⟨rfl, -⟩ := attempt_eq_none.1 h
      exact ⟨fun a ha => absurd ha (Option.not_mem_none a), hts⟩
    | some a =>
      obtain ⟨ha, hrest⟩ := hp.yields hts (attempt_eq_some.1 h)
      exact ⟨fun b hb => Option.some.inj hb ▸ ha, hrest⟩

theorem optionally {p : Parser (Option α)} (hp : Yields source p fun found => ∀ a ∈ found, Q a) :
    Yields source (optionally p) fun found => ∀ a ∈ found, Q a where
  yields {ts found rest} hts h := by
    unfold Parser.optionally at h
    split at h
    · obtain ⟨rfl, rfl⟩ := EStateM.Result.ok.inj h
      exact ⟨fun a ha => absurd ha (Option.not_mem_none a), hts⟩
    · exact hp.yields hts h

/-! ### Forms with signs of their own -/

theorem worded {k : Keyword} {arguments : Parser (List Expr)} [Follows .finish arguments arguments]
    (hk : Text.eqIgnoringCase k.name.toList "CURRENT_TIMESTAMP".toList = false) :
    Yields source (worded k arguments) Expr.Told :=
  .skip fun parts => .pure (.enclosed parts hk)

theorem namedPlaceholder {mark : Char} (h : DefaultValue.foreign mark = true) :
    Yields source (namedPlaceholder mark) Expr.Told :=
  .skip fun _ => .pure (.of_mem (c := mark) rfl List.mem_cons_self h)

section Inner

variable {inner : Inner} [Inner.Follows .finish inner inner]

theorem tuple : Yields source (tuple inner) Expr.Told := by
  have hlist : Yields source (queryOrList inner) Expr.Told := by
    have hend (e : Expr) (he : e.Told) : Yields source
        (expectSymbol .rightParen >>= fun _ => Pure.pure e) Expr.Told :=
      .skip fun _ => .pure he
    refine .bind (.look _) fun atQuery _ => .ite ?_ ?_
    · exact .skip fun rows => .bind (.pure (.grouped [rows])) hend
    · exact .skip fun items => .bind (.pure (.tuple items)) hend
  refine .bind hlist fun e he => .skip fun period => .ite ?_ (.pure he)
  refine .bind next fun found _ => ?_
  split
  · exact .pure (.of_mem (c := '.') rfl (by simp [Expr.text]) (by decide))
  · exact .never fun _ => ⟨_, _, rfl⟩

theorem array (named : Bool) : Yields source (array inner named) Expr.Told := by
  have harray (items : List Expr) : (Expr.array named items).Told :=
    .of_mem (c := '[') rfl (by simp [Expr.text]) (by decide)
  refine .skip fun closed => .ite (.pure (harray [])) ?_
  exact .skip fun items => .skip fun _ => .pure (harray items)

theorem conversion {function : Keyword}
    (hk : Text.eqIgnoringCase function.name.toList "CURRENT_TIMESTAMP".toList = false) :
    Yields source (conversion inner function) Expr.Told := by
  iterate 5 refine .skip fun _ => ?_
  exact .pure (.enclosed _ hk)

theorem decision : Yields source (decision inner) Expr.Told := by
  refine .skip fun parts => .pure ?_
  cases parts with
  | nil => exact .of_text rfl (by decide)
  | cons part parts => exact .phrase _ part parts

theorem existence (negated : Bool) : Yields source (existence inner negated) Expr.Told :=
  .skip fun _ => .pure (.phrase _ _ _)

theorem interval : Yields source (interval inner) Expr.Told :=
  .skip fun _ => .skip fun fields => .pure (.phrase _ _ fields)

theorem negation : Yields source (negation inner) Expr.Told := by
  refine .skip fun exist => .ite (existence true) (.skip fun e => .pure ?_)
  exact .of_mem (c := ' ') rfl (by simp [Expr.text, UnaryOp.text]) (by decide)

theorem listAggregate : Yields source (listAggregate inner) Expr.Told :=
  .bind (worded (by decide)) fun list hlist => .skip fun parts => .pure (.followed hlist parts)

omit [Inner.Follows .finish inner inner] in
theorem search : Yields source search Expr.Told := by
  refine .skip fun columns => .skip fun _ => .skip fun sought => .pure ?_
  exact .phrase_append _ _ (List.cons_ne_nil _ _)

theorem wordRules : ∀ rule ∈ wordRules inner, Yields source rule.2 Expr.Told := by
  simp only [Parser.wordRules, List.forall_mem_cons]
  refine ⟨.pure (.boolean true), .pure (.boolean false), .pure .null, ?_⟩
  refine ⟨decision, conversion (by decide), conversion (by decide), conversion (by decide), ?_⟩
  refine ⟨existence false, worded (by decide), worded (by decide), worded (by decide), ?_⟩
  refine ⟨worded (by decide), worded (by decide), worded (by decide), worded (by decide), ?_⟩
  refine ⟨interval, listAggregate, worded (by decide), negation, ?_⟩
  exact ⟨search, List.forall_mem_nil _⟩

theorem typedString : Yields source (typedString inner) Expr.Told := by
  refine .skip fun type => ?_
  split
  · exact .expected
  · exact interval
  · exact .skip fun content =>
      .pure (.of_mem (c := ' ') rfl (by simp [Expr.text]) (by decide))

/-! ### What stands behind an operand -/

theorem truthTest (e : Expr) : Yields source (truthTest inner e) Expr.Told := by
  have htest (negated : Bool) (truth : Truth) : (Expr.test e negated truth).Told :=
    .of_mem (c := ' ') rfl (by cases negated <;> simp [Expr.text]) (by decide)
  have hdistinct (negated : Bool) (right : Expr) : (Expr.distinctFrom e negated right).Told :=
    .of_mem (c := ' ') rfl (by cases negated <;> simp [Expr.text]) (by decide)
  iterate 8 refine .skip fun _ => .ite (.pure (htest _ _)) ?_
  iterate 2 refine .skip fun _ => .ite (.skip fun right => .pure (hdistinct _ right)) ?_
  exact .expected

theorem predicate (e : Expr) : Yields source (predicate inner e) Expr.Told := by
  refine .skip fun negation => .skip fun parts => ?_
  split
  · exact .expected
  · next hparts => exact .pure (.phrase_append e negation hparts)

theorem subscriptOf {e : Expr} (he : e.Told) : Yields source (subscriptOf inner e) Expr.Told := by
  have hkeys (count : Nat) :
      Yields source (subscriptKeysUpTo inner count) fun keys => keys ≠ [] := by
    cases count with
    | zero => exact .skip fun key => .pure (List.cons_ne_nil key [])
    | succ count =>
      have hfurther : Follows .finish (subscriptKeysUpTo inner count)
          (subscriptKeysUpTo inner count) :=
        Follows.subscriptKeysUpTo count
      refine .skip fun first => .skip fun further => .ite ?_ (.pure (List.cons_ne_nil first []))
      exact .skip fun keys => .pure (List.cons_ne_nil first keys)
  refine .skip fun count => .bind (hkeys count) fun keys hkeys => ?_
  split
  · obtain ⟨key, keys, rfl⟩ := List.exists_cons_of_ne_nil hkeys
    exact .pure (.of_mem (c := '[') rfl (by simp [Expr.text, Expr.keysText]) (by decide))
  · exact .pure he

theorem operatorOf (e : Expr) (op : BinaryOp) (strength : Nat) (place : Position) :
    Yields source (operatorOf inner e op strength place) Expr.Told := by
  have hquantified (all : Bool) :
      Yields source (quantifiedOf inner e op strength all place) Expr.Told := by
    refine .skip fun _ => .skip fun right => .skip fun _ => .ite ?_ (.never fun _ => ⟨_, _, rfl⟩)
    exact .pure (.of_mem (c := ' ') rfl (by simp [Expr.text]) (by decide))
  refine .skip fun _ => .ite (hquantified false) (.skip fun _ => .ite (hquantified true) ?_)
  exact .skip fun right =>
    .pure (.of_mem (c := ' ') rfl (by simp [Expr.text]) (by decide))

omit [Inner.Follows .finish inner inner] in
theorem timeZoneOf (e : Expr) : Yields source (timeZoneOf e) Expr.Told := by
  refine .skip fun _ => .skip fun _ => .bind next fun found _ => ?_
  split
  · exact .pure (.of_mem (c := ' ') rfl (by simp [Expr.text]) (by decide))
  · exact .never fun _ => ⟨_, _, rfl⟩

/-- An operand stays as it is or becomes part of something that shows it is more. -/
theorem continueWith {e : Expr} (he : e.Told) (place : Position) (c : Continuation) :
    Yields source (continueWith inner e place c) Expr.Told := by
  have htaking {p : Parser Expr} (hp : Yields source p Expr.Told) :
      Yields source (taking p) Expr.Told :=
    .bind next fun _ _ => hp
  have hbinary (op : BinaryOp) (right : Expr) : (Expr.binary e op right).Told :=
    .of_mem (c := ' ') rfl (by simp [Expr.text]) (by decide)
  cases c with
  | nothing => exact .pure he
  | predicate => exact predicate e
  | operator op strength => exact htaking (operatorOf e op strength place)
  | documentOperator op => exact htaking (.skip fun right => .pure (hbinary op right))
  | integerDivision => exact htaking (.skip fun right => .pure (hbinary _ right))
  | truthTest => exact htaking (truthTest e)
  | timeZone => exact htaking (timeZoneOf e)
  | conversion => exact htaking (.skip fun type => .pure (.enclosed _ (by decide)))
  | factorial =>
    exact htaking (.pure (.of_mem (c := '!') rfl (by simp [Expr.text]) (by decide)))
  | subscript => exact htaking (subscriptOf he)
  | colon =>
    refine htaking (.skip fun key => .pure ?_)
    exact .of_mem (c := ':') rfl (by simp [Expr.text]) (by decide)
  | meaningless => exact htaking (.never fun _ => ⟨_, _, rfl⟩)
  | meaninglessWord => exact htaking (.never fun _ => ⟨_, _, rfl⟩)

theorem continuationsUpTo (reach : Reach) (count : Nat) {e : Expr} (he : e.Told) :
    Yields source (continuationsUpTo inner reach count e) Expr.Told := by
  induction count generalizing e with
  | zero => exact .pure he
  | succ count ih =>
    refine .skip fun c => .bind peek fun found _ => ?_
    split
    · exact .ite (.bind (continueWith he _ c) fun e he => ih he) (.pure he)
    · exact .pure he

/-! ### Calls -/

/-- A star can be seen. -/
theorem star? : Yields source star? fun found => ∀ e ∈ found, e.text ≠ [] := by
  have hstar (table : Name) : (Expr.star table).text ≠ [] := by
    rw [Expr.text, starText]
    split_ifs <;> simp
  have hfound (table : Name) : ∀ e ∈ some (Expr.star table), e.text ≠ [] :=
    fun e he => Option.some.inj he ▸ hstar table
  have hcount (table : Name) (count : Nat) :
      Yields source (tableStarUpTo table count) fun found => ∀ e ∈ found, e.text ≠ [] := by
    induction count generalizing table with
    | zero => exact .none rfl
    | succ count ih =>
      refine .skip fun period => .ite (.bind next fun found _ => ?_) (.none rfl)
      split
      · exact ih _
      · exact .pure (hfound table)
      · exact .never fun _ => ⟨_, _, rfl⟩
  refine .bind next fun found _ => ?_
  split
  · exact .pure (hfound [])
  · exact .skip fun count => hcount _ count
  · exact .none rfl

variable (hvalue : Yields source inner.value Expr.Told)

include hvalue

omit [Inner.Follows .finish inner inner] in
theorem item : Yields source (item inner) fun e => e.text ≠ [] := by
  refine .bind (.optionally star?) fun found hfound => ?_
  cases found with
  | some e => exact .pure (hfound e rfl)
  | none => exact hvalue.mono fun e he => he.text_ne_nil

omit [Inner.Follows .finish inner inner] in
theorem argument : Yields source (argument inner) fun e => e.text ≠ [] := by
  refine .bind (.look _) fun labelled _ => .ite ?_ (item hvalue)
  refine .skip fun parameter => .skip fun _ => .bind (item hvalue) fun e _ => .pure ?_
  simp [Expr.text]

theorem arguments :
    Yields source (arguments inner) fun read => ∀ a ∈ read.1, a.text ≠ [] := by
  refine .skip fun closed => .ite (.pure (List.forall_mem_nil _)) ?_
  refine .bind (.commaSeparated (argument hvalue)) fun list hlist => ?_
  have hend (order : List Expr) : Yields source
      (expectSymbol .rightParen >>= fun _ => Pure.pure (list, order))
      fun read => ∀ a ∈ read.1, a.text ≠ [] :=
    .skip fun _ => .pure hlist
  exact .skip fun ordered => .ite (.skip hend) (.skip hend)

/-- A call that is told is told with its window too. -/
theorem call (w : Word) (parts : Name) :
    Yields source (call inner (wordIdent w :: parts)) Expr.Told :=
  .skip fun _ => .bind (arguments hvalue) fun ⟨_, order⟩ hlist => .skip fun window =>
    .pure (.followed (.call parts _ order hlist) window)

theorem bareCall {w : Word} (hw : w.IsLexed) :
    Yields source (bareCall inner (wordIdent w)) Expr.Told := by
  refine .skip fun paren => .ite ?_ (.pure (.bareCall hw))
  exact .bind (arguments hvalue) fun ⟨list, order⟩ hlist => .pure (.call [] false order hlist)

theorem nameOrCall {w : Word} (hw : w.IsLexed) (hk : w.is .CURRENT_TIMESTAMP = false) :
    Yields source (nameOrCall inner w) Expr.Told := by
  have hparts := Follows.partsUpTo (s := .finish)
  have hname : Yields source
      (remaining >>= fun count => partsUpTo count >>= fun parts =>
        symbol? .leftParen >>= fun paren =>
          if paren = true then Parser.call inner (wordIdent w :: parts)
          else Pure.pure (.name (wordIdent w :: parts))) Expr.Told :=
    .skip fun count => .skip fun parts => .skip fun paren =>
      .ite (call hvalue w parts) (.pure (.name hw hk parts))
  refine .bind peek fun found _ => ?_
  split
  · exact hname
  · exact hname
  · refine .ite (.bind next fun _ _ => .pure ?_) (.pure (.name hw hk []))
    exact .of_mem (c := ' ') rfl (by simp [Expr.text]) (by decide)
  · exact .pure (.name hw hk [])

/-! ### Operands -/

theorem wordExpr {w : Word} (hw : w.IsLexed) : Yields source (wordExpr inner w) Expr.Told := by
  unfold Parser.wordExpr
  split
  · next rule hrule => exact wordRules _ (List.mem_of_find?_eq_some hrule)
  · refine .bind (.look _) fun bracket _ => .bind (.look _) fun paren _ => ?_
    split
    · exact bareCall hvalue hw
    · next hbare =>
      have hk : w.is .CURRENT_TIMESTAMP = false := by
        simp only [bareFunctions, List.any_cons, Bool.or_eq_true, not_or] at hbare
        exact Bool.eq_false_iff.2 hbare.1
      refine .ite (.bind next fun _ _ => array true) (.ite (worded (by decide)) ?_)
      exact nameOrCall hvalue hw hk

theorem plainOperand (hsource : ∀ t ∈ source, t.token.IsLexed) :
    Yields source (plainOperand inner) Expr.Told := by
  have hunary (op : UnaryOp) (hop : ∃ c ∈ op.text.toList, DefaultValue.foreign c = true) :
      Yields source (inner.operand (.above 40) >>= fun e => Pure.pure (.unary op e)) Expr.Told := by
    obtain ⟨c, hc, hforeign⟩ := hop
    refine .skip fun e => .pure (.of_mem (c := c) rfl ?_ hforeign)
    exact List.mem_append_left _ hc
  refine .bind next fun found hfound => ?_
  have hlexed (t : Token) (ht : found.map Located.token = some t) : t.IsLexed := by
    obtain ⟨located, hlocated, rfl⟩ := Option.map_eq_some_iff.1 ht
    exact hsource located (hfound located hlocated)
  split
  · next w hw => exact wordExpr hvalue (hlexed _ hw)
  · exact .never fun _ => ⟨_, _, rfl⟩
  · exact hunary .minus ⟨'-', by decide, by decide⟩
  · exact hunary .plus ⟨'+', by decide, by decide⟩
  · exact tuple
  · exact array false
  · exact namedPlaceholder (by decide)
  · exact namedPlaceholder (by decide)
  · next t _ _ _ _ _ _ _ _ ht =>
    split
    · next e he => exact .pure (.of_literalOf? (hlexed t ht) he)
    · exact .never fun _ => ⟨_, _, rfl⟩
  · exact .never fun _ => ⟨_, _, rfl⟩

theorem anyOperand (hsource : ∀ t ∈ source, t.token.IsLexed) :
    Yields source (anyOperand inner) Expr.Told := by
  refine .bind (.attempt typedString) fun found hfound => ?_
  cases found with
  | some e => exact .pure (hfound e rfl)
  | none =>
    refine .bind (plainOperand hvalue hsource) fun e he => .skip fun collated => .ite ?_ (.pure he)
    exact .skip fun collation =>
      .pure (.of_mem (c := ' ') rfl (by simp [Expr.text]) (by decide))

end Inner

/-! ### Expressions and column options -/

variable (hsource : ∀ t ∈ source, t.token.IsLexed)

include hsource

/-- What is read inside an expression starts at a later token, so the rules for it are known. -/
theorem exprUpTo (count levels : Nat) (reach : Reach) :
    Yields source (exprUpTo count levels reach) Expr.Told := by
  induction count generalizing levels reach with
  | zero => exact .never fun _ => ⟨_, _, rfl⟩
  | succ count ih =>
    have := (Inner.Level.expression count levels).finish
    have hvalue : Yields source (Inner.within (Parser.exprUpTo count) levels).value Expr.Told := by
      cases levels with
      | zero => exact .never fun _ => ⟨_, _, rfl⟩
      | succ levels => exact ih levels .all
    refine .bind (anyOperand hvalue hsource) fun left hleft => .skip fun count => ?_
    exact continuationsUpTo reach count hleft

theorem expression : Yields source expression Expr.Told :=
  .skip fun count => exprUpTo hsource (count + 1) _ .all

omit hsource in
theorem noDefault {found : Option ColumnOption}
    (h : found.bind ColumnOption.default? = Option.none) :
    Yields source (Pure.pure found) fun found =>
      ∀ e ∈ found.bind ColumnOption.default?, e.Told :=
  .pure fun e he => absurd (h ▸ he) (Option.not_mem_none e)

omit hsource in
theorem generated : Yields source generated fun found =>
    ∀ e ∈ found.bind ColumnOption.default?, e.Told := by
  unfold Parser.generated
  extract_lets done rest
  have hdone (u : Unit) : Yields source (done u) fun found =>
      ∀ e ∈ found.bind ColumnOption.default?, e.Told :=
    .noDefault rfl
  have hrest (identity : Bool) : Yields source (rest identity) fun found =>
      ∀ e ∈ found.bind ColumnOption.default?, e.Told := by
    refine .ite (.skip fun paren => .ite (.skip hdone) (hdone ())) ?_
    refine .skip fun always => .ite (.skip fun paren => .ite ?_ (.noDefault rfl)) (.noDefault rfl)
    exact .skip fun value => .skip fun stored => .noDefault rfl
  exact .skip fun always => .ite (.skip hrest) (.skip hrest)

theorem columnOption? : Yields source columnOption? fun found =>
    ∀ e ∈ found.bind ColumnOption.default?, e.Told := by
  refine .skip fun _ => .ite (.skip fun _ => .noDefault rfl) ?_
  refine .skip fun _ => .ite (.noDefault rfl) ?_
  refine .skip fun _ => .ite (.bind next fun found _ => ?_) ?_
  · split
    · exact .noDefault rfl
    · exact .never fun _ => ⟨_, _, rfl⟩
  refine .skip fun _ => .ite (.noDefault rfl) ?_
  refine .skip fun _ => .ite (.bind (expression hsource) fun e he => .pure ?_) ?_
  · exact fun e' he' => Option.some.inj he' ▸ he
  iterate 2 refine .skip fun _ => .ite (.noDefault rfl) ?_
  refine .skip fun _ => .ite (.skip fun _ => .skip fun _ => .skip fun _ => .noDefault rfl) ?_
  refine .skip fun _ => .ite (.skip fun _ => .noDefault rfl) ?_
  refine .skip fun _ => .ite (.noDefault rfl) (.skip fun _ => ?_)
  refine .skip fun _ => .ite (.skip fun _ => .noDefault rfl) ?_
  exact .skip fun _ => .ite generated (.noDefault rfl)

omit hsource in
/-- Options of which each is told, with one more in front. -/
theorem optionsCons {rest : Parser (List ColumnOption)} {o : ColumnOption}
    (ho : ∀ e ∈ o.default?, e.Told)
    (hrest : Yields source rest fun options =>
      ∀ e ∈ options.filterMap ColumnOption.default?, e.Told) :
    Yields source (rest >>= fun options => Pure.pure (o :: options)) fun options =>
      ∀ e ∈ options.filterMap ColumnOption.default?, e.Told := by
  refine .bind hrest fun options hoptions => .pure fun e he => ?_
  obtain ⟨o', ho', hdefault⟩ := List.mem_filterMap.1 he
  rcases List.mem_cons.1 ho' with rfl | ho'
  · exact ho e hdefault
  · exact hoptions e (List.mem_filterMap.2 ⟨o', ho', hdefault⟩)

theorem bareOptionsUpTo (count : Nat) : Yields source (bareOptionsUpTo count) fun options =>
    ∀ e ∈ options.filterMap ColumnOption.default?, e.Told := by
  induction count with
  | zero => exact .pure (List.forall_mem_nil _)
  | succ count ih =>
    refine .bind (columnOption? hsource) fun found hfound => ?_
    cases found with
    | some o => exact optionsCons hfound ih
    | none => exact .pure (List.forall_mem_nil _)

theorem optionsUpTo (count : Nat) : Yields source (optionsUpTo count) fun options =>
    ∀ e ∈ options.filterMap ColumnOption.default?, e.Told := by
  induction count with
  | zero => exact .pure (List.forall_mem_nil _)
  | succ count ih =>
    refine .skip fun named => .ite (.skip fun label => ?_) ?_
    · refine .bind (columnOption? hsource) fun found hfound => ?_
      cases found with
      | some o => exact optionsCons hfound ih
      | none => exact .expected
    · refine .bind (columnOption? hsource) fun found hfound => ?_
      cases found with
      | some o => exact optionsCons hfound ih
      | none => exact .pure (List.forall_mem_nil _)

end Yields

end SqlModels.Sql
