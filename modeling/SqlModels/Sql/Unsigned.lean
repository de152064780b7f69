import SqlModels.Sql.Token

/-!
Unsigned decimals and floats. The type grammar takes `UNSIGNED` after integer types only; before
parsing, `DECIMAL(10,2) UNSIGNED` becomes the type name `UNSIGNED_DECIMAL(10,2)`, and likewise for
`NUMERIC`, `FLOAT`, `DOUBLE`, `DOUBLE PRECISION` and `REAL`.
-/

namespace SqlModels.Sql

def numericKeywords : List Keyword :=
  [.DECIMAL, .NUMERIC, .FLOAT, .DOUBLE, .REAL]

def Token.numericKeyword? (t : Token) : Option Keyword :=
  numericKeywords.find? t.is

def unsignedMark : String := "UNSIGNED_"

def unsignedWord (k : Keyword) : Token :=
  .word ⟨unsignedMark ++ k.name, false⟩

namespace Located

def isGap (t : Located) : Bool :=
  t.token.isGap

def splitGaps (ts : List Located) : List Located × List Located :=
  (ts.takeWhile isGap, ts.dropWhile isGap)

def splitGroup? : List Located → Option (List Located × List Located)
  | [] => none
  | t :: rest =>
    if t.token = .symbol .rightParen then some ([t], rest)
    else (splitGroup? rest).map fun (group, behind) => (t :: group, behind)

/-- Splits before the first significant token behind a type word, dropping the `PRECISION` of a
`DOUBLE PRECISION`. -/
def splitPrecision (k : Keyword) (ts : List Located) : List Located × List Located :=
  match splitGaps ts with
  | (gaps, t :: rest) =>
    if k = .DOUBLE && t.token.is .PRECISION then
      (gaps ++ (splitGaps rest).1, (splitGaps rest).2)
    else (gaps, t :: rest)
  | (gaps, []) => (gaps, [])

/-- Splits before the first significant token behind a parenthesis group, if one stands in
front; `none` if the group is not closed. -/
def splitArguments? (ts : List Located) : Option (List Located × List Located) :=
  match ts with
  | t :: _ =>
    if t.token = .symbol .leftParen then
      (splitGroup? ts).map fun (group, behind) =>
        (group ++ (splitGaps behind).1, (splitGaps behind).2)
    else some ([], ts)
  | [] => some ([], [])

/-- The tokens between a numeric type word and its `UNSIGNED`, and those behind that; `none` if
the word has no `UNSIGNED`. -/
def splitUnsigned? (k : Keyword) (ts : List Located) : Option (List Located × List Located) :=
  let (between, rest) := splitPrecision k ts
  match splitArguments? rest with
  | some (arguments, u :: behind) =>
    if u.token.is .UNSIGNED then some (between ++ arguments, behind) else none
  | _ => none

theorem length_splitGaps_snd_le (ts : List Located) : (splitGaps ts).2.length ≤ ts.length :=
  (List.dropWhile_sublist _).length_le

theorem length_splitGroup?_lt {ts group behind : List Located}
    (h : splitGroup? ts = some (group, behind)) : behind.length < ts.length := by
  induction ts generalizing group with
  | nil => simp [splitGroup?] at h
  | cons t rest ih =>
    simp only [splitGroup?] at h
    split at h
    · simp_all
    · obtain ⟨⟨g, b⟩, hg, he⟩ := Option.map_eq_some_iff.1 h
      simp only [Prod.mk.injEq] at he
      have := ih (he.2 ▸ hg)
      simp only [List.length_cons]
      omega

theorem length_splitPrecision_snd_le (k : Keyword) (ts : List Located) :
    (splitPrecision k ts).2.length ≤ ts.length := by
  have h := length_splitGaps_snd_le ts
  unfold splitPrecision
  split
  · next gaps t rest he =>
    rw [he] at h
    have := length_splitGaps_snd_le rest
    simp only [List.length_cons] at h
    split <;> simp only [List.length_cons] <;> omega
  · simp

theorem length_splitArguments?_le {ts arguments behind : List Located}
    (h : splitArguments? ts = some (arguments, behind)) : behind.length ≤ ts.length := by
  unfold splitArguments? at h
  split at h
  · split at h
    · obtain ⟨⟨g, b⟩, hg, he⟩ := Option.map_eq_some_iff.1 h
      simp only [Prod.mk.injEq] at he
      have := length_splitGroup?_lt hg
      have := length_splitGaps_snd_le b
      rw [← he.2]
      omega
    · simp_all
  · simp_all

theorem length_splitUnsigned?_lt {k : Keyword} {ts between behind : List Located}
    (h : splitUnsigned? k ts = some (between, behind)) : behind.length < ts.length := by
  have hp := length_splitPrecision_snd_le k ts
  simp only [splitUnsigned?] at h
  split at h
  · next arguments u rest ha =>
    have := length_splitArguments?_le ha
    simp only [List.length_cons] at this
    split at h <;> simp_all
    omega
  · simp at h

end Located

/-- Each numeric type word with an `UNSIGNED` takes that into its name; all other tokens stay. -/
def foldUnsigned : List Located → List Located
  | [] => []
  | t :: rest =>
    match t.token.numericKeyword? with
    | none => t :: foldUnsigned rest
    | some k =>
      match _h : Located.splitUnsigned? k rest with
      | none => t :: foldUnsigned rest
      | some (between, behind) => ⟨unsignedWord k, t.place⟩ :: between ++ foldUnsigned behind
termination_by ts => ts.length
decreasing_by
  all_goals simp only [List.length_cons]
  · omega
  · omega
  · have := Located.length_splitUnsigned?_lt _h
    omega

end SqlModels.Sql
