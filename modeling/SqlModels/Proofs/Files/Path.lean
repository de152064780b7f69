import Mathlib.Data.List.DropRight
import SqlModels.Files.Path
import SqlModels.Proofs.Text.Split

/-!
The segments of a path below a directory, and of the directory that is found above it. Empty
segments and single dots at the end of a path are blank: they lead nowhere.
-/

namespace SqlModels.Path

/-- A segment that leads to where it starts. -/
def IsBlank (part : Text) : Prop :=
  part = [] ∨ part = ['.']

/-- Paths whose segments differ in blank ones at the end only. -/
def SameUpToBlanks (a b : List Text) : Prop :=
  ∃ kept blanks others, a = kept ++ blanks ∧ b = kept ++ others ∧
    (∀ part ∈ blanks, IsBlank part) ∧ ∀ part ∈ others, IsBlank part

/-- A name that an entry of a directory can have, however long. -/
structure IsName (name : String) : Prop where
  noSlash : '/' ∉ name.toList
  notBlank : ¬ IsBlank name.toList
  notParent : name.toList ≠ ['.', '.']

variable {dir name : String}

theorem segments_ne_nil (path : String) : segments path ≠ [] := by
  rw [segments, Text.splitAt_eq_splitOn]
  exact List.splitOn_ne_nil _ _

theorem joinWith_segments (path : String) : Text.joinWith ['/'] (segments path) = path.toList := by
  rw [segments, Text.splitAt_eq_splitOn, Text.joinWith_eq_intercalate, List.intercalate_splitOn]

theorem segments_ofList {parts : List Text} (hne : parts ≠ []) (h : ∀ part ∈ parts, '/' ∉ part) :
    segments (String.ofList (Text.joinWith ['/'] parts)) = parts := by
  rw [segments, String.toList_ofList, Text.splitAt_eq_splitOn, Text.joinWith_eq_intercalate,
    List.splitOn_intercalate '/' h hne]

theorem IsName.not_absolute (h : IsName name) : isAbsolute name = false := by
  rw [isAbsolute, decide_eq_false_iff_not]
  exact fun hhead => h.noSlash (List.mem_of_head? hhead)

theorem join_relative (hdir : dir ≠ "") (h : isAbsolute name = false) :
    join dir name = if dir.toList.getLast? = some '/' then dir ++ name else dir ++ "/" ++ name := by
  simp [join, h, hdir]

theorem join_eq (hdir : dir ≠ "") (h : IsName name) :
    join dir name = if dir.toList.getLast? = some '/' then dir ++ name else dir ++ "/" ++ name :=
  join_relative hdir h.not_absolute

/-- Relative paths are joined to a directory by one and the same beginning. -/
theorem exists_join_eq (dir : String) : ∃ before : Text, ∀ name, isAbsolute name = false →
    (join dir name).toList = before ++ name.toList := by
  by_cases hdir : dir = ""
  · exact ⟨[], fun name _ => by simp [hdir, join]⟩
  · refine ⟨if dir.toList.getLast? = some '/' then dir.toList else dir.toList ++ ['/'], ?_⟩
    intro name hname
    rw [join_relative hdir hname]
    split <;> simp

theorem segments_slash (before behind : Text) : Text.splitAt '/' (before ++ '/' :: behind) =
    Text.splitAt '/' before ++ Text.splitAt '/' behind := by
  simp only [Text.splitAt_eq_splitOn, List.splitOn_append_cons_self]

/-- A relative path is found by its own segments behind those of the directory. -/
theorem segments_join_relative (hdir : dir ≠ "") (h : isAbsolute name = false) :
    ∃ above, segments (join dir name) = above ++ segments name ∧ above ≠ [] ∧
      (segments dir = above ∨ segments dir = above ++ [[]]) := by
  rw [join_relative hdir h]
  split
  · rename_i hlast
    obtain ⟨before, hbefore⟩ := List.getLast?_eq_some_iff.1 hlast
    refine ⟨segments (String.ofList before), ?_, segments_ne_nil _, .inr ?_⟩
    · simp [segments, hbefore, segments_slash]
    · simp [segments, hbefore, segments_slash, Text.splitAt]
  · refine ⟨segments dir, ?_, segments_ne_nil dir, .inl rfl⟩
    simp [segments, segments_slash]

theorem IsName.segments (h : IsName name) : segments name = [name.toList] := by
  rw [Path.segments, Text.splitAt_eq_splitOn, List.splitOn_eq_singleton h.noSlash]

theorem segments_join (hdir : dir ≠ "") (h : IsName name) :
    ∃ above, segments (join dir name) = above ++ [name.toList] ∧ above ≠ [] ∧
      (segments dir = above ∨ segments dir = above ++ [[]]) :=
  h.segments ▸ segments_join_relative hdir h.not_absolute

theorem isAbsolute_iff {path : String} : isAbsolute path = true ↔ path.toList.head? = some '/' := by
  simp [isAbsolute]

theorem isAbsolute_join (hdir : dir ≠ "") (h : IsName name) :
    isAbsolute (join dir name) = isAbsolute dir := by
  have hne : dir.toList ≠ [] := by simpa using hdir
  rw [join_eq hdir h, Bool.eq_iff_iff, isAbsolute_iff, isAbsolute_iff]
  split <;> simp [List.head?_append_of_ne_nil _ hne]

/-- A path without the blank segments at its end. -/
def trim (parts : List Text) : List Text :=
  (dropEmpty parts.reverse).reverse

theorem trim_blanks (parts : List Text) :
    ∃ blanks, parts = trim parts ++ blanks ∧ ∀ part ∈ blanks, IsBlank part := by
  refine ⟨(parts.reverse.takeWhile fun part => part = [] || part = ['.']).reverse, ?_, ?_⟩
  · rw [trim, dropEmpty, ← List.reverse_append, List.takeWhile_append_dropWhile,
      List.reverse_reverse]
  · intro part hpart
    simpa [IsBlank] using List.mem_takeWhile_imp (List.mem_reverse.1 hpart)

theorem dropEmpty_of_notBlank {part : Text} (h : ¬ IsBlank part) (rest : List Text) :
    dropEmpty (part :: rest) = part :: rest :=
  List.dropWhile_cons_of_neg (by simpa [IsBlank] using h)

theorem trim_of_notBlank {part : Text} (h : ¬ IsBlank part) (rest : List Text) :
    trim (part :: rest) = part :: trim rest := by
  have hlast : dropEmpty [part] = [part] := dropEmpty_of_notBlank h []
  rw [trim, List.reverse_cons, dropEmpty, List.dropWhile_append, ← dropEmpty, ← dropEmpty, hlast,
    trim]
  split <;> simp_all

theorem dropLastSegment_append (parts : List Text) {last : Text} (h : ¬ IsBlank last) :
    dropLastSegment (parts ++ [last]) = some (trim parts) := by
  simp [dropLastSegment, dropEmpty_of_notBlank h, trim]

theorem withFirst_eq (first : Text) (rest : List Text) :
    withFirst first rest = String.ofList (Text.joinWith ['/'] (first :: rest)) := by
  have hjoin : ∀ first, Text.joinWith ['/'] (first :: rest) =
      first ++ rest.flatMap fun part => '/' :: part := by
    induction rest with
    | nil => simp [Text.joinWith]
    | cons next rest ih => simp [Text.joinWith, ih]
  rw [withFirst, hjoin]

theorem parent_of_segments {path : String} {first last : Text} {rest : List Text}
    (h : segments path = first :: (rest ++ [last])) (hlast : ¬ IsBlank last) :
    parent? path = some (if first :: trim rest = [[]] then "/"
      else String.ofList (Text.joinWith ['/'] (first :: trim rest))) := by
  have hrest : rest ++ [last] ≠ [] := by simp
  rw [parent?, h]
  split
  · simp_all
  · rename_i hsegments
    obtain ⟨rfl, rfl⟩ := List.cons.inj hsegments
    simp [dropLastSegment_append rest hlast, withFirst_eq]
  · rename_i hsegments
    obtain ⟨rfl, rfl⟩ := List.cons.inj hsegments
    simp [dropLastSegment_append rest hlast, withFirst_eq]
  · rename_i hnil hroot hdot
    have hfirst : ¬ IsBlank first := by
      rintro (rfl | rfl)
      · exact hroot _ rfl
      · exact hdot _ rfl
    have hne : first ≠ [] := fun h => hfirst (.inl h)
    rw [← List.cons_append, dropLastSegment_append _ hlast, trim_of_notBlank hfirst]
    simp [hne]

theorem joinWith_ne_nil {first : Text} {rest : List Text} (h : first :: rest ≠ [[]]) :
    Text.joinWith ['/'] (first :: rest) ≠ [] := by
  cases rest with
  | nil => simpa [Text.joinWith] using h
  | cons next rest => simp [Text.joinWith]

theorem directory_of_segments {path : String} {first last : Text} {rest : List Text}
    (h : segments path = first :: (rest ++ [last])) (hlast : ¬ IsBlank last) :
    directory path = if first :: trim rest = [[]] then "/"
      else String.ofList (Text.joinWith ['/'] (first :: trim rest)) := by
  rw [directory, parent_of_segments h hlast]
  dsimp only
  split
  · simp
  · rename_i hkept
    rw [if_neg]
    simpa [← String.toList_eq_nil_iff] using joinWith_ne_nil hkept

/-- The directory above an entry leads to where the entry was put, by a part of the same text. -/
theorem directory_join (hdir : dir ≠ "") (h : IsName name) :
    SameUpToBlanks (segments (directory (join dir name))) (segments dir) ∧
      directory (join dir name) ≠ "" ∧ (directory (join dir name)).toList <+: dir.toList := by
  obtain ⟨above, hjoin, habove, hsegments⟩ := segments_join hdir h
  obtain ⟨first, rest, rfl⟩ := List.exists_cons_of_ne_nil habove
  obtain ⟨blanks, hrest, hblanks⟩ := trim_blanks rest
  -- All segments of the directory behind those that are kept are blank.
  obtain ⟨others, hdirSegments, hothers⟩ : ∃ others,
      segments dir = first :: trim rest ++ others ∧ ∀ part ∈ others, IsBlank part := by
    have habove : first :: rest = first :: trim rest ++ blanks := congrArg (first :: ·) hrest
    rcases hsegments with hsegments | hsegments
    · exact ⟨blanks, hsegments.trans habove, hblanks⟩
    · refine ⟨blanks ++ [[]], ?_, ?_⟩
      · rw [hsegments, habove, List.append_assoc]
      · exact List.forall_mem_append.2 ⟨hblanks, List.forall_mem_singleton.2 (.inl rfl)⟩
  rw [directory_of_segments hjoin h.notBlank]
  have htext := joinWith_segments dir
  rw [hdirSegments] at htext
  split
  · rename_i hkept
    obtain ⟨rfl, htrim⟩ := List.cons.inj hkept
    rw [htrim] at hdirSegments htext
    have hothers' : others ≠ [] := by
      rintro rfl
      exact hdir (by simpa [Text.joinWith] using htext.symm)
    refine ⟨⟨[[]], [[]], others, by decide, hdirSegments, ?_, hothers⟩, by decide, ?_⟩
    · exact List.forall_mem_singleton.2 (.inl rfl)
    · rw [← htext, Text.joinWith_append ['/'] (List.cons_ne_nil _ _) hothers']
      exact List.prefix_append _ _
  · rename_i hkept
    refine ⟨⟨first :: trim rest, [], others, ?_, hdirSegments, by simp, hothers⟩, ?_, ?_⟩
    · rw [List.append_nil]
      refine segments_ofList (List.cons_ne_nil _ _) fun part hpart => ?_
      exact Text.not_mem_of_mem_splitAt (hdirSegments ▸ List.mem_append_left others hpart)
    · simpa [← String.toList_eq_nil_iff] using joinWith_ne_nil hkept
    · rw [String.toList_ofList, ← htext]
      by_cases hothers' : others = []
      · simp [hothers']
      · rw [Text.joinWith_append ['/'] (List.cons_ne_nil _ _) hothers', List.append_assoc]
        exact List.prefix_append _ _

theorem isAbsolute_of_isPrefix {path whole : String} (hne : path ≠ "")
    (h : path.toList <+: whole.toList) : isAbsolute path = isAbsolute whole := by
  obtain ⟨rest, hrest⟩ := h
  have hpath : path.toList ≠ [] := by simpa using hne
  rw [isAbsolute, isAbsolute, ← hrest, List.head?_append_of_ne_nil _ hpath]

theorem utf8ByteSize_le_of_isPrefix {path whole : String} (h : path.toList <+: whole.toList) :
    path.utf8ByteSize ≤ whole.utf8ByteSize := by
  obtain ⟨rest, hrest⟩ := h
  have hwhole : whole = path ++ String.ofList rest := by
    rw [← String.toList_inj, String.toList_append, String.toList_ofList, hrest]
  rw [hwhole, String.utf8ByteSize_append]
  exact Nat.le_add_right _ _

end SqlModels.Path
