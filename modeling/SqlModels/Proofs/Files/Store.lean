import SqlModels.Files.Store
import SqlModels.Proofs.Files.Path

/-!
Where paths lead, and what replacing a file keeps. A store that keeps its directories leads every
path that leads somewhere to the same place; the entries of a directory are told apart by name.
-/

namespace SqlModels.Store

variable {s after : Store} {dir path name : String} {d p q : Place} {n : Node}

theorem find?_filter_ne (nodes : List (Place × Node)) (p q : Place) :
    (nodes.filter fun entry => entry.1 ≠ p).find? (fun entry => entry.1 = q) =
      if q = p then none else nodes.find? fun entry => entry.1 = q := by
  rw [List.find?_filter]
  split
  · rename_i hqp
    simp [hqp]
  · rename_i hqp
    congr 1
    funext entry
    by_cases h : entry.1 = q <;> simp [h, hqp]

theorem node?_put (s : Store) (p q : Place) (n : Node) (hp : p ≠ []) :
    (s.put p n).node? q = if q = p then some n else s.node? q := by
  by_cases hq : q = []
  · simp [node?, hq, hp.symm]
  · rw [node?, if_neg hq, put, List.find?_append, find?_filter_ne]
    by_cases hqp : q = p
    · simp [hqp]
    · simp [hqp, Ne.symm hqp, node?, hq]

/-- Every directory of one store is a directory of the other. -/
structure KeepsDirectories (s after : Store) : Prop where
  workingDirectory : after.workingDirectory = s.workingDirectory
  directory : ∀ p, s.node? p = some .directory → after.node? p = some .directory

theorem KeepsDirectories.refl (s : Store) : s.KeepsDirectories s :=
  ⟨rfl, fun _ => id⟩

theorem KeepsDirectories.trans {next : Store} (h : s.KeepsDirectories after)
    (h' : after.KeepsDirectories next) : s.KeepsDirectories next :=
  ⟨h'.workingDirectory.trans h.workingDirectory, fun p hp => h'.directory p (h.directory p hp)⟩

theorem keepsDirectories_put (hp : s.node? p ≠ some .directory) (n : Node) :
    s.KeepsDirectories (s.put p n) := by
  refine ⟨rfl, fun q hq => ?_⟩
  have hroot : p ≠ [] := by
    rintro rfl
    exact hp rfl
  rw [node?_put s p q n hroot, if_neg, hq]
  rintro rfl
  exact hp hq

theorem checkDirectory_eq_ok_iff : s.checkDirectory p = .ok () ↔ s.node? p = some .directory := by
  unfold checkDirectory
  split <;> simp_all

/-- The place a segment leads to from a directory. -/
def follow (here : Place) (part : Text) : Except FileFault Place :=
  if part = [] || part = ['.'] then .ok here
  else if part = ['.', '.'] then .ok here.dropLast
  else if maxNameLength < (String.ofList part).utf8ByteSize then .error .nameTooLong
  else .ok (here ++ [String.ofList part])

theorem walk_cons (s : Store) (here : Place) (part : Text) (rest : List Text) :
    s.walk here (part :: rest) =
      (s.checkDirectory here).bind fun _ => (follow here part).bind fun p => s.walk p rest := by
  rw [walk, follow]
  refine congrArg (s.checkDirectory here).bind (funext fun _ => ?_)
  split
  · rfl
  · split
    · rfl
    · dsimp only
      split <;> rfl

theorem walk_append (s : Store) (here : Place) (parts rest : List Text) :
    s.walk here (parts ++ rest) = (s.walk here parts).bind fun p => s.walk p rest := by
  induction parts generalizing here with
  | nil => rfl
  | cons part parts ih =>
    rw [List.cons_append, walk_cons, walk_cons]
    cases s.checkDirectory here with
    | error fault => rfl
    | ok _ =>
      cases follow here part with
      | error fault => rfl
      | ok p => exact ih p

theorem follow_blank {part : Text} (h : Path.IsBlank part) (here : Place) :
    follow here part = .ok here :=
  if_pos (by simpa [Path.IsBlank] using h)

theorem follow_name (h : Path.IsName name) (here : Place) : follow here name.toList =
    if maxNameLength < name.utf8ByteSize then .error .nameTooLong else .ok (here ++ [name]) := by
  rw [follow, if_neg (by simpa [Path.IsBlank] using h.notBlank), if_neg h.notParent,
    String.ofList_toList]

/-- Blank segments lead from a directory to itself. -/
theorem walk_blanks {blanks : List Text} (h : ∀ part ∈ blanks, Path.IsBlank part)
    (hp : s.node? p = some .directory) : s.walk p blanks = .ok p := by
  induction blanks with
  | nil => rfl
  | cons part rest ih =>
    obtain ⟨hpart, hrest⟩ := List.forall_mem_cons.1 h
    rw [walk_cons, checkDirectory_eq_ok_iff.2 hp, follow_blank hpart]
    exact ih hrest

theorem walk_blanks_eq {blanks : List Text} (h : ∀ part ∈ blanks, Path.IsBlank part)
    (hwalk : s.walk p blanks = .ok q) : q = p := by
  induction blanks with
  | nil => exact (Except.ok.inj hwalk).symm
  | cons part rest ih =>
    obtain ⟨hpart, hrest⟩ := List.forall_mem_cons.1 h
    rw [walk_cons, follow_blank hpart] at hwalk
    cases hp : s.checkDirectory p with
    | error fault => simp [hp, Except.bind] at hwalk
    | ok _ => exact ih hrest (by simpa [hp, Except.bind] using hwalk)

theorem walk_name (hp : s.node? p = some .directory) (h : Path.IsName name) :
    s.walk p [name.toList] =
      if maxNameLength < name.utf8ByteSize then .error .nameTooLong else .ok (p ++ [name]) := by
  rw [walk_cons, checkDirectory_eq_ok_iff.2 hp, follow_name h]
  by_cases hlong : maxNameLength < name.utf8ByteSize
  · rw [if_pos hlong]
    rfl
  · rw [if_neg hlong]
    rfl

theorem KeepsDirectories.walk (h : s.KeepsDirectories after) {here : Place} {parts : List Text}
    (hwalk : s.walk here parts = .ok p) : after.walk here parts = .ok p := by
  induction parts generalizing here with
  | nil => exact hwalk
  | cons part rest ih =>
    rw [walk_cons] at hwalk ⊢
    cases hhere : s.checkDirectory here with
    | error fault => simp [hhere, Except.bind] at hwalk
    | ok _ =>
      have hafter := h.directory here (checkDirectory_eq_ok_iff.1 hhere)
      rw [hhere] at hwalk
      rw [checkDirectory_eq_ok_iff.2 hafter]
      cases hpart : follow here part with
      | error fault => simp [hpart, Except.bind] at hwalk
      | ok next => exact ih (by simpa [hpart, Except.bind] using hwalk)

/-- A path leads to a directory. -/
structure Leads (s : Store) (dir : String) (d : Place) : Prop where
  located : s.locate dir = .ok d
  directory : s.node? d = some .directory

theorem locate_eq (s : Store) (path : String) : s.locate path =
    (checkPath path).bind fun _ => s.walk (s.origin path) (Path.segments path) := rfl

theorem locate_of_check (h : checkPath path = .ok ()) :
    s.locate path = s.walk (s.origin path) (Path.segments path) := by
  rw [locate_eq, h]
  rfl

theorem find_eq (s : Store) (path : String) : s.find path = (s.locate path).bind fun p =>
    match s.node? p with
    | some n => .ok n
    | none => .error .notFound := rfl

theorem isDirectory_iff : s.isDirectory dir = true ↔ ∃ d, s.Leads dir d := by
  rw [isDirectory, find_eq]
  cases h : s.locate dir with
  | error fault =>
    simp only [Except.bind]
    exact iff_of_false (by simp) fun ⟨d, hd⟩ => nomatch h.symm.trans hd.located
  | ok p =>
    have hleads : (∃ d, s.Leads dir d) ↔ s.node? p = some .directory := by
      refine ⟨fun ⟨d, hd⟩ => ?_, fun hp => ⟨p, h, hp⟩⟩
      rw [Except.ok.inj (h.symm.trans hd.located)]
      exact hd.directory
    rw [hleads]
    simp only [Except.bind]
    cases s.node? p with
    | none => simp
    | some n => cases n <;> simp

theorem checkPath_eq_ok_iff : checkPath path = .ok () ↔
    '\x00' ∉ path.toList ∧ path ≠ "" ∧ path.utf8ByteSize ≤ maxPathLength := by
  rw [checkPath]
  split
  · simp_all
  · split
    · simp_all
    · split <;> simp_all

/-- Refuses an entry of a directory whose path or name nothing can be found by. -/
def checkEntry (dir name : String) : Except FileFault Unit := do
  checkPath (Path.join dir name)
  if maxNameLength < name.utf8ByteSize then .error .nameTooLong else .ok ()

namespace Leads

theorem checkPath (h : s.Leads dir d) : Store.checkPath dir = .ok () := by
  have hlocated := h.located
  rw [locate_eq] at hlocated
  cases hcheck : Store.checkPath dir with
  | error fault => simp [hcheck, Except.bind] at hlocated
  | ok _ => rfl

theorem walk (h : s.Leads dir d) : s.walk (s.origin dir) (Path.segments dir) = .ok d := by
  rw [← locate_of_check h.checkPath, h.located]

theorem keep (h : s.Leads dir d) (hkeep : s.KeepsDirectories after) : after.Leads dir d := by
  refine ⟨?_, hkeep.directory d h.directory⟩
  have horigin : after.origin dir = s.origin dir := by rw [origin, origin, hkeep.workingDirectory]
  rw [locate_of_check h.checkPath, horigin]
  exact hkeep.walk h.walk

theorem walk_upToBlanks (h : s.Leads dir d) {parts : List Text}
    (hparts : Path.SameUpToBlanks parts (Path.segments dir)) :
    s.walk (s.origin dir) parts = .ok d := by
  obtain ⟨kept, blanks, others, rfl, hdir, hblanks, hothers⟩ := hparts
  have hwalk := h.walk
  rw [hdir, walk_append] at hwalk
  cases hkept : s.walk (s.origin dir) kept with
  | error fault => simp [hkept, Except.bind] at hwalk
  | ok p =>
    -- What both have in common leads to the directory already: the blanks behind it stay there.
    obtain rfl := walk_blanks_eq hothers (by simpa [hkept, Except.bind] using hwalk)
    rw [walk_append, hkept]
    exact walk_blanks hblanks h.directory

theorem find (h : s.Leads dir d) : s.find dir = .ok .directory := by
  rw [find_eq, h.located, Except.bind, h.directory]

theorem dir_ne (h : s.Leads dir d) : dir ≠ "" :=
  (checkPath_eq_ok_iff.1 h.checkPath).2.1

/-- The directory above an entry is the one that the entry was put in. -/
theorem above (h : s.Leads dir d) (hname : Path.IsName name) :
    s.Leads (Path.directory (Path.join dir name)) d := by
  obtain ⟨hsame, hne, hstart⟩ := Path.directory_join h.dir_ne hname
  obtain ⟨hnul, -, hlength⟩ := checkPath_eq_ok_iff.1 h.checkPath
  have hcheck : Store.checkPath (Path.directory (Path.join dir name)) = .ok () :=
    checkPath_eq_ok_iff.2 ⟨fun hmem => hnul (hstart.subset hmem), hne,
      (Path.utf8ByteSize_le_of_isPrefix hstart).trans hlength⟩
  refine ⟨?_, h.directory⟩
  rw [locate_of_check hcheck, origin, Path.isAbsolute_of_isPrefix hne hstart]
  exact h.walk_upToBlanks hsame

theorem checkTemporary_above (h : s.Leads dir d) (hname : Path.IsName name) :
    let above := Path.directory (Path.join dir name)
    s.checkTemporary above =
      if maxPathLength < s.temporaryLength above then .error .nameTooLong else .ok () := by
  intro above
  have hfind : s.find above = .ok .directory := (h.above hname).find
  simp only [checkTemporary, hfind, bind, Except.bind]

/-- The place of an entry depends on the names alone. -/
theorem locate_join (h : s.Leads dir d) (hname : Path.IsName name) :
    s.locate (Path.join dir name) = (checkEntry dir name).map fun _ => d ++ [name] := by
  obtain ⟨above, hjoin, -, hsegments⟩ := Path.segments_join h.dir_ne hname
  -- A slash at the end of the directory is one more blank segment.
  have hsame : Path.SameUpToBlanks above (Path.segments dir) := by
    rcases hsegments with hsegments | hsegments
    · exact ⟨above, [], [], by simp, by simp [hsegments], nofun, nofun⟩
    · exact ⟨above, [], [[]], by simp, hsegments, nofun, List.forall_mem_singleton.2 (.inl rfl)⟩
  have hwalk : s.walk (s.origin (Path.join dir name)) (Path.segments (Path.join dir name)) =
      if maxNameLength < name.utf8ByteSize then .error .nameTooLong else .ok (d ++ [name]) := by
    rw [hjoin, walk_append, origin, Path.isAbsolute_join h.dir_ne hname, ← origin,
      h.walk_upToBlanks hsame, ← walk_name h.directory hname]
    rfl
  rw [locate_eq, hwalk, checkEntry]
  cases Store.checkPath (Path.join dir name) with
  | error fault => rfl
  | ok _ => by_cases hlong : maxNameLength < name.utf8ByteSize <;> simp [hlong] <;> rfl

end Leads

/-- What stands at a path, if anything is found there. -/
def at? (s : Store) (path : String) : Option Node :=
  (s.find path).toOption

/-- Why no file can be put at a path, whatever stands there. -/
def obstacle? (s : Store) (path : String) : Option Error :=
  let dir := Path.directory path
  if maxPathLength < s.temporaryLength dir then
    some (.file "creating temporary file in" dir .nameTooLong)
  else match s.locate path with
    | .error fault => some (.file "replacing" path fault)
    | .ok _ => none

/-- A path that names an entry of a directory. -/
def IsEntry (dir path : String) : Prop :=
  ∃ name, Path.IsName name ∧ path = Path.join dir name

theorem at?_of_locate (h : s.locate path = .ok p) : s.at? path = s.node? p := by
  rw [at?, find_eq, h, Except.bind]
  cases s.node? p <;> rfl

theorem at?_of_fault {fault : FileFault} (h : s.locate path = .error fault) :
    s.at? path = none := by
  rw [at?, find_eq, h]
  rfl

section Entry

variable {other : String} (h : s.Leads dir d) (hpath : IsEntry dir path)

include h hpath

theorem entry_cases : (∃ name, Path.IsName name ∧ path = Path.join dir name ∧
    s.locate path = .ok (d ++ [name])) ∨ ∃ fault, s.locate path = .error fault := by
  obtain ⟨name, hname, rfl⟩ := hpath
  rw [h.locate_join hname]
  cases checkEntry dir name with
  | error fault => exact .inr ⟨fault, rfl⟩
  | ok _ => exact .inl ⟨name, hname, rfl, rfl⟩

/-- Entries are found at the same places as long as their directory is. -/
theorem locate_entry (hafter : after.Leads dir d) : after.locate path = s.locate path := by
  obtain ⟨name, hname, rfl⟩ := hpath
  rw [h.locate_join hname, hafter.locate_join hname]

theorem obstacle?_entry (hafter : after.Leads dir d)
    (hworking : after.workingDirectory = s.workingDirectory) :
    after.obstacle? path = s.obstacle? path := by
  rw [obstacle?, obstacle?, locate_entry h hpath hafter, temporaryLength, temporaryLength,
    hworking]

theorem at?_entry (hafter : after.Leads dir d)
    (hnode : ∀ p, s.locate path = .ok p → after.node? p = s.node? p) :
    after.at? path = s.at? path := by
  have hlocate := locate_entry h hpath hafter
  cases hs : s.locate path with
  | error fault => rw [at?_of_fault hs, at?_of_fault (hlocate.trans hs)]
  | ok p => rw [at?_of_locate hs, at?_of_locate (hlocate.trans hs), hnode p hs]

theorem replaceFile_entry (hnode : s.at? path ≠ some .directory) (text : Text) (mode : Nat) :
    (∃ e, s.obstacle? path = some e ∧ s.replaceFile path text mode = .error e) ∨
      (s.obstacle? path = none ∧ ∃ p, s.locate path = .ok p ∧
        s.replaceFile path text mode = .ok (s.put p (.file (.text text) mode))) := by
  have htemporary : s.checkTemporary (Path.directory path) =
      if maxPathLength < s.temporaryLength (Path.directory path) then .error .nameTooLong
      else .ok () := by
    obtain ⟨name, hname, rfl⟩ := hpath
    exact h.checkTemporary_above hname
  unfold obstacle? replaceFile
  simp only [htemporary]
  by_cases hlong : maxPathLength < s.temporaryLength (Path.directory path)
  · simp [hlong]
  · cases hlocate : s.locate path with
    | error fault => simp [hlong]
    | ok p =>
      rw [at?_of_locate hlocate] at hnode
      exact .inr ⟨by simp [hlong], p, rfl, by simp only [hlong, if_false]⟩

variable (hlocate : s.locate path = .ok p)

include hlocate

theorem place_ne_root : p ≠ [] := by
  rcases entry_cases h hpath with ⟨name, -, -, hname⟩ | ⟨fault, hfault⟩
  · rw [← Except.ok.inj (hname.symm.trans hlocate)]
    simp
  · exact nomatch hfault.symm.trans hlocate

/-- Two entries of a directory do not share a place. -/
theorem entries_apart (hother : IsEntry dir other) (hne : other ≠ path) :
    s.locate other ≠ .ok p := by
  intro hsame
  rcases entry_cases h hpath with ⟨name, -, rfl, hname⟩ | ⟨fault, hfault⟩
  · rcases entry_cases h hother with ⟨name', -, rfl, hname'⟩ | ⟨fault, hfault⟩
    · have hplace := Except.ok.inj (hname'.symm.trans (hsame.trans (hlocate.symm.trans hname)))
      simp only [List.append_cancel_left_eq, List.cons.injEq, and_true] at hplace
      exact hne (by rw [hplace])
    · exact nomatch hfault.symm.trans hsame
  · exact nomatch hfault.symm.trans hlocate

theorem put_entry (hnode : s.at? path ≠ some .directory) (n : Node) :
    s.KeepsDirectories (s.put p n) ∧ (s.put p n).at? path = some n ∧
      ∀ q, q ≠ p → (s.put p n).node? q = s.node? q := by
  have hroot := place_ne_root h hpath hlocate
  have hkeep : s.KeepsDirectories (s.put p n) :=
    keepsDirectories_put (by rwa [← at?_of_locate hlocate]) n
  refine ⟨hkeep, ?_, fun q hq => by rw [node?_put s p q n hroot, if_neg hq]⟩
  have hlocated : (s.put p n).locate path = .ok p := by
    rw [locate_entry h hpath (h.keep hkeep), hlocate]
  rw [at?_of_locate hlocated, node?_put s p p n hroot, if_pos rfl]

end Entry

end SqlModels.Store
