import SqlModels.Proofs.Files.Store

/-!
Relative paths of several segments. Below a directory they lead where their names lead, unless they
climb to a parent on their way.
-/

namespace SqlModels

namespace Path

variable {dir name path : String}

instance (part : Text) : Decidable (IsBlank part) :=
  inferInstanceAs (Decidable (_ ∨ _))

/-- The directory of a path that may be empty, which stands for the working directory. -/
def orCurrent (dir : String) : String :=
  if dir = "" then "." else dir

/-- The names on the way of a path, without the segments that lead nowhere. -/
def names (parts : List Text) : List String :=
  (parts.filter fun part => ¬ IsBlank part).map String.ofList

/-- A path as it is read: repeated slashes count as one, and single dots do not count. -/
def components (path : String) : Bool × List String :=
  (isAbsolute path, names (segments path))

/-- A path that need not stay below the directory it is joined to. -/
def Escapes (path : String) : Prop :=
  isAbsolute path = true ∨ ['.', '.'] ∈ segments path

/-- A relative path whose segments are all names. -/
def IsPlain (path : String) : Prop :=
  ∀ part ∈ segments path, ¬ IsBlank part ∧ part ≠ ['.', '.']

instance (path : String) : Decidable (Escapes path) :=
  inferInstanceAs (Decidable (_ ∨ _))

instance (path : String) : Decidable (IsPlain path) :=
  inferInstanceAs (Decidable (∀ part ∈ _, _))

@[simp] theorem names_append (parts rest : List Text) :
    names (parts ++ rest) = names parts ++ names rest := by
  simp [names]

theorem names_cons (part : Text) (rest : List Text) : names (part :: rest) =
    if IsBlank part then names rest else String.ofList part :: names rest := by
  by_cases h : IsBlank part <;> simp [names, h]

theorem segments_of_isAbsolute (h : isAbsolute path = true) : [] ∈ segments path := by
  obtain ⟨rest, hrest⟩ := List.head?_eq_some_iff.1 (isAbsolute_iff.1 h)
  simp [segments, hrest, Text.splitAt]

theorem IsPlain.not_escapes (h : IsPlain path) : ¬ Escapes path := by
  rintro (habsolute | hparent)
  · exact (h _ (segments_of_isAbsolute habsolute)).1 (.inl rfl)
  · exact (h _ hparent).2 rfl

theorem not_escapes_iff :
    ¬ Escapes path ↔ isAbsolute path = false ∧ ['.', '.'] ∉ segments path := by
  simp [Escapes]

theorem IsPlain.names_eq (h : IsPlain path) :
    names (segments path) = (segments path).map String.ofList := by
  rw [names, List.filter_eq_self.2]
  exact fun part hpart => decide_eq_true (h part hpart).1

/-- The last segment of a path that ends in letters is a name. -/
theorem names_ne_nil (name : String) : names (segments (name ++ ".ts")) ≠ [] := by
  have hletter : 't' ∈ Text.joinWith ['/'] (segments (name ++ ".ts")) := by
    rw [joinWith_segments]
    simp
  obtain ⟨part, hpart, ht⟩ := (Text.mem_joinWith hletter).resolve_left (by decide)
  have hblank : ¬ IsBlank part := by
    rintro (rfl | rfl) <;> simp at ht
  intro hnil
  rw [names, List.map_eq_nil_iff, List.filter_eq_nil_iff] at hnil
  exact hnil part hpart (decide_eq_true hblank)

theorem IsName.isPlain (h : IsName name) : IsPlain name := by
  intro part hpart
  rw [h.segments, List.mem_singleton] at hpart
  exact hpart ▸ ⟨h.notBlank, h.notParent⟩

theorem segments_injective : Function.Injective segments := by
  intro path other h
  rw [← String.toList_inj, ← joinWith_segments, h, joinWith_segments]

/-- Plain paths are read as they are written. -/
theorem IsPlain.eq_of_names {other : String} (h : IsPlain path) (h' : IsPlain other)
    (hnames : names (segments path) = names (segments other)) : path = other := by
  rw [h.names_eq, h'.names_eq] at hnames
  apply segments_injective
  exact List.map_injective_iff.2 (fun _ _ => String.ofList_inj.1) hnames

theorem isPrefix_join (h : isAbsolute name = false) : dir.toList <+: (join dir name).toList := by
  by_cases hdir : dir = ""
  · simp [hdir]
  · rw [join_relative hdir h]
    split <;> simp only [String.toList_append, List.append_assoc] <;> exact List.prefix_append _ _

theorem join_empty (name : String) : join "" name = name := by
  simp [join]

theorem components_join (h : isAbsolute name = false) :
    components (join dir name) =
      (isAbsolute dir, names (segments dir) ++ names (segments name)) := by
  by_cases hdir : dir = ""
  · subst hdir
    rw [join_empty, components, h]
    rfl
  · obtain ⟨above, hjoin, -, hsegments⟩ := segments_join_relative hdir h
    rw [components, hjoin, names_append, ← isAbsolute_of_isPrefix hdir (isPrefix_join h)]
    rcases hsegments with hsegments | hsegments
    · rw [hsegments]
    · rw [hsegments, names_append]
      simp [names, IsBlank]

end Path

namespace Store

variable {s : Store} {dir name : String} {here d p : Place} {parts rest : List Text} {part : Text}

theorem walk_append_eq_ok : s.walk here (parts ++ rest) = .ok p ↔
    ∃ q, s.walk here parts = .ok q ∧ s.walk q rest = .ok p := by
  rw [walk_append]
  cases s.walk here parts <;> simp [Except.bind]

/-- A way goes on only where there is a directory. -/
theorem walk_cons_eq_ok : s.walk here (part :: rest) = .ok p ↔
    s.node? here = some .directory ∧ ∃ q, follow here part = .ok q ∧ s.walk q rest = .ok p := by
  rw [walk_cons, ← checkDirectory_eq_ok_iff]
  cases s.checkDirectory here <;> cases follow here part <;> simp [Except.bind]

theorem follow_eq_ok {q : Place} (hpart : part ≠ ['.', '.']) (h : follow here part = .ok q) :
    q = here ++ Path.names [part] := by
  rw [Path.names_cons]
  by_cases hblank : Path.IsBlank part
  · rw [follow_blank hblank] at h
    simpa [hblank, Path.names] using h.symm
  · rw [follow, if_neg (by simpa [Path.IsBlank] using hblank), if_neg hpart] at h
    split at h
    · cases h
    · simpa [hblank, Path.names] using h.symm

/-- A way that does not climb to a parent leads down by its names. -/
theorem walk_down (hparts : ['.', '.'] ∉ parts) (h : s.walk here parts = .ok p) :
    p = here ++ Path.names parts := by
  induction parts generalizing here with
  | nil => simpa [Path.names] using (Except.ok.inj h).symm
  | cons part rest ih =>
    obtain ⟨-, q, hq, hrest⟩ := walk_cons_eq_ok.1 h
    rw [List.mem_cons, not_or] at hparts
    rw [ih hparts.2 hrest, follow_eq_ok (Ne.symm hparts.1) hq, List.append_assoc,
      ← Path.names_append]
    rfl

/-- A relative path leads on from the directory it is joined to. -/
theorem locate_join_relative (h : Path.isAbsolute name = false)
    (hlocate : s.locate (Path.join dir name) = .ok p) :
    ∃ d, s.Leads (Path.orCurrent dir) d ∧ s.walk d (Path.segments name) = .ok p := by
  have hcheck : checkPath (Path.join dir name) = .ok () := by
    rw [locate_eq] at hlocate
    cases hpath : checkPath (Path.join dir name) with
    | error fault => simp [hpath, Except.bind] at hlocate
    | ok _ => rfl
  rw [locate_of_check hcheck] at hlocate
  obtain ⟨first, more, hname⟩ := List.exists_cons_of_ne_nil (Path.segments_ne_nil name)
  by_cases hdir : dir = ""
  · subst hdir
    rw [Path.join_empty, origin, h] at hlocate
    have hworking := (walk_cons_eq_ok.1 (hname ▸ hlocate)).1
    exact ⟨s.workingDirectory, ⟨walk_blanks (by decide) hworking, hworking⟩, hlocate⟩
  · obtain ⟨above, hjoin, -, hsegments⟩ := Path.segments_join_relative hdir h
    have hbegins : dir.toList <+: (Path.join dir name).toList := Path.isPrefix_join h
    rw [origin, ← Path.isAbsolute_of_isPrefix hdir hbegins, ← origin, hjoin,
      walk_append_eq_ok] at hlocate
    obtain ⟨d, habove, hbehind⟩ := hlocate
    have hd := (walk_cons_eq_ok.1 (hname ▸ hbehind)).1
    obtain ⟨hnul, -, hlength⟩ := checkPath_eq_ok_iff.1 hcheck
    have hdirCheck : checkPath dir = .ok () := checkPath_eq_ok_iff.2
      ⟨fun hmem => hnul (hbegins.subset hmem), hdir,
        (Path.utf8ByteSize_le_of_isPrefix hbegins).trans hlength⟩
    refine ⟨d, ?_, hbehind⟩
    rw [Path.orCurrent, if_neg hdir]
    refine ⟨?_, hd⟩
    rw [locate_of_check hdirCheck]
    rcases hsegments with hsegments | hsegments
    · rw [hsegments, habove]
    · -- the slash at the end of the directory leads nowhere
      rw [hsegments, walk_append_eq_ok]
      exact ⟨d, habove, walk_blanks (by decide) hd⟩

theorem Leads.unique (h : s.Leads dir d) (h' : s.Leads dir p) : d = p :=
  Except.ok.inj (h.located.symm.trans h'.located)

/-- Where a path leads that does not escape from its directory. -/
theorem locate_below (h : ¬ Path.Escapes name)
    (hlocate : s.locate (Path.join dir name) = .ok p) :
    ∃ d, s.Leads (Path.orCurrent dir) d ∧ p = d ++ Path.names (Path.segments name) := by
  obtain ⟨hrelative, hparent⟩ := Path.not_escapes_iff.1 h
  obtain ⟨d, hd, hwalk⟩ := locate_join_relative hrelative hlocate
  exact ⟨d, hd, walk_down hparent hwalk⟩

end Store

end SqlModels
