import SqlModels.Files.Generation
import SqlModels.Proofs.Files.Relative

/-!
What making directories changes. Nothing that stood in the store is touched: a place that changes
was free, and it is now the directory that the path, or one above it, leads to.
-/

namespace SqlModels

/-- The paths at which directories are made on the way to a path: the path and those above it. -/
inductive Path.Above (path : String) : String → Prop
  | self : Above path path
  | parent {other above : String} (h : Above path other) (hparent : parent? other = some above) :
    Above path above

theorem Path.Above.trans {path other above : String} (h : Above path other)
    (h' : Above other above) : Above path above := by
  induction h' with
  | self => exact h
  | parent _ hparent ih => exact ih.parent hparent

namespace Store

variable {s after : Store} {path : String} {p : Place} {parts : List Text}

/-- The same store but for directories that stand on the way to a path. -/
structure Grows (s : Store) (path : String) (after : Store) : Prop where
  workingDirectory : after.workingDirectory = s.workingDirectory
  node : ∀ p, after.node? p = s.node? p ∨
    s.node? p = none ∧ ∃ above, Path.Above path above ∧ after.Leads above p

namespace Grows

theorem refl (s : Store) (path : String) : s.Grows path s :=
  ⟨rfl, fun _ => .inl rfl⟩

theorem keeps (h : s.Grows path after) : s.KeepsDirectories after := by
  refine ⟨h.workingDirectory, fun p hp => ?_⟩
  rcases h.node p with hsame | ⟨hfree, -⟩
  · rw [hsame, hp]
  · exact nomatch hp.symm.trans hfree

theorem trans {next : Store} (h : s.Grows path after) (h' : after.Grows path next) :
    s.Grows path next := by
  refine ⟨h'.workingDirectory.trans h.workingDirectory, fun p => ?_⟩
  rcases h'.node p with hnext | ⟨hfree, hmade⟩
  · rcases h.node p with hsame | ⟨hfree, above, habove, hleads⟩
    · exact .inl (hnext.trans hsame)
    · exact .inr ⟨hfree, above, habove, hleads.keep h'.keeps⟩
  · rcases h.node p with hsame | ⟨hfree', -⟩
    · exact .inr ⟨hsame ▸ hfree, hmade⟩
    · exact .inr ⟨hfree', hmade⟩

/-- What stands on the way to a path above another one stands on the way to that one. -/
theorem of_above {above : String} (h : s.Grows above after) (habove : Path.Above path above) :
    s.Grows path after := by
  refine ⟨h.workingDirectory, fun p => (h.node p).imp_right ?_⟩
  rintro ⟨hfree, other, hother, hleads⟩
  exact ⟨hfree, other, habove.trans hother, hleads⟩

/-- Files are neither made nor changed nor removed. -/
theorem file_iff (h : s.Grows path after) {content : Content} {mode : Nat} :
    after.node? p = some (.file content mode) ↔ s.node? p = some (.file content mode) := by
  rcases h.node p with hsame | ⟨hfree, above, -, hleads⟩
  · rw [hsame]
  · rw [hfree, hleads.directory]
    exact iff_of_false nofun nofun

end Grows

theorem bind_eq_ok {α β : Type} {x : Except FileFault α} {f : α → Except FileFault β} {b : β} :
    (x >>= f) = .ok b ↔ ∃ a, x = .ok a ∧ f a = .ok b := by
  cases x <;> simp [bind, Except.bind]

theorem withoutFinalSlashes_blanks (parts : List Text) : ∃ blanks,
    parts = withoutFinalSlashes parts ++ blanks ∧ ∀ part ∈ blanks, Path.IsBlank part := by
  refine ⟨(parts.reverse.takeWhile (· = [])).reverse, ?_, fun part hpart => ?_⟩
  · rw [withoutFinalSlashes, ← List.reverse_append, List.takeWhile_append_dropWhile,
      List.reverse_reverse]
  · exact .inl (by simpa using List.mem_takeWhile_imp (List.mem_reverse.1 hpart))

theorem withoutFinalSlashes_last {last : Text} {before : List Text}
    (h : (withoutFinalSlashes parts).reverse = last :: before) : last ≠ [] := by
  rw [withoutFinalSlashes, List.reverse_reverse] at h
  have hlast := List.head?_dropWhile_not (· = []) parts.reverse
  rw [h] at hlast
  simpa using hlast

/-- A directory is made at a free place, in a directory that the segments before its name lead
to. -/
theorem makeDirectory_parts (h : s.makeDirectory path = .ok after) :
    ∃ (last : Text) (before blanks : List Text) (here : Place),
      Path.segments path = before ++ last :: blanks ∧ (∀ part ∈ blanks, Path.IsBlank part) ∧
      checkPath path = .ok () ∧ s.walk (s.origin path) before = .ok here ∧
      s.node? here = some .directory ∧ follow here last = .ok (here ++ [String.ofList last]) ∧
      s.node? (here ++ [String.ofList last]) = none ∧
      after = s.put (here ++ [String.ofList last]) .directory := by
  simp only [makeDirectory, bind_eq_ok] at h
  obtain ⟨_, hcheck, h⟩ := h
  split at h
  · cases h
  rename_i last before hparts
  simp only [bind_eq_ok] at h
  obtain ⟨here, hwalk, _, hhere, h⟩ := h
  obtain ⟨blanks, hsegments, hblanks⟩ := withoutFinalSlashes_blanks (Path.segments path)
  rw [List.reverse_eq_cons_iff.1 hparts, List.append_assoc] at hsegments
  have hlast := withoutFinalSlashes_last hparts
  split at h
  · cases h
  rename_i hdots
  simp only [Bool.or_eq_true, decide_eq_true_eq, not_or] at hdots
  split at h
  · cases h
  rename_i hshort
  split at h
  · cases h
  rename_i hfree
  refine ⟨last, before.reverse, blanks, here, hsegments, hblanks, hcheck, hwalk,
    checkDirectory_eq_ok_iff.1 hhere, ?_, hfree, (Except.ok.inj h).symm⟩
  rw [follow, if_neg (by simp [hlast, hdots.1]), if_neg hdots.2, if_neg hshort]

theorem makeDirectory_grows (h : s.makeDirectory path = .ok after) : s.Grows path after := by
  obtain ⟨last, before, blanks, here, hsegments, hblanks, hcheck, hwalk, hhere, hlast, hfree,
    rfl⟩ := makeDirectory_parts h
  generalize hp : here ++ [String.ofList last] = p at *
  have hroot : p ≠ [] := by simp [← hp]
  have hkeep : s.KeepsDirectories (s.put p .directory) := keepsDirectories_put (by simp [hfree]) _
  have hmade : (s.put p .directory).node? p = some .directory := by
    rw [node?_put s p p _ hroot, if_pos rfl]
  have hleads : (s.put p .directory).Leads path p := by
    refine ⟨?_, hmade⟩
    rw [locate_of_check hcheck, hsegments, walk_append_eq_ok]
    exact ⟨here, hkeep.walk hwalk, walk_cons_eq_ok.2
      ⟨hkeep.directory here hhere, p, hlast, walk_blanks hblanks hmade⟩⟩
  refine ⟨rfl, fun q => ?_⟩
  by_cases hq : q = p
  · subst hq
    exact .inr ⟨hfree, path, .self, hleads⟩
  · rw [node?_put s p q _ hroot, if_neg hq]
    exact .inl rfl

theorem orExisting_grows (s : Store) (path : String) (fault : FileFault) :
    s.Grows path (s.orExisting path fault).1 := by
  unfold orExisting
  split <;> exact .refl s path

theorem makeDirectoriesUpTo_grows (s : Store) (path : String) (count : Nat) :
    s.Grows path (s.makeDirectoriesUpTo path count).1 := by
  induction count generalizing s path with
  | zero => exact .refl s path
  | succ count ih =>
    unfold makeDirectoriesUpTo
    split
    · exact .refl s path
    split
    · rename_i made hmade
      exact makeDirectory_grows hmade
    · split
      · exact .refl s path
      · rename_i above habove
        have hparents := (ih s above).of_above (.parent .self habove)
        split
        · rename_i made fault hmade
          simpa [hmade] using hparents
        · rename_i made hmade
          rw [hmade] at hparents
          split
          · rename_i final hfinal
            exact hparents.trans (makeDirectory_grows hfinal)
          · exact hparents.trans (orExisting_grows made path _)
    · exact orExisting_grows s path _

/-- Making the output directory leaves all else alone, whether it succeeds or not. -/
theorem makeOutput_grows (s : Store) (dir : String) : s.Grows dir (s.makeOutput dir).1 := by
  have h := makeDirectoriesUpTo_grows s dir (dir.length + 1)
  unfold makeOutput makeDirectories
  split <;> simp_all

end Store

end SqlModels
