import SqlModels.Proofs.Files.Generation
import SqlModels.Proofs.Files.Relative

/-!
What a generation leaves alone, whatever its models are called. It changes files only where its own
paths lead, and these lead below the output directory unless the name of a model escapes from it.
-/

namespace SqlModels

namespace Store

variable {s after : Store} {path : String} {p : Place} {places : Place → Prop}

theorem KeepsDirectories.locate (h : s.KeepsDirectories after) (hlocate : s.locate path = .ok p) :
    after.locate path = .ok p := by
  rw [locate_eq] at hlocate ⊢
  cases hcheck : checkPath path with
  | error fault => simp [hcheck, Except.bind] at hlocate
  | ok _ =>
    have horigin : after.origin path = s.origin path := by rw [origin, origin, h.workingDirectory]
    rw [hcheck] at hlocate
    rw [horigin]
    exact h.walk hlocate

/-- The same directories in both stores, and other files at some places only. -/
structure Rewrites (s : Store) (places : Place → Prop) (after : Store) : Prop where
  keeps : s.KeepsDirectories after
  kept : after.KeepsDirectories s
  others : ∀ p, ¬ places p → after.node? p = s.node? p

namespace Rewrites

theorem refl (s : Store) (places : Place → Prop) : s.Rewrites places s :=
  ⟨.refl s, .refl s, fun _ _ => rfl⟩

theorem trans {next : Store} (h : s.Rewrites places after) (h' : after.Rewrites places next) :
    s.Rewrites places next :=
  ⟨h.keeps.trans h'.keeps, h'.kept.trans h.kept, fun p hp =>
    (h'.others p hp).trans (h.others p hp)⟩

theorem mono {more : Place → Prop} (h : s.Rewrites places after)
    (hplaces : ∀ p, places p → more p) : s.Rewrites more after :=
  ⟨h.keeps, h.kept, fun p hp => h.others p fun hmem => hp (hplaces p hmem)⟩

theorem locate_iff (h : s.Rewrites places after) :
    after.locate path = .ok p ↔ s.locate path = .ok p :=
  ⟨h.kept.locate, h.keeps.locate⟩

/-- What is found by a path is still found if the path leads to another place. -/
theorem at?_eq (h : s.Rewrites places after) (hpath : ∀ p, s.locate path = .ok p → ¬ places p) :
    after.at? path = s.at? path := by
  cases hs : s.locate path with
  | ok p => rw [at?_of_locate hs, at?_of_locate (h.locate_iff.2 hs), h.others p (hpath p hs)]
  | error fault =>
    rw [at?_of_fault hs]
    cases hafter : after.locate path with
    | error fault => exact at?_of_fault hafter
    | ok p => exact nomatch hs.symm.trans (h.locate_iff.1 hafter)

end Rewrites

theorem rewrites_put {content : Content} {mode : Nat} (hp : s.node? p ≠ some .directory) :
    s.Rewrites (· = p) (s.put p (.file content mode)) := by
  have hroot : p ≠ [] := by
    rintro rfl
    exact hp rfl
  refine ⟨keepsDirectories_put hp _, ⟨rfl, fun q hq => ?_⟩, fun q hq => ?_⟩
  · rw [node?_put s p q _ hroot] at hq
    split at hq
    · cases hq
    · exact hq
  · rw [node?_put s p q _ hroot, if_neg hq]

theorem replaceFile_rewrites {text : Text} {mode : Nat}
    (h : s.replaceFile path text mode = .ok after) :
    s.Rewrites (fun p => s.locate path = .ok p) after := by
  unfold replaceFile at h
  cases htemporary : s.checkTemporary (Path.directory path) with
  | error fault => simp [htemporary] at h
  | ok _ =>
    cases hlocate : s.locate path with
    | error fault => simp [htemporary, hlocate] at h
    | ok p =>
      have hplace : s.Rewrites (· = p) after := by
        simp only [htemporary, hlocate] at h
        split at h
        · cases h
        · rename_i hnode
          exact Except.ok.inj h ▸ rewrites_put hnode
      apply hplace.mono
      rintro q rfl
      rfl

end Store

namespace Target

variable {s : Store}

theorem replace_rewrites (t : Target) (s : Store) (text : Text) (mode : Nat)
    (notes : List RegionNote) (event : Event) (outcome : Outcome) :
    s.Rewrites (fun p => s.locate t.path = .ok p)
      (t.replace s text mode notes event outcome).store := by
  unfold replace
  split
  · exact Store.replaceFile_rewrites ‹_›
  · exact .refl s _

/-- Writing a target changes nothing but the file its path leads to. -/
theorem write_rewrites (t : Target) (s : Store) :
    s.Rewrites (fun p => s.locate t.path = .ok p) (t.write s).store := by
  unfold write
  split
  · split
    · exact .refl s _
    · dsimp only
      split
      · exact .refl s _
      · exact .refl s _
      · exact t.replace_rewrites s _ _ _ _ _
  · exact t.replace_rewrites s _ _ _ _ _

theorem writeAll_rewrites (targets : List Target) (s : Store) :
    s.Rewrites (fun p => ∃ t ∈ targets, s.locate t.path = .ok p) (writeAll s targets).store := by
  induction targets generalizing s with
  | nil => exact .refl s _
  | cons t rest ih =>
    have hfirst := t.write_rewrites s
    refine (hfirst.mono fun p hp => ⟨t, List.mem_cons_self, hp⟩).trans ?_
    -- behind the first attempt the paths of the others lead where they led before it
    refine (ih (t.write s).store).mono fun p ⟨u, hu, hp⟩ => ?_
    exact ⟨u, List.mem_cons_of_mem t hu, hfirst.locate_iff.1 hp⟩

end Target

section Generate

variable {s : Store} {dir : String} {models : List Model} {p : Place}

theorem generate_rewrites (s : Store) (dir : String) (models : List Model) :
    s.Rewrites (fun p => ∃ t ∈ Target.all dir models, s.locate t.path = .ok p)
      (generate s dir models).store := by
  unfold generate
  split
  · exact .refl s _
  · exact Target.writeAll_rewrites _ s

/-- A place below the directory that a path leads to. -/
def Store.LiesBelow (s : Store) (dir : String) (p : Place) : Prop :=
  ∃ d, s.Leads (Path.orCurrent dir) d ∧ d <+: p ∧ d ≠ p

theorem Store.locate_liesBelow {name : String} (hname : ¬ Path.Escapes (name ++ ".ts"))
    (h : s.locate (Path.join dir (name ++ ".ts")) = .ok p) : s.LiesBelow dir p := by
  obtain ⟨d, hd, rfl⟩ := Store.locate_below hname h
  refine ⟨d, hd, List.prefix_append _ _, ?_⟩
  intro hsame
  exact Path.names_ne_nil name (List.self_eq_append_right.1 hsame)

/-- Every file that a generation creates or changes lies below the output directory, or is that of a
model whose name leads out of it. -/
theorem generate_stays_below (h : (generate s dir models).store.node? p ≠ s.node? p) :
    s.LiesBelow dir p ∨ ∃ m ∈ models, Path.Escapes (m.name ++ ".ts") ∧
      s.locate (Target.model dir m).path = .ok p := by
  obtain ⟨t, ht, hlocate⟩ : ∃ t ∈ Target.all dir models, s.locate t.path = .ok p := by
    by_contra hnone
    exact h ((generate_rewrites s dir models).others p hnone)
  rcases List.mem_cons.1 ht with rfl | ht
  · have hindex : ¬ Path.Escapes ("index" ++ ".ts") := by decide
    exact .inl (Store.locate_liesBelow hindex hlocate)
  · obtain ⟨m, hm, rfl⟩ := List.mem_map.1 ht
    by_cases hescapes : Path.Escapes (m.name ++ ".ts")
    · exact .inr ⟨m, hm, hescapes, hlocate⟩
    · exact .inl (Store.locate_liesBelow hescapes hlocate)

/-- One model lies two directories down, and the other one beside the output directory. -/
theorem generate_stays_below_nested :
    let models : List Model := [⟨"a.ts/x", []⟩, ⟨"../up", []⟩]
    let after := (generate mixedStore "out/" models).store
    ∀ p ∈ [["work", "out", "a.ts", "x.ts"], ["work", "up.ts"]],
      after.node? p ≠ mixedStore.node? p ∧ (mixedStore.LiesBelow "out/" p ∨
        ∃ m ∈ models, Path.Escapes (m.name ++ ".ts") ∧
          mixedStore.locate (Target.model "out/" m).path = .ok p) := by
  intro models after p hp
  have hnew : after.node? p ≠ mixedStore.node? p := by
    simp only [after, models]
    simp only [List.mem_cons, List.not_mem_nil, or_false] at hp
    rcases hp with rfl | rfl <;> exact nofun
  exact ⟨hnew, generate_stays_below hnew⟩

/-- A generation that has not failed has written a file beside its output directory. -/
theorem generate_climbs_to_parent :
    let after := generate mixedStore "out" [⟨"../up", []⟩]
    mixedStore.Leads "out" ["work", "out"] ∧
      after.result = .ok { created := 2 } ∧
      mixedStore.node? ["work", "up.ts"] = none ∧
      after.store.node? ["work", "up.ts"] =
        some (.file (.text (Model.mk "../up" []).file) 0o644) ∧
      ¬ ["work", "out"] <+: ["work", "up.ts"] :=
  ⟨⟨rfl, rfl⟩, rfl, rfl, rfl, by decide⟩

end Generate

end SqlModels
