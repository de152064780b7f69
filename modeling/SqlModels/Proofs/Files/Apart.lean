import SqlModels.Proofs.Files.Frame

/-!
The files of a generation among each other. Models with different names get different files if their
names are read as they are written, and then none of them is merged into the file of another.
-/

namespace SqlModels

/-- Paths that are read differently, and that never lead to the same place. -/
structure Path.Apart (path other : String) : Prop where
  components : components path ≠ components other
  places : ∀ (s : Store) (p : Place), s.locate path = .ok p → s.locate other ≠ .ok p

namespace Target

variable {s : Store}

theorem writeAll_append (s : Store) (targets later : List Target) :
    (writeAll s (targets ++ later)).store = (writeAll (writeAll s targets).store later).store := by
  induction targets generalizing s with
  | nil => rfl
  | cons t rest ih => exact ih (t.write s).store

/-- Files whose paths are apart are written independently of each other. -/
theorem writeAll_apart {before later : List Target} {t : Target}
    (h : (before ++ t :: later).Pairwise fun t u => Path.Apart t.path u.path) :
    (writeAll s before).store.at? t.path = s.at? t.path ∧
      (writeAll s (before ++ t :: later)).store.at? t.path =
        (t.write (writeAll s before).store).store.at? t.path := by
  obtain ⟨-, htail, hbefore⟩ := List.pairwise_append.1 h
  have hown := t.write_rewrites (writeAll s before).store
  constructor
  · apply (writeAll_rewrites before s).at?_eq
    rintro p hp ⟨u, hu, hsame⟩
    exact (hbefore u hu t List.mem_cons_self).places s p hsame hp
  · rw [writeAll_append]
    apply (writeAll_rewrites later _).at?_eq
    -- the later paths are looked up behind this one's attempt, and are apart from it there as well
    rintro p hp ⟨u, hu, hsame⟩
    exact ((List.pairwise_cons.1 htail).1 u hu).places _ p hp hsame

end Target

/-- Different names below one directory are apart if they are read as they are written. -/
theorem Path.IsPlain.apart {dir name other : String} (h : IsPlain name) (h' : IsPlain other)
    (hne : name ≠ other) : Apart (join dir name) (join dir other) := by
  have hescapes := h.not_escapes
  have hescapes' := h'.not_escapes
  constructor
  · intro hsame
    rw [components_join (not_escapes_iff.1 hescapes).1,
      components_join (not_escapes_iff.1 hescapes').1] at hsame
    exact hne (h.eq_of_names h' (List.append_cancel_left (Prod.mk.inj hsame).2))
  · intro s p hname hother
    obtain ⟨d, hd, rfl⟩ := Store.locate_below hescapes hname
    obtain ⟨e, he, hp⟩ := Store.locate_below hescapes' hother
    obtain rfl := hd.unique he
    exact hne (h.eq_of_names h' (List.append_cancel_left hp))

/-- A name without a slash is read as it is written. -/
theorem Path.isPlain_ts {name : String} (h : '/' ∉ name.toList) : IsPlain (name ++ ".ts") :=
  (isName_ts h).isPlain

/-- Models with different names that are read as they are written never share a file with each other
or with the index. Each file is merged with what stood there before the generation. -/
theorem outputs_apart {dir : String} {models : List Model} (hnames : (models.map (·.name)).Nodup)
    (hplain : ∀ m ∈ models, Path.IsPlain (m.name ++ ".ts"))
    (hcheck : checkPaths dir models = .ok ()) :
    ((Target.all dir models).Pairwise fun t u => Path.Apart t.path u.path) ∧
      ∀ (s : Store) (before : List Target) (t : Target) (later : List Target),
        Target.all dir models = before ++ t :: later →
        let found := (Target.writeAll s before).store
        found.at? t.path = s.at? t.path ∧
          (generate s dir models).store.at? t.path = (t.write found).store.at? t.path := by
  have hplain : ∀ name ∈ "index" :: models.map (·.name), Path.IsPlain (name ++ ".ts") :=
    List.forall_mem_cons.2 ⟨Path.isPlain_ts (by decide), List.forall_mem_map.2 hplain⟩
  have hapart : (Target.all dir models).Pairwise fun t u => Path.Apart t.path u.path := by
    apply Target.pairwise_all.2
    refine (Target.names_nodup hnames hcheck).imp_of_mem fun hname hother hne => ?_
    exact (hplain _ hname).apart (hplain _ hother) (mt (String.append_left_inj ".ts").1 hne)
  refine ⟨hapart, ?_⟩
  intro s before t later hall
  rw [hall] at hapart
  simp only [generate, hcheck, hall]
  exact Target.writeAll_apart hapart

/-- A model is called as the index below another directory, and one lies in a directory whose name
is that of a file for the other. -/
theorem outputs_apart_nested :
    let models : List Model := [⟨"a/index", []⟩, ⟨"a", []⟩, ⟨"a.ts/..b", []⟩]
    let after := (generate mixedStore "out//" models).store
    (models.map (·.name)).Nodup ∧ (∀ m ∈ models, Path.IsPlain (m.name ++ ".ts")) ∧
      checkPaths "out//" models = .ok () ∧
      (Target.all "out//" models).Pairwise (fun t u => Path.Apart t.path u.path) ∧
      after.at? "out//a.ts" = some .directory ∧
      after.at? "out//a.ts/..b.ts" =
        some (.file (.text (Model.mk "a.ts/..b" []).file) 0o644) := by
  intro models after
  have hnames : (models.map (·.name)).Nodup := by decide
  have hplain : ∀ m ∈ models, Path.IsPlain (m.name ++ ".ts") := by decide
  have hcheck : checkPaths "out//" models = .ok () := checkPaths_eq_ok_iff.2 (by decide)
  obtain ⟨hapart, hfiles⟩ := outputs_apart hnames hplain hcheck
  have hall : Target.all "out//" models = [Target.index "out//" models,
      Target.model "out//" ⟨"a/index", []⟩, Target.model "out//" ⟨"a", []⟩] ++
      [Target.model "out//" ⟨"a.ts/..b", []⟩] := rfl
  dsimp only [models] at hfiles hall
  refine ⟨hnames, hplain, hcheck, hapart, ?_, ?_⟩
  · exact (hfiles mixedStore [_, _] _ [_] hall).2.trans rfl
  · exact (hfiles mixedStore [_, _, _] _ [] hall).2.trans rfl

/-- A name that begins with a dot of its own is written to the file of the index. -/
theorem outputs_apart_dotted :
    let models : List Model := [⟨"./index", []⟩]
    (models.map (·.name)).Nodup ∧ checkPaths "out" models = .ok () ∧
      ∃ m ∈ models, Path.components (Target.model "out" m).path =
          Path.components (Target.index "out" models).path ∧
        mixedStore.locate (Target.model "out" m).path = .ok ["work", "out", "index.ts"] ∧
        mixedStore.locate (Target.index "out" models).path = .ok ["work", "out", "index.ts"] :=
  ⟨by decide, checkPaths_eq_ok_iff.2 (by decide), _, List.mem_cons_self, by decide, rfl, rfl⟩

end SqlModels
