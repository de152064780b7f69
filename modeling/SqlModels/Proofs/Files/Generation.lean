import Mathlib.Data.List.Nodup
import SqlModels.Proofs.Files.Target

namespace SqlModels

open Store (IsEntry)

namespace Target

/-- What a target leaves at its path when nothing is in the way of new files. -/
def desired (t : Target) : Option Node → Option Node
  | none => some (.file (.text t.full) newMode)
  | some (.file (.text existing) mode) =>
    match (merge t.regions t.fragments existing).result with
    | .ok text => some (.file (.text text) mode)
    | .error _ => some (.file (.text existing) mode)
  | some node => some node

/-- Why a target fails on what stands at its path. -/
def failure? (t : Target) : Option Node → Option Error
  | some .directory => some (.file "reading" t.path .isADirectory)
  | some (.file (.binary _) _) => some (.file "reading" t.path .invalidText)
  | some (.file (.text existing) _) =>
    match (merge t.regions t.fragments existing).result with
    | .ok _ => none
    | .error e => some (.inRegion t.path e)
  | none => none

/-- Whether a target has other bytes for a file that exists. -/
def isUpdated (t : Target) : Option Node → Bool
  | some (.file (.text existing) _) =>
    match (merge t.regions t.fragments existing).result with
    | .ok text => text ≠ existing
    | .error _ => false
  | _ => false

/-- What becomes of a target that does not fail. -/
def outcome (t : Target) (node : Option Node) : Outcome :=
  if node.isNone then .created else if t.isUpdated node then .updated else .unchanged

theorem outcome_eq_created_iff (t : Target) (node : Option Node) :
    t.outcome node = .created ↔ node.isNone = true := by
  unfold outcome
  split
  · simp_all
  · split <;> simp_all

theorem outcome_eq_updated_iff (t : Target) (node : Option Node) :
    t.outcome node = .updated ↔ t.isUpdated node = true := by
  cases node with
  | none => simp [outcome, isUpdated]
  | some node => cases h : t.isUpdated (some node) <;> simp [outcome, h]

/-- Nothing is changed while there is an obstacle. -/
theorem behind_obstacle (t : Target) (e : Error) (node : Option Node) :
    (t.behind (some e) node).1 = node := by
  unfold behind
  split <;> rfl

theorem behind_free (t : Target) (node : Option Node) : t.behind none node =
    (t.desired node, match t.failure? node with
      | some e => .error e
      | none => .ok (t.outcome node)) := by
  match node with
  | none => rfl
  | some .directory => rfl
  | some (.file (.binary _) _) => rfl
  | some (.file (.text existing) mode) =>
    cases hmerge : (merge t.regions t.fragments existing).result with
    | error e => simp [behind, plan, revise, desired, failure?, hmerge, Except.map]
    | ok text =>
      by_cases h : text = existing <;>
        simp [behind, plan, revise, desired, failure?, outcome, isUpdated, hmerge, h, Except.map]

end Target

namespace Path

theorem join_inj {dir name other : String} (hdir : dir ≠ "") (h : IsName name) (h' : IsName other)
    (hsame : join dir name = join dir other) : name = other := by
  rw [join_eq hdir h, join_eq hdir h'] at hsame
  split at hsame
  · exact String.append_right_inj dir |>.1 hsame
  · exact String.append_right_inj (dir ++ "/") |>.1 hsame

theorem utf8ByteSize_join {dir name : String} (hdir : dir ≠ "") (h : IsName name) :
    dir.utf8ByteSize + name.utf8ByteSize ≤ (join dir name).utf8ByteSize := by
  rw [join_eq hdir h]
  split <;> simp only [String.utf8ByteSize_append] <;> omega

theorem utf8ByteSize_join_le {dir name : String} (hdir : dir ≠ "") (h : IsName name) :
    (join dir name).utf8ByteSize ≤ dir.utf8ByteSize + 1 + name.utf8ByteSize := by
  have hslash : ("/" : String).utf8ByteSize = 1 := by decide
  rw [join_eq hdir h]
  split <;> simp only [String.utf8ByteSize_append, hslash] <;> omega

theorem isName_ts {name : String} (h : '/' ∉ name.toList) : IsName (name ++ ".ts") := by
  have hlast : (name ++ ".ts").toList.getLast? = some 's' := by simp
  refine ⟨by simpa using h, ?_, ?_⟩
  · rintro (hblank | hblank) <;> simp [hblank] at hlast
  · intro hparent
    simp [hparent] at hlast

end Path

/-- The files of a generation are those of its models and one that is called as a model is. -/
theorem path_of_mem_all {dir : String} {models : List Model} {t : Target}
    (ht : t ∈ Target.all dir models) : ∃ name ∈ "index" :: models.map (·.name),
      t.path = Path.join dir (name ++ ".ts") := by
  rcases List.mem_cons.1 ht with rfl | ht
  · exact ⟨"index", List.mem_cons_self, congrArg (Path.join dir) (by decide)⟩
  · obtain ⟨m, hm, rfl⟩ := List.mem_map.1 ht
    exact ⟨m.name, List.mem_cons_of_mem _ (List.mem_map_of_mem hm), rfl⟩

theorem isName_of_mem_names {models : List Model} (h : ∀ m ∈ models, '/' ∉ m.name.toList) :
    ∀ name ∈ "index" :: models.map (·.name), Path.IsName (name ++ ".ts") := by
  intro name hname
  apply Path.isName_ts
  rcases List.mem_cons.1 hname with rfl | hname
  · decide
  · obtain ⟨m, hm, rfl⟩ := List.mem_map.1 hname
    exact h m hm

theorem isEntry_all {dir : String} {models : List Model} (h : ∀ m ∈ models, '/' ∉ m.name.toList) :
    ∀ t ∈ Target.all dir models, IsEntry dir t.path := by
  intro t ht
  obtain ⟨name, hname, hpath⟩ := path_of_mem_all ht
  exact ⟨name ++ ".ts", isName_of_mem_names h name hname, hpath⟩

theorem checkPaths_eq_ok_iff {dir : String} {models : List Model} :
    checkPaths dir models = .ok () ↔ ∀ m ∈ models,
      Text.eqIgnoringCase (Target.model dir m).path.toList (Target.index dir models).path.toList =
        false := by
  simp [checkPaths, Error.unlessAny_eq_ok_iff]

theorem Text.eqIgnoringCase_around (before a b behind : Text) :
    eqIgnoringCase (before ++ a ++ behind) (before ++ b ++ behind) = eqIgnoringCase a b := by
  simp [eqIgnoringCase]

/-- Names without slashes collide with the index if they spell its name, letter case aside. -/
theorem checkPaths_error_iff (dir : String) {models : List Model}
    (hslash : ∀ m ∈ models, '/' ∉ m.name.toList) :
    (∃ e, checkPaths dir models = .error e) ↔
      ∃ m ∈ models, Text.eqIgnoringCase m.name.toList "index".toList = true := by
  obtain ⟨before, hjoin⟩ := Path.exists_join_eq dir
  have hindex : (Target.index dir models).path.toList = before ++ "index".toList ++ ".ts".toList :=
    (hjoin "index.ts" (by decide)).trans (by simp)
  have hcase : ∀ m ∈ models, Text.eqIgnoringCase (Target.model dir m).path.toList
      (Target.index dir models).path.toList = Text.eqIgnoringCase m.name.toList "index".toList := by
    intro m hm
    have hpath : (Target.model dir m).path.toList = before ++ m.name.toList ++ ".ts".toList :=
      (hjoin _ (Path.isName_ts (hslash m hm)).not_absolute).trans (by simp)
    rw [hindex, hpath, Text.eqIgnoringCase_around]
  have hok : checkPaths dir models = .ok () ↔
      ∀ m ∈ models, Text.eqIgnoringCase m.name.toList "index".toList = false := by
    rw [checkPaths_eq_ok_iff]
    exact forall₂_congr fun m hm => by rw [hcase m hm]
  cases hresult : checkPaths dir models with
  | ok u => simpa using hok.1 hresult
  | error e => simpa [hresult] using hok

/-- No model is written to the path of the index. -/
theorem model_path_ne_index {dir : String} {models : List Model}
    (hcheck : checkPaths dir models = .ok ()) {m : Model} (hm : m ∈ models) :
    (Target.model dir m).path ≠ (Target.index dir models).path := by
  intro hsame
  have hcase := checkPaths_eq_ok_iff.1 hcheck m hm
  simp [hsame, Text.eqIgnoringCase] at hcase

namespace Target

variable {dir : String} {models : List Model}

/-- A relation among the paths of a generation is one among the names of its files. -/
theorem pairwise_all {R : String → String → Prop} :
    ((all dir models).Pairwise fun t u => R t.path u.path) ↔
      ("index" :: models.map (·.name)).Pairwise fun name other =>
        R (Path.join dir (name ++ ".ts")) (Path.join dir (other ++ ".ts")) := by
  have hindex : (index dir models).path = Path.join dir ("index" ++ ".ts") :=
    congrArg (Path.join dir) (by decide)
  simp only [all, List.pairwise_cons, List.pairwise_map, List.forall_mem_map, hindex]
  rfl

/-- The index is called as none of the models is. -/
theorem names_nodup (hnames : (models.map (·.name)).Nodup)
    (hcheck : checkPaths dir models = .ok ()) : ("index" :: models.map (·.name)).Nodup := by
  refine List.nodup_cons.2 ⟨?_, hnames⟩
  intro hmem
  obtain ⟨m, hm, hname⟩ := List.mem_map.1 hmem
  apply model_path_ne_index hcheck hm
  rw [model, hname]
  exact congrArg (Path.join dir) (by decide)

end Target

theorem paths_nodup {dir : String} {models : List Model} (hdir : dir ≠ "")
    (hnames : (models.map (·.name)).Nodup) (hslash : ∀ m ∈ models, '/' ∉ m.name.toList)
    (hcheck : checkPaths dir models = .ok ()) :
    ((Target.all dir models).map (·.path)).Nodup := by
  have hisName := isName_of_mem_names hslash
  apply List.pairwise_map.2
  apply Target.pairwise_all.2
  refine (Target.names_nodup hnames hcheck).imp_of_mem fun hname hother hne hsame => hne ?_
  exact (String.append_left_inj ".ts").1
    (Path.join_inj hdir (hisName _ hname) (hisName _ hother) hsame)

namespace Summary

theorem foldl_record (outcomes : List Outcome) (s : Summary) : outcomes.foldl record s =
    ⟨s.created + outcomes.count .created, s.updated + outcomes.count .updated,
      s.unchanged + outcomes.count .unchanged⟩ := by
  induction outcomes generalizing s with
  | nil => rfl
  | cons outcome rest ih =>
    rw [List.foldl_cons, ih]
    cases outcome <;> simp [record, Nat.add_comm, Nat.add_left_comm]

theorem ofResults_ok (outcomes : List Outcome) : ofResults (outcomes.map .ok) =
    .ok ⟨outcomes.count .created, outcomes.count .updated, outcomes.count .unchanged⟩ := by
  have herrors : (outcomes.map (Except.ok : Outcome → Except Error Outcome)).filterMap errorOf? =
      [] := by simp [errorOf?]
  have houtcomes : (outcomes.map (Except.ok : Outcome → Except Error Outcome)).filterMap
      Except.toOption = outcomes := by simp [List.filterMap_map, Function.comp_def, Except.toOption]
  rw [ofResults, herrors, houtcomes, foldl_record]
  simp [Error.unlessAny_eq_ok_iff]

theorem count_outcomes (outcomes : List Outcome) :
    outcomes.count .created + outcomes.count .updated + outcomes.count .unchanged =
      outcomes.length := by
  induction outcomes with
  | nil => rfl
  | cons outcome rest ih =>
    cases outcome <;> simp <;> omega

theorem filterMap_errorOf (targets : List Target) (node : Target → Option Node) :
    (targets.map fun t => (t.behind none (node t)).2).filterMap errorOf? =
      targets.filterMap fun t => t.failure? (node t) := by
  rw [List.filterMap_map]
  refine List.filterMap_congr fun t _ => ?_
  rw [Function.comp_apply, Target.behind_free]
  cases t.failure? (node t) <;> rfl

/-- The summary of targets that are free to be written: it tells how many files were missing and
how many had other bytes, and all the others were left as they were. -/
theorem ofResults_free (targets : List Target) (node : Target → Option Node) :
    let created := targets.countP fun t => (node t).isNone
    let updated := targets.countP fun t => t.isUpdated (node t)
    ofResults (targets.map fun t => (t.behind none (node t)).2) =
      Error.unlessAny (targets.filterMap fun t => t.failure? (node t))
        ⟨created, updated, targets.length - created - updated⟩ := by
  intro created updated
  by_cases hfail : (targets.filterMap fun t => t.failure? (node t)) = []
  · have hresults : (targets.map fun t => (t.behind none (node t)).2) =
        (targets.map fun t => t.outcome (node t)).map .ok := by
      rw [List.map_map]
      refine List.map_congr_left fun t ht => ?_
      rw [Target.behind_free, List.filterMap_eq_nil_iff.1 hfail t ht]
      rfl
    have hcreated : (targets.map fun t => t.outcome (node t)).count .created = created := by
      rw [List.count_eq_countP, List.countP_map]
      exact List.countP_congr fun t _ => by simp [Target.outcome_eq_created_iff]
    have hupdated : (targets.map fun t => t.outcome (node t)).count .updated = updated := by
      rw [List.count_eq_countP, List.countP_map]
      exact List.countP_congr fun t _ => by simp [Target.outcome_eq_updated_iff]
    -- Every target has one outcome, so those that are neither created nor updated are unchanged.
    have hall := count_outcomes (targets.map fun t => t.outcome (node t))
    rw [hresults, ofResults_ok, hfail, hcreated, hupdated]
    rw [hcreated, hupdated, List.length_map] at hall
    have hrest : (targets.map fun t => t.outcome (node t)).count .unchanged =
        targets.length - created - updated := by omega
    rw [hrest]
    exact (Error.unlessAny_eq_ok_iff.2 ⟨rfl, rfl⟩).symm
  · rw [ofResults, filterMap_errorOf]
    exact Error.unlessAny_of_ne_nil hfail _ _

end Summary

section Effect

variable {s : Store} {dir : String} {d : Place} {models : List Model}

/-- A short path is found by the names alone. -/
theorem locate_of_short (h : s.Leads dir d) {name : String} (hname : Path.IsName name)
    (hnul : '\x00' ∉ name.toList) (hbytes : name.utf8ByteSize ≤ Store.maxNameLength)
    (hlength : (Path.join dir name).utf8ByteSize ≤ Store.maxPathLength) :
    s.locate (Path.join dir name) = .ok (d ++ [name]) := by
  obtain ⟨hdirNul, -, -⟩ := Store.checkPath_eq_ok_iff.1 h.checkPath
  have hcheck : Store.checkPath (Path.join dir name) = .ok () := by
    refine Store.checkPath_eq_ok_iff.2 ⟨?_, ?_, hlength⟩
    · rw [Path.join_eq h.dir_ne hname]
      split <;> simp [hdirNul, hnul]
    · rw [Path.join_eq h.dir_ne hname]
      split <;> simp [h.dir_ne]
  rw [h.locate_join hname, Store.checkEntry, hcheck]
  simp only [bind, Except.bind, Nat.not_lt.2 hbytes, if_false, Except.map]

/-- Nothing is in the way of a file whose name and paths are short. -/
theorem obstacle?_eq_none (h : s.Leads dir d) {name : String} (hname : Path.IsName name)
    (hnul : '\x00' ∉ name.toList) (hbytes : name.utf8ByteSize ≤ Store.maxNameLength)
    (hlength : (Path.join dir name).utf8ByteSize ≤ Store.maxPathLength)
    (htemporary : s.temporaryLength (Path.directory (Path.join dir name)) ≤ Store.maxPathLength) :
    s.obstacle? (Path.join dir name) = none := by
  have hlocate := locate_of_short h hname hnul hbytes hlength
  simp only [Store.obstacle?, hlocate, Nat.not_lt.2 htemporary, if_false]

/-- No file is written to a path that is too long. -/
theorem effect_of_long_path {t : Target} {name : String} (h : s.Leads dir d)
    (hname : Path.IsName name) (hpath : t.path = Path.join dir name)
    (hlong : Store.maxPathLength < dir.utf8ByteSize + name.utf8ByteSize) :
    s.at? t.path = none ∧ ∃ e, t.effect s = (none, .error e) := by
  have hbytes : Store.maxPathLength < t.path.utf8ByteSize :=
    hpath ▸ Nat.lt_of_lt_of_le hlong (Path.utf8ByteSize_join h.dir_ne hname)
  obtain ⟨fault, hfault⟩ : ∃ fault, s.locate t.path = .error fault := by
    cases hcheck : Store.checkPath t.path with
    | ok _ => exact absurd (Store.checkPath_eq_ok_iff.1 hcheck).2.2 (Nat.not_le.2 hbytes)
    | error fault => exact ⟨fault, by rw [Store.locate_eq, hcheck]; rfl⟩
  obtain ⟨e, hobstacle⟩ : ∃ e, s.obstacle? t.path = some e := by
    unfold Store.obstacle?
    dsimp only
    split
    · exact ⟨_, rfl⟩
    · rw [hfault]
      exact ⟨_, rfl⟩
  refine ⟨Store.at?_of_fault hfault, e, ?_⟩
  rw [Target.effect, hobstacle, Store.at?_of_fault hfault]
  rfl

/-- The effect and the results of a generation that does not fail on the paths as such. -/
theorem generate_entries (h : s.Leads dir d) (hnames : (models.map (·.name)).Nodup)
    (hslash : ∀ m ∈ models, '/' ∉ m.name.toList) (hcheck : checkPaths dir models = .ok ()) :
    s.KeepsDirectories (generate s dir models).store ∧
      (generate s dir models).result =
        Summary.ofResults ((Target.all dir models).map fun t => (t.effect s).2) ∧
      (∀ t ∈ Target.all dir models,
        (generate s dir models).store.at? t.path = (t.effect s).1) ∧
      ∀ p, (∀ t ∈ Target.all dir models, s.locate t.path ≠ .ok p) →
        (generate s dir models).store.node? p = s.node? p := by
  obtain ⟨hkeeps, hresults, hnodes, hothers⟩ := Target.writeAll_entries h (isEntry_all hslash)
    (paths_nodup h.dir_ne hnames hslash hcheck)
  simp only [generate, hcheck]
  exact ⟨hkeeps, by rw [hresults], hnodes, hothers⟩

/-- A directory with a file for one model, a directory in place of another and nothing else. -/
def mixedStore : Store :=
  ⟨["work"], [(["work"], .directory), (["work", "out"], .directory),
    (["work", "out", "a.ts"], .directory),
    (["work", "out", "b.ts"], .file (.text "kept".toList) 0o600)]⟩

/-- The working directory, by a path of the given number of single dots. -/
def dots (count : Nat) : String :=
  String.ofList (List.replicate count ['.', '/']).flatten

theorem utf8ByteSize_rounds (round last : Text) (count : Nat) :
    (String.ofList ((List.replicate count round).flatten ++ last)).utf8ByteSize =
      count * (String.ofList round).utf8ByteSize + (String.ofList last).utf8ByteSize := by
  induction count with
  | zero => simp
  | succ count ih =>
    rw [List.replicate_succ, List.flatten_cons, List.append_assoc, String.ofList_append,
      String.utf8ByteSize_append, ih, Nat.succ_mul]
    omega

theorem utf8ByteSize_dots (count : Nat) : (dots count).utf8ByteSize = 2 * count := by
  have hround : (String.ofList ['.', '/']).utf8ByteSize = 2 := by decide
  have hbytes := utf8ByteSize_rounds ['.', '/'] [] count
  simpa [dots, hround, Nat.mul_comm] using hbytes

theorem segments_dots (count : Nat) :
    Path.segments (dots count) = List.replicate count ['.'] ++ [[]] := by
  rw [dots, Path.segments, String.toList_ofList]
  induction count with
  | zero => rfl
  | succ count ih =>
    rw [List.replicate_succ, List.flatten_cons, List.replicate_succ]
    simp [Text.splitAt, ih]

theorem leads_dots (hs : s.node? s.workingDirectory = some .directory) {count : Nat}
    (hcount : count ≠ 0) (hshort : 2 * count ≤ Store.maxPathLength) :
    s.Leads (dots count) s.workingDirectory := by
  refine ⟨?_, hs⟩
  have hcheck : Store.checkPath (dots count) = .ok () := by
    refine Store.checkPath_eq_ok_iff.2 ⟨?_, ?_, ?_⟩
    · simp [dots]
    · intro h
      have := utf8ByteSize_dots count
      rw [h] at this
      simp at this
      omega
    · rw [utf8ByteSize_dots]
      exact hshort
  have horigin : s.origin (dots count) = s.workingDirectory := by
    obtain ⟨count, rfl⟩ := Nat.exists_eq_succ_of_ne_zero hcount
    simp [Store.origin, Path.isAbsolute, dots, List.replicate_succ]
  rw [Store.locate_of_check hcheck, horigin, segments_dots]
  refine Store.walk_blanks (List.forall_mem_append.2 ⟨fun part hpart => ?_, ?_⟩) hs
  · exact .inr (List.eq_of_mem_replicate hpart)
  · exact List.forall_mem_singleton.2 (.inl rfl)

/-- A generation leaves at each of its paths what it desires there, whatever becomes of the others,
and changes nothing else. It fails exactly on the files it cannot read or merge into. -/
theorem generate_effect (hdir : s.isDirectory dir = true) (hnames : (models.map (·.name)).Nodup)
    (hshort : ∀ m ∈ models, '/' ∉ m.name.toList ∧ '\x00' ∉ m.name.toList ∧
      (m.name ++ ".ts").utf8ByteSize ≤ Store.maxNameLength)
    (hcheck : checkPaths dir models = .ok ())
    (hlength : ∀ t ∈ Target.all dir models, t.path.utf8ByteSize ≤ Store.maxPathLength ∧
      s.temporaryLength (Path.directory t.path) ≤ Store.maxPathLength) :
    let targets := Target.all dir models
    let after := generate s dir models
    let created := targets.countP fun t => (s.at? t.path).isNone
    let updated := targets.countP fun t => t.isUpdated (s.at? t.path)
    (∀ t ∈ targets, after.store.at? t.path = t.desired (s.at? t.path)) ∧
      (∀ p, (∀ t ∈ targets, s.locate t.path ≠ .ok p) → after.store.node? p = s.node? p) ∧
      after.result = Error.unlessAny (targets.filterMap fun t => t.failure? (s.at? t.path))
        ⟨created, updated, targets.length - created - updated⟩ := by
  intro targets after created updated
  obtain ⟨d, h⟩ := Store.isDirectory_iff.1 hdir
  obtain ⟨-, hresult, hnodes, hothers⟩ :=
    generate_entries h hnames (fun m hm => (hshort m hm).1) hcheck
  have hallowed : ∀ name ∈ "index" :: models.map (·.name), '/' ∉ name.toList ∧
      '\x00' ∉ name.toList ∧ (name ++ ".ts").utf8ByteSize ≤ Store.maxNameLength :=
    List.forall_mem_cons.2 ⟨by decide, List.forall_mem_map.2 hshort⟩
  have hfree : ∀ t ∈ targets, s.obstacle? t.path = none := by
    intro t ht
    obtain ⟨name, hname, hpath⟩ := path_of_mem_all ht
    obtain ⟨hslash, hnul, hbytes⟩ := hallowed name hname
    obtain ⟨hpathLength, htemporary⟩ := hlength t ht
    rw [hpath] at hpathLength htemporary ⊢
    exact obstacle?_eq_none h (Path.isName_ts hslash) (by simpa using hnul) hbytes hpathLength
      htemporary
  have heffect : ∀ t ∈ targets, t.effect s = t.behind none (s.at? t.path) := fun t ht => by
    rw [Target.effect, hfree t ht]
  refine ⟨fun t ht => ?_, hothers, ?_⟩
  · rw [hnodes t ht, heffect t ht, Target.behind_free]
  · rw [hresult, List.map_congr_left fun t ht => by rw [heffect t ht]]
    exact Summary.ofResults_free targets fun t => s.at? t.path

theorem generate_effect_mixed :
    let models : List Model := [⟨"a", []⟩, ⟨"b", []⟩, ⟨"c", []⟩]
    let targets := Target.all "out/" models
    let after := generate mixedStore "out/" models
    mixedStore.isDirectory "out/" = true ∧ (models.map (·.name)).Nodup ∧
      (∀ m ∈ models, '/' ∉ m.name.toList ∧ '\x00' ∉ m.name.toList ∧
        (m.name ++ ".ts").utf8ByteSize ≤ Store.maxNameLength) ∧
      checkPaths "out/" models = .ok () ∧
      (∀ t ∈ targets, t.path.utf8ByteSize ≤ Store.maxPathLength ∧
        mixedStore.temporaryLength (Path.directory t.path) ≤ Store.maxPathLength) ∧
      after.store.at? "out/a.ts" = some .directory ∧
      after.store.at? "out/b.ts" = some (.file (.text "kept".toList) 0o600) ∧
      after.store.at? "out/c.ts" = some (.file (.text (Model.mk "c" []).file) 0o644) ∧
      after.result = .error (.file "reading" "out/a.ts" .isADirectory) := by
  intro models targets after
  have hdir : mixedStore.isDirectory "out/" = true := by decide
  have hnames : (models.map (·.name)).Nodup := by decide
  have hshort : ∀ m ∈ models, '/' ∉ m.name.toList ∧ '\x00' ∉ m.name.toList ∧
      (m.name ++ ".ts").utf8ByteSize ≤ Store.maxNameLength := by decide
  have hcheck : checkPaths "out/" models = .ok () := checkPaths_eq_ok_iff.2 (by decide)
  have hlength : ∀ t ∈ targets, t.path.utf8ByteSize ≤ Store.maxPathLength ∧
      mixedStore.temporaryLength (Path.directory t.path) ≤ Store.maxPathLength := by decide
  obtain ⟨hnodes, -, hresult⟩ := generate_effect hdir hnames hshort hcheck hlength
  have hnode (m : Model) (hm : m ∈ models) :=
    hnodes (Target.model "out/" m) (List.mem_cons_of_mem _ (List.mem_map_of_mem hm))
  refine ⟨hdir, hnames, hshort, hcheck, hlength, ?_, ?_, ?_, ?_⟩
  · exact (hnode ⟨"a", []⟩ (by decide)).trans rfl
  · exact (hnode ⟨"b", []⟩ (by decide)).trans rfl
  · exact (hnode ⟨"c", []⟩ (by decide)).trans rfl
  · have hfailures : (targets.filterMap fun t => t.failure? (mixedStore.at? t.path)) =
        [.file "reading" "out/a.ts" .isADirectory] := by
      have hindex : (Target.index "out/" models).path = "out/index.ts" := by decide
      have ha : (Target.model "out/" ⟨"a", []⟩).path = "out/a.ts" := by decide
      have hb : (Target.model "out/" ⟨"b", []⟩).path = "out/b.ts" := by decide
      have hc : (Target.model "out/" ⟨"c", []⟩).path = "out/c.ts" := by decide
      simp only [targets, Target.all, models, List.map_cons, List.map_nil, hindex, ha, hb, hc,
        List.filterMap_cons, List.filterMap_nil]
      rfl
    rw [hresult, hfailures]
    rfl

/-- The path of the directory is short enough, but the path of the index below it is not. -/
theorem generate_effect_long_path :
    let s : Store := ⟨[], []⟩
    let index := Target.index (dots 2044) []
    s.isDirectory (dots 2044) = true ∧ checkPaths (dots 2044) [] = .ok () ∧
      s.at? index.path = none ∧
      (generate s (dots 2044) []).store.at? index.path ≠
        some (.file (.text (Index.file [])) 0o644) ∧
      (generate s (dots 2044) []).result ≠ .ok { created := 1 } := by
  have hbytes := utf8ByteSize_dots 2044
  have hleads : (⟨[], []⟩ : Store).Leads (dots 2044) [] := leads_dots rfl (by decide) (by decide)
  -- From here on only the length of the path counts, and where it leads.
  generalize dots 2044 = dir at hbytes hleads
  intro s index
  have hcheck : checkPaths dir [] = .ok () := checkPaths_eq_ok_iff.2 (List.forall_mem_nil _)
  have hname : Path.IsName "index.ts" := ⟨by decide, by simp [Path.IsBlank], by decide⟩
  have hlong : Store.maxPathLength < dir.utf8ByteSize + ("index.ts" : String).utf8ByteSize := by
    rw [hbytes]
    decide
  obtain ⟨hmissing, e, heffect⟩ : s.at? index.path = none ∧
      ∃ e, index.effect s = (none, .error e) := effect_of_long_path hleads hname rfl hlong
  have hnames : (([] : List Model).map (·.name)).Nodup := List.nodup_nil
  obtain ⟨-, hresult, hnodes, -⟩ := generate_entries hleads hnames (List.forall_mem_nil _) hcheck
  have hnode := hnodes index List.mem_cons_self
  rw [heffect] at hnode
  have hresults : (Target.all dir []).map (fun t => (t.effect s).2) = [.error e] := by
    rw [Target.all, List.map_nil, List.map_cons, List.map_nil, heffect]
  refine ⟨Store.isDirectory_iff.2 ⟨_, hleads⟩, hcheck, hmissing, ?_, ?_⟩
  · rw [hnode]
    simp
  · rw [hresult, hresults]
    simp [Summary.ofResults, Summary.errorOf?, Error.unlessAny, Error.ofList?]

end Effect

end SqlModels
