import SqlModels.Proofs.Files.Generation
import SqlModels.Proofs.Model.File

/-!
Generations one after another: the files of a later one are what they would be without the earlier
one, whatever that one found and left.
-/

namespace SqlModels

namespace Target

/-- A target makes the same of a file whether or not another one has been at it before. -/
structure Supersedes (new old : Target) : Prop where
  path : new.path = old.path
  full : (merge new.regions new.fragments old.full).result = .ok new.full
  merged : ∀ existing once, (merge old.regions old.fragments existing).result = .ok once →
    ∃ final, (merge new.regions new.fragments existing).result = .ok final ∧
      (merge new.regions new.fragments once).result = .ok final

variable {new old t : Target}

/-- The full texts are one layout, filled with the bodies of either target. -/
theorem Supersedes.of_layout {l : Layout} (hpath : new.path = old.path)
    (hregions : old.regions = new.regions) (hold : l.text = old.full)
    (hnew : (l.refill new.fragments).text = new.full) (hfits : l.Fits new.regions)
    (hclean : ∀ r, ∀ fresh ∈ old.fragments r, Marker.Absent fresh)
    (hcover : ∀ r, (old.fragments r).isSome → (new.fragments r).isSome) :
    new.Supersedes old := by
  refine ⟨hpath, ?_, fun existing once hmerge => ?_⟩
  · rw [← hold, ← hnew]
    exact hfits.merge_result new.fragments
  · rw [hregions] at hmerge
    -- The old target has refilled some of the blocks it found, and the new one refills those too.
    obtain ⟨found, rfl, hfound⟩ := (wellFormed_of_merge hmerge).exists_layout
    rw [hfound.merge_result] at hmerge
    cases hmerge
    exact ⟨_, hfound.merge_result new.fragments, hfound.merge_refilled hclean hcover⟩

theorem supersedes_model (dir : String) {m n : Model} (hname : m.name = n.name)
    (h : ∀ t ∈ m.texts, ¬ Marker.stem <:+: t) : (model dir n).Supersedes (model dir m) := by
  have hclean := Model.layout_clean h
  have hfilled : (m.layout.refill n.fragments).text = n.file := by
    rw [Model.layout_refill hname, n.layout_text]
  refine .of_layout (l := m.layout) ?_ rfl m.layout_text hfilled hclean.fits ?_ ?_
  · simp only [model, hname]
  · intro r fresh hfresh
    apply hclean.absent_of_body
    cases r <;> cases hfresh <;> simp [Model.layout]
  · intro r
    cases r <;> exact id

theorem supersedes_index (dir : String) {models others : List Model}
    (h : ∀ m ∈ models, ¬ Marker.stem <:+: m.name.toList) :
    (index dir others).Supersedes (index dir models) := by
  have hclean := Index.layout_clean h
  have hfilled : ((Index.layout models).refill (Index.fragments others)).text =
      Index.file others := by
    rw [Index.layout_refill, Index.layout_text]
  refine .of_layout (l := Index.layout models) rfl rfl (Index.layout_text models) hfilled
    hclean.fits ?_ ?_
  · intro r fresh hfresh
    apply hclean.absent_of_body
    cases r <;> cases hfresh <;> simp [Index.layout]
  · intro r
    cases r <;> exact id

namespace Supersedes

theorem desired_desired (h : new.Supersedes old) (node : Option Node) :
    new.desired (old.desired node) = new.desired node := by
  match node with
  | none => simp [desired, h.full]
  | some .directory => rfl
  | some (.file (.binary _) _) => rfl
  | some (.file (.text existing) mode) =>
    cases hmerge : (merge old.regions old.fragments existing).result with
    | error e => simp [desired, hmerge]
    | ok once =>
      obtain ⟨final, hdirect, hagain⟩ := h.merged existing once hmerge
      simp [desired, hmerge, hdirect, hagain]

theorem failure?_desired (h : new.Supersedes old) (node : Option Node) :
    new.failure? (old.desired node) = new.failure? node := by
  match node with
  | none => simp [desired, failure?, h.full]
  | some .directory => rfl
  | some (.file (.binary _) _) => rfl
  | some (.file (.text existing) mode) =>
    cases hmerge : (merge old.regions old.fragments existing).result with
    | error e => simp [desired, hmerge]
    | ok once =>
      obtain ⟨final, hdirect, hagain⟩ := h.merged existing once hmerge
      simp [desired, failure?, hmerge, hdirect, hagain]

/-- A target has nothing to do where it has been at work before. -/
theorem outcome_desired (h : t.Supersedes t) (node : Option Node) (hnode : t.failure? node = none) :
    t.outcome (t.desired node) = .unchanged := by
  match node with
  | none => simp [desired, outcome, isUpdated, h.full]
  | some .directory => cases hnode
  | some (.file (.binary _) _) => cases hnode
  | some (.file (.text existing) mode) =>
    cases hmerge : (merge t.regions t.fragments existing).result with
    | error e => simp [failure?, hmerge] at hnode
    | ok once =>
      obtain ⟨final, hdirect, hagain⟩ := h.merged existing once hmerge
      obtain rfl := Except.ok.inj (hdirect.symm.trans hmerge)
      simp [desired, outcome, isUpdated, hmerge, hagain]

theorem behind_behind (h : new.Supersedes old) (obstacle : Option Error) (node : Option Node) :
    (new.behind obstacle (old.behind obstacle node).1).1 = (new.behind obstacle node).1 ∧
      Summary.errorOf? (new.behind obstacle (old.behind obstacle node).1).2 =
        Summary.errorOf? (new.behind obstacle node).2 := by
  cases obstacle with
  | some e => rw [behind_obstacle old e node]; exact ⟨rfl, rfl⟩
  | none =>
    simp only [behind_free, h.desired_desired, h.failure?_desired]
    exact ⟨trivial, by cases new.failure? node <;> rfl⟩

theorem behind_again (h : t.Supersedes t) {obstacle : Option Error} {node : Option Node}
    {outcome : Outcome} (hresult : (t.behind obstacle node).2 = .ok outcome) :
    (t.behind obstacle (t.behind obstacle node).1).2 = .ok .unchanged := by
  cases obstacle with
  | some e =>
    rw [behind_obstacle]
    unfold behind at hresult ⊢
    split at hresult <;> simp_all
  | none =>
    simp only [behind_free] at hresult ⊢
    cases hfailure : t.failure? node with
    | some e => simp [hfailure] at hresult
    | none => rw [h.failure?_desired, hfailure, h.outcome_desired node hfailure]

end Supersedes

/-- Of two generations, only files of the same kind share a path. -/
theorem supersedes_of_path {dir : String} {first second : List Model} (hdir : dir ≠ "")
    (hslash : ∀ m ∈ first ++ second, '/' ∉ m.name.toList)
    (hclean : ∀ m ∈ first, ∀ t ∈ m.texts, ¬ Marker.stem <:+: t)
    (hfirst : checkPaths dir first = .ok ()) (hsecond : checkPaths dir second = .ok ())
    (hold : old ∈ all dir first) (hnew : new ∈ all dir second) (hpath : new.path = old.path) :
    new.Supersedes old := by
  rcases List.mem_cons.1 hold with rfl | hold
  · rcases List.mem_cons.1 hnew with rfl | hnew
    · exact supersedes_index dir fun m hm => hclean m hm _ List.mem_cons_self
    · obtain ⟨n, hn, rfl⟩ := List.mem_map.1 hnew
      exact absurd hpath (model_path_ne_index hsecond hn)
  · obtain ⟨m, hm, rfl⟩ := List.mem_map.1 hold
    rcases List.mem_cons.1 hnew with rfl | hnew
    · exact absurd hpath.symm (model_path_ne_index hfirst hm)
    · obtain ⟨n, hn, rfl⟩ := List.mem_map.1 hnew
      have hfile : m.name ++ ".ts" = n.name ++ ".ts" :=
        Path.join_inj hdir (Path.isName_ts (hslash m (List.mem_append_left _ hm)))
          (Path.isName_ts (hslash n (List.mem_append_right _ hn))) hpath.symm
      exact supersedes_model dir ((String.append_left_inj ".ts").1 hfile) (hclean m hm)

end Target

namespace Summary

/-- There is a summary only if nothing has failed. -/
theorem exists_outcome {results : List (Except Error Outcome)} {summary : Summary}
    (h : ofResults results = .ok summary) {result : Except Error Outcome}
    (hresult : result ∈ results) : ∃ outcome, result = .ok outcome := by
  rw [ofResults, Error.unlessAny_eq_ok_iff, List.filterMap_eq_nil_iff] at h
  cases result with
  | error e => exact absurd (h.1 _ hresult) (by simp [errorOf?])
  | ok outcome => exact ⟨outcome, rfl⟩

theorem map_ofResults (results : List (Except Error Outcome)) :
    (ofResults results).map (fun _ => ()) = Error.unlessAny (results.filterMap errorOf?) () := by
  unfold ofResults Error.unlessAny
  cases Error.ofList? (results.filterMap errorOf?) <;> rfl

end Summary

section History

variable {s : Store} {dir : String} {d : Place} {first second : List Model}

theorem generate_refused {e : Error} (h : checkPaths dir first = .error e) :
    (generate s dir first).store = s := by
  simp only [generate, h]

theorem generate_keeps (h : s.Leads dir d) (hnames : (first.map (·.name)).Nodup)
    (hslash : ∀ m ∈ first, '/' ∉ m.name.toList) :
    s.KeepsDirectories (generate s dir first).store := by
  cases hcheck : checkPaths dir first with
  | error e => rw [generate_refused hcheck]; exact .refl s
  | ok _ => exact (generate_entries h hnames hslash hcheck).1

/-- An earlier generation changes nothing about what a target leaves at its path and how it
fails. -/
theorem effect_after_generate (h : s.Leads dir d) (hnames : (first.map (·.name)).Nodup)
    (hslash : ∀ m ∈ first ++ second, '/' ∉ m.name.toList)
    (hclean : ∀ m ∈ first, ∀ t ∈ m.texts, ¬ Marker.stem <:+: t)
    (hcheck : checkPaths dir second = .ok ()) {t : Target} (ht : t ∈ Target.all dir second) :
    (t.effect (generate s dir first).store).1 = (t.effect s).1 ∧
      Summary.errorOf? (t.effect (generate s dir first).store).2 =
        Summary.errorOf? (t.effect s).2 := by
  obtain ⟨hslashFirst, hslashSecond⟩ := List.forall_mem_append.1 hslash
  cases hfirst : checkPaths dir first with
  | error e => rw [generate_refused hfirst]; exact ⟨rfl, rfl⟩
  | ok _ =>
    obtain ⟨hkeeps, -, hnodes, hothers⟩ := generate_entries h hnames hslashFirst hfirst
    have honce := h.keep hkeeps
    have hentry := isEntry_all hslashSecond t ht
    have hobstacle := Store.obstacle?_entry h hentry honce hkeeps.workingDirectory
    -- Either the earlier generation had a file of this path, or it has left the path alone.
    by_cases hsame : ∃ u ∈ Target.all dir first, t.path = u.path
    · obtain ⟨u, hu, hpath⟩ := hsame
      have hsupersedes :=
        Target.supersedes_of_path h.dir_ne hslash hclean hfirst hcheck hu ht hpath
      rw [Target.effect, Target.effect, hobstacle, hpath, hnodes u hu, Target.effect]
      exact hsupersedes.behind_behind (s.obstacle? u.path) (s.at? u.path)
    · have hnode : (generate s dir first).store.at? t.path = s.at? t.path := by
        refine Store.at?_entry h hentry honce fun p hp => hothers p fun u hu => ?_
        refine Store.entries_apart h hentry hp (isEntry_all hslashFirst u hu) ?_
        exact fun hpath => hsame ⟨u, hu, hpath.symm⟩
      rw [Target.effect, Target.effect, hobstacle, hnode]
      exact ⟨rfl, rfl⟩

/-- A generation that has not failed has nothing to do when it is run again. -/
theorem generate_again (h : s.Leads dir d) (hnames : (first.map (·.name)).Nodup)
    (hslash : ∀ m ∈ first, '/' ∉ m.name.toList)
    (hclean : ∀ m ∈ first, ∀ t ∈ m.texts, ¬ Marker.stem <:+: t) {summary : Summary}
    (hresult : (generate s dir first).result = .ok summary) :
    (generate (generate s dir first).store dir first).store = (generate s dir first).store ∧
      (generate (generate s dir first).store dir first).result =
        .ok { unchanged := 1 + first.length } := by
  have hcheck : checkPaths dir first = .ok () := by
    cases hfirst : checkPaths dir first with
    | error e => simp [generate, hfirst] at hresult
    | ok _ => rfl
  obtain ⟨hkeeps, hresults, hnodes, -⟩ := generate_entries h hnames hslash hcheck
  generalize (generate s dir first).store = once at hkeeps hnodes ⊢
  have honce := h.keep hkeeps
  -- No target of the first run has failed, so each one finds what it has left there itself.
  have hfine : ∀ t ∈ Target.all dir first, (t.effect once).2 = .ok .unchanged := by
    intro t ht
    obtain ⟨outcome, hok⟩ :=
      Summary.exists_outcome (hresults ▸ hresult) (List.mem_map_of_mem ht)
    have hself := Target.supersedes_of_path h.dir_ne (by simpa using hslash) hclean hcheck hcheck
      ht ht rfl
    rw [Target.effect, hnodes t ht, Store.obstacle?_entry h (isEntry_all hslash t ht) honce
      hkeeps.workingDirectory]
    exact hself.behind_again hok
  obtain ⟨-, hpass, -, -⟩ := Target.writeAll_entries honce (isEntry_all hslash)
    (paths_nodup h.dir_ne hnames hslash hcheck)
  have hunchanged : (Target.writeAll once (Target.all dir first)).results =
      (List.replicate (1 + first.length) Outcome.unchanged).map .ok := by
    rw [hpass, List.map_congr_left hfine, List.map_const', List.map_replicate, Target.all,
      List.length_cons, List.length_map, Nat.add_comm]
  simp only [generate, hcheck]
  constructor
  · refine Target.writeAll_unchanged fun result hmem => ?_
    rw [hunchanged, List.map_replicate] at hmem
    exact List.eq_of_mem_replicate hmem
  · rw [hunchanged, Summary.ofResults_ok]
    simp [List.count_replicate]

/-- A generation leaves the files it leaves without an earlier one, and fails as it does without
it, whatever the earlier one came to. Behind one that has not failed it has nothing to do. -/
theorem generate_forgets_history (hdir : s.isDirectory dir = true)
    (hfirst : (first.map (·.name)).Nodup) (hsecond : (second.map (·.name)).Nodup)
    (hslash : ∀ m ∈ first ++ second, '/' ∉ m.name.toList)
    (hclean : ∀ m ∈ first, ∀ t ∈ m.texts, ¬ "AutoGen".toList <:+: t)
    (hcheck : checkPaths dir second = .ok ()) :
    let once := (generate s dir first).store
    let again := generate once dir second
    let alone := generate s dir second
    (∀ t ∈ Target.all dir second, again.store.at? t.path = alone.store.at? t.path) ∧
      again.result.map (fun _ => ()) = alone.result.map (fun _ => ()) ∧
      ∀ summary, (generate s dir first).result = .ok summary →
        (generate once dir first).store = once ∧
          (generate once dir first).result = .ok { unchanged := 1 + first.length } := by
  obtain ⟨d, h⟩ := Store.isDirectory_iff.1 hdir
  obtain ⟨hslashFirst, hslashSecond⟩ := List.forall_mem_append.1 hslash
  intro once again alone
  have honce : once.Leads dir d := h.keep (generate_keeps h hfirst hslashFirst)
  obtain ⟨-, hresult, hnodes, -⟩ := generate_entries h hsecond hslashSecond hcheck
  obtain ⟨-, hresultAgain, hnodesAgain, -⟩ := generate_entries honce hsecond hslashSecond hcheck
  have heffect := fun t => effect_after_generate h hfirst hslash hclean hcheck (t := t)
  refine ⟨fun t ht => ?_, ?_, fun summary => generate_again h hfirst hslashFirst hclean⟩
  · rw [hnodes t ht, hnodesAgain t ht]
    exact (heffect t ht).1
  · rw [hresult, hresultAgain, Summary.map_ofResults, Summary.map_ofResults, List.filterMap_map,
      List.filterMap_map]
    exact congrArg (Error.unlessAny · ()) (List.filterMap_congr fun t ht => (heffect t ht).2)

/-- The first generation writes all of its files, and the second one finds a directory in place of
a file. -/
theorem generate_forgets_history_mixed :
    let first : List Model :=
      [⟨"b", []⟩, ⟨"c", [⟨"n", "Auto", .number, false, true, some (.literal "Gen".toList), true⟩]⟩]
    let second : List Model := [⟨"a", []⟩, ⟨"c", []⟩]
    let once := (generate mixedStore "out/" first).store
    let again := generate once "out/" second
    let bare := Text.ofPieces [
      "import \x7b Sequelize, Model, DataTypes, NOW \x7d from \"sequelize\";\n\n",
      "export interface cAttributes \x7b\n",
      "  // AutoGenIntefaceAttrBegin \x7b\n  // \x7d AutoGenIntefaceAttrEnd\n\x7d\n\n",
      "export default class c extends Model<cAttributes, Partial<cAttributes>> \x7b\n",
      "  // AutoGenModelAttrsBegin \x7b\n  // \x7d AutoGenModelAttrsEnd\n\n",
      "  public static bootstrap(sequelize: Sequelize) \x7b\n    c.init(\n      \x7b\n",
      "        // AutoGenColumnDefsBegin \x7b\n        // \x7d AutoGenColumnDefsEnd\n",
      "      \x7d,\n      \x7b\n        sequelize,\n        tableName: \"c\",\n",
      "        timestamps: false,\n      \x7d,\n    );\n  \x7d\n\x7d\n"]
    mixedStore.isDirectory "out/" = true ∧ (first.map (·.name)).Nodup ∧
      (second.map (·.name)).Nodup ∧ (∀ m ∈ first ++ second, '/' ∉ m.name.toList) ∧
      (∀ m ∈ first, ∀ t ∈ m.texts, ¬ "AutoGen".toList <:+: t) ∧
      checkPaths "out/" second = .ok () ∧
      (generate mixedStore "out/" first).result = .ok { created := 2, unchanged := 1 } ∧
      again.store.at? "out/c.ts" = some (.file (.text bare) 0o644) ∧
      again.result.map (fun _ => ()) = .error (.file "reading" "out/a.ts" .isADirectory) ∧
      (generate once "out/" first).store = once ∧
      (generate once "out/" first).result = .ok { unchanged := 3 } := by
  intro first second once again bare
  have hdir : mixedStore.isDirectory "out/" = true := by decide
  have hfirst : (first.map (·.name)).Nodup := by decide
  have hsecond : (second.map (·.name)).Nodup := by decide
  have hslash : ∀ m ∈ first ++ second, '/' ∉ m.name.toList := by decide
  have hclean : ∀ m ∈ first, ∀ t ∈ m.texts, ¬ "AutoGen".toList <:+: t := by decide
  have hcheck : checkPaths "out/" second = .ok () := checkPaths_eq_ok_iff.2 (by decide)
  have hresult : (generate mixedStore "out/" first).result =
      .ok { created := 2, unchanged := 1 } := by
    simp only [first]
    rfl
  have hwritten : (generate mixedStore "out/" second).store.at? "out/c.ts" =
      some (.file (.text (Model.mk "c" []).file) 0o644) := by
    simp only [second]
    rfl
  have hbare : (Model.mk "c" []).file = bare := by decide +kernel
  have hfailure : (generate mixedStore "out/" second).result.map (fun _ => ()) =
      .error (.file "reading" "out/a.ts" .isADirectory) := by
    simp only [second]
    rfl
  obtain ⟨hnodes, hsame, hagain⟩ :=
    generate_forgets_history hdir hfirst hsecond hslash hclean hcheck
  have hnode := hnodes (Target.model "out/" ⟨"c", []⟩) (by simp [Target.all, second])
  exact ⟨hdir, hfirst, hsecond, hslash, hclean, hcheck, hresult,
    hnode.trans (hbare ▸ hwritten),
    hsame.trans hfailure, hagain _ hresult⟩

end History

end SqlModels
