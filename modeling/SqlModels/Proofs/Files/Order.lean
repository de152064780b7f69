import SqlModels.Proofs.Files.History

/-!
Generations of the same models in different orders: each model file is left alike and fails alike,
and the index has the same lines in another order. Only where an index is in place already and no
temporary file can be made beside it, one order may fail that finds the index in another one.
-/

namespace SqlModels

namespace Index

/-- What a model contributes to a region of the index. -/
def linesOf : Region → Model → Text
  | .imports => Model.importLine
  | .bootstraps => Model.bootstrapLine
  | .exports => Model.exportLines
  | _ => fun _ => []

/-- A text that begins with `head` and goes on with regions of the index, each with what stands
behind it. -/
def compose (head : Text) (parts : List (Region × Text)) (models : List Model) : Text :=
  head ++ parts.flatMap fun part => part.1.wrap (models.flatMap (linesOf part.1)) ++ part.2

theorem fragments_eq {r : Region} (h : r ∈ Region.ofIndex) (models : List Model) :
    fragments models r = some (models.flatMap (linesOf r)) := by
  cases r <;> first | rfl | exact absurd h (by decide)

theorem text_refill {l : Layout} (h : ∀ b ∈ l.blocks, b.region ∈ Region.ofIndex)
    (models : List Model) : (l.refill (fragments models)).text =
      compose l.head (l.blocks.map fun b => (b.region, b.after)) models := by
  rw [Layout.text, compose, Layout.refill]
  congr 1
  rw [List.flatMap_map, List.flatMap_map]
  refine List.flatMap_congr fun b hb => ?_
  rw [Block.refill_of_some (fragments_eq (h b hb) models)]
  simp [Block.text, Region.wrap]

/-- The regions of a whole index file. -/
def fileParts : List (Region × Text) :=
  [(.imports, loadHead), (.bootstraps, exportHead), (.exports, fileFoot)]

theorem file_eq_compose (models : List Model) :
    file models = compose importHead fileParts models := by
  rw [← layout_text, ← layout_refill [], text_refill (by decide)]
  rfl

end Index

namespace Target

/-- How each of several targets fails, if it does, when they are written one after another. -/
def failures (s : Store) (targets : List Target) : List (Option Error) :=
  (writeAll s targets).results.map Summary.errorOf?

variable {s : Store} {dir : String} {d : Place} {models others : List Model}

/-- Whether a merge fails is a matter of the text alone. -/
theorem merge_index (text : Text) :
    (∃ e, ∀ models, (merge Region.ofIndex (Index.fragments models) text).result = .error e) ∨
      ∃ head parts, (parts.map Prod.fst).Sublist Region.ofIndex ∧ ∀ models,
        (merge Region.ofIndex (Index.fragments models) text).result =
          .ok (Index.compose head parts models) := by
  cases hmerge : (merge Region.ofIndex (Index.fragments []) text).result with
  | error e =>
    refine .inl ⟨e, fun models => ?_⟩
    unfold merge at hmerge ⊢
    cases hspans : (Survey.ofRegions Region.ofIndex text).spans with
    | error e' => simpa [hspans, Except.map] using hmerge
    | ok spans => simp [hspans, Except.map] at hmerge
  | ok merged =>
    obtain ⟨l, rfl, hfits⟩ := (wellFormed_of_merge hmerge).exists_layout
    have hsublist : l.regions.Sublist Region.ofIndex :=
      hfits.regions_eq ▸ List.filter_sublist
    refine .inr ⟨l.head, l.blocks.map fun b => (b.region, b.after), ?_, fun models => ?_⟩
    · rw [List.map_map]
      exact hsublist
    · rw [hfits.merge_result, Index.text_refill]
      exact fun b hb => hsublist.subset (List.mem_map_of_mem hb)

/-- An attempt at the index leaves what it finds, whatever the models, or writes one text around the
lines of the models. -/
theorem index_behind (dir : String) (obstacle : Option Error) (node : Option Node) :
    (∀ models, ((index dir models).behind obstacle node).1 = node) ∨
      ∃ head parts mode, (parts.map Prod.fst).Sublist Region.ofIndex ∧ ∀ models,
        ((index dir models).behind obstacle node).1 =
          some (.file (.text (Index.compose head parts models)) mode) := by
  cases obstacle with
  | some e => exact .inl fun models => behind_obstacle _ e node
  | none =>
    simp only [behind_free]
    match node with
    | none =>
      exact .inr ⟨Index.importHead, Index.fileParts, newMode, .refl Region.ofIndex, fun models => by
        simp only [desired, index, Index.file_eq_compose models]⟩
    | some .directory => exact .inl fun _ => rfl
    | some (.file (.binary _) _) => exact .inl fun _ => rfl
    | some (.file (.text existing) mode) =>
      rcases merge_index existing with ⟨e, herror⟩ | ⟨head, parts, hparts, hok⟩
      · exact .inl fun models => by simp only [desired, index, herror models]
      · exact .inr ⟨head, parts, mode, hparts, fun models => by
          simp only [desired, index, hok models]⟩

/-- How the index fails does not depend on the models, unless it is in place and cannot be
replaced. -/
theorem index_failure {obstacle : Option Error} {node : Option Node}
    (hfree : node.isSome → obstacle = none) (models others : List Model) :
    Summary.errorOf? ((index dir models).behind obstacle node).2 =
      Summary.errorOf? ((index dir others).behind obstacle node).2 := by
  match node with
  | none => cases obstacle <;> rfl
  | some .directory => rfl
  | some (.file (.binary _) _) => rfl
  | some (.file (.text existing) mode) =>
    have hfailure : (index dir models).failure? (some (.file (.text existing) mode)) =
        (index dir others).failure? (some (.file (.text existing) mode)) := by
      rcases merge_index existing with ⟨e, herror⟩ | ⟨head, parts, -, hok⟩
      · simp only [failure?, index, herror]
      · simp only [failure?, index, hok]
    rw [hfree rfl, behind_free, behind_free, hfailure]
    cases (index dir others).failure? (some (.file (.text existing) mode)) <;> rfl

end Target

section Order

variable {s : Store} {dir : String} {d : Place} {models others : List Model}

theorem checkPaths_perm (hperm : models.Perm others) (hcheck : checkPaths dir models = .ok ()) :
    checkPaths dir others = .ok () :=
  checkPaths_eq_ok_iff.2 fun m hm => checkPaths_eq_ok_iff.1 hcheck m (hperm.mem_iff.2 hm)

theorem result_of_failures (hcheck : checkPaths dir models = .ok ()) :
    (generate s dir models).result.map (fun _ => ()) =
      Error.unlessAny (Target.failures s (Target.all dir models)).reduceOption () := by
  have hreduce (failures : List (Option Error)) :
      failures.reduceOption = failures.filterMap id := rfl
  simp only [generate, hcheck, Summary.map_ofResults, Target.failures, hreduce, List.filterMap_map,
    Function.id_comp]

theorem failures_eq (h : s.Leads dir d) (hnames : (models.map (·.name)).Nodup)
    (hslash : ∀ m ∈ models, '/' ∉ m.name.toList) (hcheck : checkPaths dir models = .ok ()) :
    Target.failures s (Target.all dir models) =
      (Target.all dir models).map fun t => Summary.errorOf? (t.effect s).2 := by
  obtain ⟨-, hresults, -, -⟩ := Target.writeAll_entries h (isEntry_all hslash)
    (paths_nodup h.dir_ne hnames hslash hcheck)
  rw [Target.failures, hresults, List.map_map]
  rfl

/-- If a temporary file can be made beside an entry, nothing is in the way of one that is found. -/
theorem obstacle?_of_short {path : String}
    (hshort : s.temporaryLength (Path.directory path) ≤ Store.maxPathLength)
    (hfound : (s.at? path).isSome) : s.obstacle? path = none := by
  cases hlocate : s.locate path with
  | error fault => simp [Store.at?_of_fault hlocate] at hfound
  | ok p => simp [Store.obstacle?, hlocate, Nat.not_lt.2 hshort]

/-- The order of models decides about the order of lines in the index only. Each model file is left
alike and fails alike, and so does the index if a temporary file can be made beside it. The index
stays as it is, or it is one text with the lines of the models in the order they are given in. -/
theorem generate_in_any_order (hdir : s.isDirectory dir = true) (hperm : models.Perm others)
    (hnames : (models.map (·.name)).Nodup) (hslash : ∀ m ∈ models, '/' ∉ m.name.toList)
    (hcheck : checkPaths dir models = .ok ()) :
    let one := generate s dir models
    let two := generate s dir others
    let index := Path.join dir "index.ts"
    (∀ m ∈ models, one.store.at? (Target.model dir m).path =
        two.store.at? (Target.model dir m).path) ∧
      (∃ (first second : Option Error) (failure : Model → Option Error),
        Target.failures s (Target.all dir models) = first :: models.map failure ∧
          Target.failures s (Target.all dir others) = second :: others.map failure ∧
          one.result.map (fun _ => ()) =
            Error.unlessAny (first :: models.map failure).reduceOption () ∧
          two.result.map (fun _ => ()) =
            Error.unlessAny (second :: others.map failure).reduceOption () ∧
          (s.temporaryLength (Path.directory index) ≤ Store.maxPathLength → first = second)) ∧
      (one.store.at? index = s.at? index ∧ two.store.at? index = s.at? index ∨
        ∃ head parts mode, (parts.map Prod.fst).Sublist Region.ofIndex ∧
          one.store.at? index = some (.file (.text (Index.compose head parts models)) mode) ∧
          two.store.at? index = some (.file (.text (Index.compose head parts others)) mode)) := by
  intro one two index
  obtain ⟨d, h⟩ := Store.isDirectory_iff.1 hdir
  have hnames' : (others.map (·.name)).Nodup := (hperm.map _).nodup_iff.1 hnames
  have hslash' : ∀ m ∈ others, '/' ∉ m.name.toList := fun m hm =>
    hslash m (hperm.mem_iff.2 hm)
  have hcheck' := checkPaths_perm hperm hcheck
  obtain ⟨-, -, hone, -⟩ := generate_entries h hnames hslash hcheck
  obtain ⟨-, -, htwo, -⟩ := generate_entries h hnames' hslash' hcheck'
  have hfailures := failures_eq h hnames hslash hcheck
  have hfailures' := failures_eq h hnames' hslash' hcheck'
  rw [Target.all, List.map_cons, List.map_map] at hfailures hfailures'
  refine ⟨fun m hm => ?_, ⟨_, _, _, hfailures, hfailures', ?_, ?_, fun hshort => ?_⟩, ?_⟩
  · rw [hone _ (List.mem_cons_of_mem _ (List.mem_map_of_mem hm)),
      htwo _ (List.mem_cons_of_mem _ (List.mem_map_of_mem (hperm.mem_iff.1 hm)))]
  · rw [result_of_failures hcheck, Target.all, hfailures]
  · rw [result_of_failures hcheck', Target.all, hfailures']
  · exact Target.index_failure (obstacle?_of_short hshort) models others
  · have hindex := hone _ List.mem_cons_self
    have hindex' := htwo _ List.mem_cons_self
    rcases Target.index_behind dir (s.obstacle? index) (s.at? index) with
      hsame | ⟨head, parts, mode, hparts, hwritten⟩
    · exact .inl ⟨hindex.trans (hsame models), hindex'.trans (hsame others)⟩
    · exact .inr ⟨head, parts, mode, hparts, hindex.trans (hwritten models),
        hindex'.trans (hwritten others)⟩

/-- An index with one region and a line of its own behind it, and a directory in place of a
model. -/
def editedStore : Store :=
  ⟨["work"], [(["work"], .directory), (["work", "out"], .directory),
    (["work", "out", "a.ts"], .directory),
    (["work", "out", "index.ts"], .file
      (.text "// AutoGenImportBegin \x7b// \x7d AutoGenImportEnd\n// mine".toList) 0o600)]⟩

theorem generate_in_any_order_edited :
    let models : List Model := [⟨"a", []⟩, ⟨"b", []⟩]
    let others : List Model := [⟨"b", []⟩, ⟨"a", []⟩]
    let one := generate editedStore "out/" models
    let two := generate editedStore "out/" others
    editedStore.isDirectory "out/" = true ∧ models.Perm others ∧ (models.map (·.name)).Nodup ∧
      (∀ m ∈ models, '/' ∉ m.name.toList) ∧ checkPaths "out/" models = .ok () ∧
      one.store.at? "out/b.ts" = two.store.at? "out/b.ts" ∧
      one.result.map (fun _ => ()) = .error (.file "reading" "out/a.ts" .isADirectory) ∧
      two.result.map (fun _ => ()) = .error (.file "reading" "out/a.ts" .isADirectory) ∧
      one.store.at? "out/index.ts" = some (.file
        (.text (Index.compose [] [(.imports, "\n// mine".toList)] models)) 0o600) ∧
      two.store.at? "out/index.ts" = some (.file
        (.text (Index.compose [] [(.imports, "\n// mine".toList)] others)) 0o600) := by
  intro models others one two
  have hdir : editedStore.isDirectory "out/" = true := by decide
  have hperm : models.Perm others := .swap _ _ _
  have hnames : (models.map (·.name)).Nodup := by decide
  have hslash : ∀ m ∈ models, '/' ∉ m.name.toList := by decide
  have hcheck : checkPaths "out/" models = .ok () := checkPaths_eq_ok_iff.2 (by decide)
  obtain ⟨hmodels, -, -⟩ := generate_in_any_order hdir hperm hnames hslash hcheck
  refine ⟨hdir, hperm, hnames, hslash, hcheck, hmodels ⟨"b", []⟩ (by decide), ?_⟩
  simp only [one, two, models, others]
  exact ⟨rfl, rfl, rfl, rfl⟩

/-- The working directory, by a path that leads into `d` and out of it again, once and `count` times
more. -/
def zigzag (count : Nat) : String :=
  String.ofList ((List.replicate count ['d', '/', '.', '.', '/']).flatten ++ ['d', '/', '.', '.'])

theorem utf8ByteSize_zigzag (count : Nat) : (zigzag count).utf8ByteSize = 5 * count + 4 := by
  have hround : (String.ofList ['d', '/', '.', '.', '/']).utf8ByteSize = 5 := by decide
  have hlast : (String.ofList ['d', '/', '.', '.']).utf8ByteSize = 4 := by decide
  rw [zigzag, utf8ByteSize_rounds, hround, hlast, Nat.mul_comm]

theorem segments_zigzag (count : Nat) : Path.segments (zigzag count) =
    (List.replicate count [['d'], ['.', '.']]).flatten ++ [['d'], ['.', '.']] := by
  rw [zigzag, Path.segments, String.toList_ofList]
  induction count with
  | zero => rfl
  | succ count ih =>
    rw [List.replicate_succ, List.flatten_cons, List.replicate_succ]
    simp [Text.splitAt, ih]

theorem zigzag_relative (count : Nat) : Path.isAbsolute (zigzag count) = false := by
  cases count <;> simp [Path.isAbsolute, zigzag, List.replicate_succ]

theorem leads_zigzag (hs : s.node? s.workingDirectory = some .directory)
    (hd : s.node? (s.workingDirectory ++ ["d"]) = some .directory) {count : Nat}
    (hshort : 5 * count + 4 ≤ Store.maxPathLength) : s.Leads (zigzag count) s.workingDirectory := by
  refine ⟨?_, hs⟩
  have hcheck : Store.checkPath (zigzag count) = .ok () := by
    refine Store.checkPath_eq_ok_iff.2 ⟨by simp [zigzag], ?_, by rwa [utf8ByteSize_zigzag]⟩
    intro h
    have := utf8ByteSize_zigzag count
    rw [h] at this
    simp at this
  have horigin : s.origin (zigzag count) = s.workingDirectory := by
    simp [Store.origin, zigzag_relative]
  -- Each round leads into the directory and out of it again.
  have hround (rest : List Text) : s.walk s.workingDirectory (['d'] :: ['.', '.'] :: rest) =
      s.walk s.workingDirectory rest := by
    have hinto : Store.follow s.workingDirectory ['d'] = .ok (s.workingDirectory ++ ["d"]) := rfl
    have hout : Store.follow (s.workingDirectory ++ ["d"]) ['.', '.'] =
        .ok s.workingDirectory := by simp [Store.follow]
    rw [Store.walk_cons, Store.checkDirectory_eq_ok_iff.2 hs, hinto, Except.bind, Except.bind,
      Store.walk_cons, Store.checkDirectory_eq_ok_iff.2 hd, hout]
    rfl
  rw [Store.locate_of_check hcheck, horigin, segments_zigzag]
  clear hshort hcheck horigin
  induction count with
  | zero => exact (hround []).trans rfl
  | succ count ih =>
    rw [List.replicate_succ, List.flatten_cons, List.append_assoc]
    exact (hround _).trans ih

/-- A directory whose path does not end in blank segments is found above its entries by the same
path. -/
theorem directory_join_eq {name : String} {parts : List Text} {last : Text}
    (hdir : Path.segments dir = parts ++ [last]) (hparts : parts ≠ [])
    (hlast : ¬ Path.IsBlank last) (hname : Path.IsName name) :
    Path.directory (Path.join dir name) = dir := by
  obtain ⟨first, rest, rfl⟩ := List.exists_cons_of_ne_nil hparts
  have hne : dir ≠ "" := by
    rintro rfl
    simpa [Path.segments, Text.splitAt] using congrArg List.length hdir
  obtain ⟨above, hjoin, -, habove | habove⟩ := Path.segments_join hne hname
  · have hpath := Path.joinWith_segments dir
    rw [← habove, hdir, List.cons_append, List.cons_append] at hjoin
    rw [hdir, List.cons_append] at hpath
    have htrim : Path.trim (rest ++ [last]) = rest ++ [last] := by
      rw [Path.trim, List.reverse_append, List.reverse_singleton, List.singleton_append,
        Path.dropEmpty_of_notBlank hlast, List.reverse_cons, List.reverse_reverse]
    rw [Path.directory_of_segments hjoin hname.notBlank, htrim, if_neg (by simp), hpath,
      String.ofList_toList]
  · obtain ⟨-, hlast'⟩ := List.append_inj' (hdir.symm.trans habove) rfl
    exact absurd (.inl (List.singleton_inj.1 hlast')) hlast

/-- A file as it is written for the first time stays as it is. -/
theorem Target.behind_full {t : Target} (h : t.Supersedes t) (obstacle : Option Error)
    (mode : Nat) : (t.behind obstacle (some (.file (.text t.full) mode))).2 = .ok .unchanged := by
  simp [Target.behind, Target.plan, Target.revise, h.full, Except.map]

/-- A target fails on what is in its way if it has other bytes for a file. -/
theorem Target.behind_blocked {t : Target} {existing fresh : Text} {mode : Nat}
    (hmerge : (merge t.regions t.fragments existing).result = .ok fresh) (hne : fresh ≠ existing)
    (e : Error) : (t.behind (some e) (some (.file (.text existing) mode))).2 = .error e := by
  simp [Target.behind, Target.plan, Target.revise, hmerge, hne, Except.map]

/-- A path of almost the greatest length, below which an index can be read but not be replaced. The
index has the models in the first order already, so only the second one fails. -/
theorem generate_in_any_order_long_path :
    let a : Model := ⟨"a", []⟩
    let b : Model := ⟨"b", []⟩
    let s : Store := ⟨["work"], [(["work"], .directory), (["work", "d"], .directory),
      (["work", "index.ts"], .file (.text (Index.file [a, b])) 0o644),
      (["work", "a.ts"], .file (.text a.file) 0o644),
      (["work", "b.ts"], .file (.text b.file) 0o644)]⟩
    let dir := zigzag 816
    s.isDirectory dir = true ∧ [a, b].Perm [b, a] ∧ ([a, b].map (·.name)).Nodup ∧
      (∀ m ∈ [a, b], '/' ∉ m.name.toList ∧ '\x00' ∉ m.name.toList) ∧
      checkPaths dir [a, b] = .ok () ∧
      (generate s dir [a, b]).result = .ok { unchanged := 3 } ∧
      ∃ e, (generate s dir [b, a]).result = .error e := by
  intro a b s dir
  have hleads : s.Leads dir ["work"] := leads_zigzag rfl rfl (by decide)
  have hbytes : dir.utf8ByteSize = 4084 := utf8ByteSize_zigzag 816
  have hrelative : Path.isAbsolute dir = false := zigzag_relative 816
  have habove (name : String) (hname : Path.IsName name) :
      Path.directory (Path.join dir name) = dir := by
    have hsegments : Path.segments dir =
        ((List.replicate 816 [['d'], ['.', '.']]).flatten ++ [['d']]) ++ [['.', '.']] :=
      (segments_zigzag 816).trans (List.append_assoc _ [['d']] [['.', '.']]).symm
    have hparts : (List.replicate 816 [['d'], ['.', '.']]).flatten ++ [['d']] ≠ [] :=
      List.append_ne_nil_of_right_ne_nil _ (List.cons_ne_nil _ _)
    exact directory_join_eq hsegments hparts (by simp [Path.IsBlank]) hname
  -- From here on only the length of the path counts, and where it leads.
  generalize dir = dir at hbytes hrelative hleads habove ⊢
  have hnames : ([a, b].map (·.name)).Nodup := by decide
  have hallowed : ∀ m ∈ [a, b], '/' ∉ m.name.toList ∧ '\x00' ∉ m.name.toList := by decide
  have hslash : ∀ m ∈ [a, b], '/' ∉ m.name.toList := fun m hm => (hallowed m hm).1
  have hcheck : checkPaths dir [a, b] = .ok () := by
    cases hresult : checkPaths dir [a, b] with
    | ok _ => rfl
    | error e => exact absurd ((checkPaths_error_iff dir hslash).1 ⟨e, hresult⟩) (by decide)
  have hcheck' : checkPaths dir [b, a] = .ok () := checkPaths_perm (.swap _ _ _) hcheck
  -- All three files are in place.
  have hfound (name : String) (hname : name ∈ ["index", "a", "b"]) :
      s.at? (Path.join dir (name ++ ".ts")) = s.node? ["work", name ++ ".ts"] := by
    have hparts : '/' ∉ name.toList ∧ '\x00' ∉ (name ++ ".ts").toList ∧
        (name ++ ".ts").utf8ByteSize ≤ 8 := by
      revert name
      decide
    obtain ⟨hslash, hnul, hshort⟩ := hparts
    have hisName := Path.isName_ts hslash
    have hjoin := Path.utf8ByteSize_join_le hleads.dir_ne hisName
    refine Store.at?_of_locate (locate_of_short hleads hisName hnul ?_ ?_)
    · exact hshort.trans (by decide)
    · rw [Store.maxPathLength]
      omega
  have hclean : ∀ m ∈ [a, b], ∀ t ∈ m.texts, ¬ Marker.stem <:+: t := by decide
  have hnodes : ∀ t ∈ Target.all dir [a, b], s.at? t.path = some (.file (.text t.full) 0o644) := by
    refine List.forall_mem_cons.2 ⟨(hfound "index" (by decide)).trans rfl, ?_⟩
    refine List.forall_mem_cons.2 ⟨(hfound "a" (by decide)).trans rfl, ?_⟩
    exact List.forall_mem_singleton.2 ((hfound "b" (by decide)).trans rfl)
  have hself : ∀ t ∈ Target.all dir [a, b], (t.effect s).2 = .ok .unchanged := by
    intro t ht
    rw [Target.effect, hnodes t ht]
    exact Target.behind_full (Target.supersedes_of_path hleads.dir_ne
      (List.forall_mem_append.2 ⟨hslash, hslash⟩) hclean hcheck hcheck ht ht rfl) _ _
  have hobstacle : s.obstacle? (Target.index dir [b, a]).path =
      some (.file "creating temporary file in" dir .nameTooLong) := by
    have habove' : Path.directory (Target.index dir [b, a]).path = dir :=
      habove "index.ts" ⟨by decide, by simp [Path.IsBlank], by decide⟩
    have hwork : ("/work/" : String).utf8ByteSize = 6 := by decide
    have hlong : Store.maxPathLength < s.temporaryLength dir := by
      simp [Store.temporaryLength, hrelative, hbytes, Store.maxPathLength, s, hwork]
    simp only [Store.obstacle?, habove', hlong, if_true]
  have hindex : ∃ e, ((Target.index dir [b, a]).effect s).2 = .error e := by
    have hsupersedes : (Target.index dir [b, a]).Supersedes (Target.index dir [a, b]) :=
      Target.supersedes_index dir fun m hm => hclean m hm _ List.mem_cons_self
    have hne : Index.file [b, a] ≠ Index.file [a, b] := by decide
    have hnode : s.at? (Target.index dir [b, a]).path =
        some (.file (.text (Index.file [a, b])) 0o644) :=
      hnodes (Target.index dir [a, b]) List.mem_cons_self
    rw [Target.effect, hobstacle, hnode]
    exact ⟨_, Target.behind_blocked hsupersedes.full hne _⟩
  obtain ⟨-, hresult, -, -⟩ := generate_entries hleads hnames hslash hcheck
  obtain ⟨-, hresult', -, -⟩ := generate_entries hleads (by decide) (by decide) hcheck'
  refine ⟨Store.isDirectory_iff.2 ⟨_, hleads⟩, .swap _ _ _, hnames, hallowed, hcheck, ?_, ?_⟩
  · rw [hresult, List.map_congr_left hself]
    rfl
  · cases hfinal : (generate s dir [b, a]).result with
    | error e => exact ⟨e, rfl⟩
    | ok summary =>
      obtain ⟨e, he⟩ := hindex
      obtain ⟨outcome, hok⟩ := Summary.exists_outcome (hresult' ▸ hfinal)
        (List.mem_map_of_mem List.mem_cons_self)
      cases he.symm.trans hok

end Order

end SqlModels
