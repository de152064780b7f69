import SqlModels.Files.Generation
import SqlModels.Proofs.Files.Store

/-!
What an attempt to write a target does to a store, and a pass over targets of different paths: each
one decides on what stands at its path, and changes nothing else.
-/

namespace SqlModels.Target

open Store (IsEntry)

/-- What a target does about what stands at its path: it fails, leaves that as it is, or has a file
to put in its place. -/
def plan (t : Target) : Option Node → Except Error (Option (Node × Outcome))
  | none => .ok (some (.file (.text t.full) newMode, .created))
  | some .directory => .error (.file "reading" t.path .isADirectory)
  | some (.file (.binary _) _) => .error (.file "reading" t.path .invalidText)
  | some (.file (.text existing) mode) =>
    (t.revise existing).result.map (Option.map fun text => (.file (.text text) mode, .updated))

/-- What stands at the path behind an attempt, and its result; an obstacle keeps files from being
put there. -/
def behind (t : Target) (obstacle : Option Error) (node : Option Node) :
    Option Node × Except Error Outcome :=
  match t.plan node with
  | .error e => (node, .error e)
  | .ok none => (node, .ok .unchanged)
  | .ok (some (new, outcome)) =>
    match obstacle with
    | some e => (node, .error e)
    | none => (some new, .ok outcome)

/-- What an attempt in a store does at the path of a target, and its result. -/
def effect (t : Target) (s : Store) : Option Node × Except Error Outcome :=
  t.behind (s.obstacle? t.path) (s.at? t.path)

variable {t : Target} {s : Store} {dir : String} {d : Place}

/-- An attempt at a path has an effect on what stands there only. -/
structure Touches (t : Target) (s : Store) (attempt : Attempt)
    (effect : Option Node × Except Error Outcome) : Prop where
  keeps : s.KeepsDirectories attempt.store
  node : attempt.store.at? t.path = effect.1
  result : attempt.result = effect.2
  others : ∀ p, s.locate t.path ≠ .ok p → attempt.store.node? p = s.node? p

theorem touches_idle (t : Target) (s : Store) (events : List Event)
    (result : Except Error Outcome) :
    t.Touches s ⟨s, events, result⟩ (s.at? t.path, result) :=
  ⟨.refl s, rfl, rfl, fun _ _ => rfl⟩

theorem replace_entry (h : s.Leads dir d) (hpath : IsEntry dir t.path)
    (hnode : s.at? t.path ≠ some .directory) (text : Text) (mode : Nat) (notes : List RegionNote)
    (event : Event) (outcome : Outcome) :
    t.Touches s (t.replace s text mode notes event outcome)
      (match s.obstacle? t.path with
      | some e => (s.at? t.path, .error e)
      | none => (some (.file (.text text) mode), .ok outcome)) := by
  unfold replace
  rcases Store.replaceFile_entry h hpath hnode text mode with
    ⟨e, hobstacle, hreplace⟩ | ⟨hobstacle, p, hlocate, hreplace⟩
  · simp only [hreplace, hobstacle]
    exact t.touches_idle s _ _
  · obtain ⟨hkeep, hnew, hothers⟩ :=
      Store.put_entry h hpath hlocate hnode (.file (.text text) mode)
    simp only [hreplace, hobstacle]
    refine ⟨hkeep, hnew, rfl, fun q hq => hothers q ?_⟩
    rintro rfl
    exact hq hlocate

/-- Writing a target is what it plans for its path, carried out unless there is an obstacle. -/
theorem write_entry (h : s.Leads dir d) (hpath : IsEntry dir t.path) :
    t.Touches s (t.write s) (t.effect s) := by
  have hidle (result : Except Error Outcome) (events : List Event) :=
    t.touches_idle s events result
  have hreplace := replace_entry h hpath
  unfold effect write Store.exists? Store.readText Store.modeOf behind
  unfold Store.at? at hidle hreplace ⊢
  cases hfind : s.find t.path with
  | error fault =>
    simp only [hfind, Except.toOption] at hreplace ⊢
    exact hreplace nofun t.full newMode [] _ .created
  | ok node =>
    simp only [hfind, Except.toOption] at hidle hreplace ⊢
    match node with
    | .directory => exact hidle _ _
    | .file (.binary bytes) mode => exact hidle _ _
    | .file (.text existing) mode =>
      simp only [Option.isSome_some, if_true, plan]
      cases hrevise : (t.revise existing).result with
      | error e =>
        simp only [Except.map]
        exact hidle _ _
      | ok revised =>
        cases revised with
        | none =>
          simp only [Except.map, Option.map_none]
          exact hidle _ _
        | some text =>
          simp only [Except.map, Option.map_some]
          exact hreplace nofun text mode _ _ .updated

/-- A replacement never ends without a change: it fails, or it has created or updated the file. -/
theorem replace_ne_unchanged {text : Text} {mode : Nat} {notes : List RegionNote} {event : Event}
    {outcome : Outcome} (h : outcome ≠ .unchanged) :
    (t.replace s text mode notes event outcome).result ≠ .ok .unchanged := by
  unfold replace
  split
  · simpa using h
  · simp

theorem write_unchanged (h : (t.write s).result = .ok .unchanged) : (t.write s).store = s := by
  revert h
  unfold write
  split
  · split
    · exact fun _ => rfl
    · dsimp only
      split
      · exact fun _ => rfl
      · exact fun _ => rfl
      · exact fun h => absurd h (replace_ne_unchanged nofun)
  · exact fun h => absurd h (replace_ne_unchanged nofun)

theorem exists_of_readText {existing : Text} (h : s.readText t.path = .ok existing) :
    s.exists? t.path = true := by
  unfold Store.readText at h
  cases hfind : s.find t.path with
  | ok node => rw [Store.exists?, hfind, Except.toOption, Option.isSome_some]
  | error fault => simp [hfind] at h

/-- A file is left unchanged exactly if the merge into it gives what it has in it. -/
theorem write_unchanged_iff {existing : Text} (hread : s.readText t.path = .ok existing) :
    (t.write s).result = .ok .unchanged ↔
      (merge t.regions t.fragments existing).result = .ok existing := by
  unfold write
  rw [if_pos (exists_of_readText hread), hread]
  cases hmerge : (merge t.regions t.fragments existing).result with
  | error e => simp [revise, hmerge]
  | ok text =>
    by_cases hsame : text = existing
    · simp [revise, hmerge, hsame]
    · simp only [revise, hmerge, if_neg hsame, Except.ok.injEq]
      exact iff_of_false (replace_ne_unchanged nofun) hsame

/-- A pass that changes no file leaves the store as it is. -/
theorem writeAll_unchanged {targets : List Target}
    (h : ∀ result ∈ (writeAll s targets).results, result = .ok .unchanged) :
    (writeAll s targets).store = s := by
  induction targets generalizing s with
  | nil => rfl
  | cons t rest ih =>
    obtain ⟨hfirst, hrest⟩ := List.forall_mem_cons.1 h
    rw [write_unchanged hfirst] at hrest
    rw [writeAll, write_unchanged hfirst]
    exact ih hrest

/-- What stands at the paths of other entries stays there. -/
theorem Touches.elsewhere {attempt : Attempt} {effect : Option Node × Except Error Outcome}
    (htouch : t.Touches s attempt effect) (h : s.Leads dir d) (hpath : IsEntry dir t.path)
    {other : String} (hother : IsEntry dir other) (hne : other ≠ t.path) :
    attempt.store.at? other = s.at? other := by
  refine Store.at?_entry h hother (h.keep htouch.keeps) fun p hp => htouch.others p fun hsame => ?_
  exact Store.entries_apart h hpath hsame hother hne hp

/-- A pass over targets of different paths has the effect of each of them on the store it starts
from. -/
theorem writeAll_entries {targets : List Target} (h : s.Leads dir d)
    (hpaths : ∀ t ∈ targets, IsEntry dir t.path) (hdistinct : (targets.map (·.path)).Nodup) :
    s.KeepsDirectories (writeAll s targets).store ∧
      (writeAll s targets).results = targets.map (fun t => (t.effect s).2) ∧
      (∀ t ∈ targets, (writeAll s targets).store.at? t.path = (t.effect s).1) ∧
      ∀ p, (∀ t ∈ targets, s.locate t.path ≠ .ok p) →
        (writeAll s targets).store.node? p = s.node? p := by
  induction targets generalizing s with
  | nil => exact ⟨.refl s, rfl, nofun, fun _ _ => rfl⟩
  | cons t rest ih =>
    obtain ⟨hpath, hrest⟩ := List.forall_mem_cons.1 hpaths
    rw [List.map_cons, List.nodup_cons] at hdistinct
    have hne : ∀ u ∈ rest, u.path ≠ t.path := fun u hu hsame =>
      hdistinct.1 (hsame ▸ List.mem_map_of_mem hu)
    have htouch := write_entry h hpath
    have hnext := h.keep htouch.keeps
    obtain ⟨hkeeps, hresults, hnodes, hothers⟩ := ih hnext hrest hdistinct.2
    -- The targets behind the first one find what they would have found before it.
    have hsame : ∀ u ∈ rest, u.effect (t.write s).store = u.effect s := by
      intro u hu
      rw [effect, effect, htouch.elsewhere h hpath (hrest u hu) (hne u hu),
        Store.obstacle?_entry h (hrest u hu) hnext htouch.keeps.workingDirectory]
    have hlocate : ∀ u ∈ t :: rest, (t.write s).store.locate u.path = s.locate u.path :=
      fun u hu => Store.locate_entry h (hpaths u hu) hnext
    refine ⟨htouch.keeps.trans hkeeps, ?_, List.forall_mem_cons.2 ⟨?_, ?_⟩, fun p hp => ?_⟩
    · rw [writeAll, List.map_cons, ← htouch.result, hresults]
      exact congrArg _ (List.map_congr_left fun u hu => by rw [hsame u hu])
    · rw [← htouch.node]
      refine Store.at?_entry hnext hpath (hnext.keep hkeeps) fun p hp => hothers p fun u hu => ?_
      exact Store.entries_apart hnext hpath hp (hrest u hu) (hne u hu)
    · intro u hu
      rw [← hsame u hu]
      exact hnodes u hu
    · obtain ⟨hpt, hprest⟩ := List.forall_mem_cons.1 hp
      rw [← htouch.others p hpt]
      refine hothers p fun u hu => ?_
      rw [hlocate u (List.mem_cons_of_mem t hu)]
      exact hprest u hu

end SqlModels.Target
