import SqlModels.Proofs.Region.Layout

namespace SqlModels

namespace Layout

variable {l : Layout} {b : Block} {rest : List Block} {head : Text} {regions : List Region}
  {fragments : Fragments}

/-- Blocks without a fresh body count as part of what stands between the others. -/
theorem exists_filled (fragments : Fragments) (blocks : List Block) (head : Text) :
    ∃ l : Layout, l.text = text ⟨head, blocks⟩ ∧
      (l.refill fragments).text = (refill fragments ⟨head, blocks⟩).text ∧
      l.regions = (blocks.map Block.region).filter fun r => (fragments r).isSome := by
  induction blocks generalizing head with
  | nil => exact ⟨⟨head, []⟩, rfl, rfl, rfl⟩
  | cons b rest ih =>
    cases hf : fragments b.region with
    | none =>
      obtain ⟨l, htext, hrefill, hregions⟩ := ih (head ++ b.text)
      refine ⟨l, htext.trans text_append, hrefill.trans (text_refill_of_none hf).symm, ?_⟩
      rw [hregions, List.map_cons, List.filter_cons_of_neg (by simp [hf])]
    | some fresh =>
      obtain ⟨l, htext, hrefill, hregions⟩ := ih b.after
      refine ⟨⟨head, ⟨b.region, b.body, l.head⟩ :: l.blocks⟩, ?_, ?_, ?_⟩
      · rw [text_cons, text_cons, ← htext]
      · rw [text_refill_of_some (b := ⟨b.region, b.body, l.head⟩) hf, text_refill_of_some hf,
          ← hrefill]
      · rw [List.map_cons, List.filter_cons_of_pos (by simp [hf]), ← hregions]
        rfl

/-- Fresh bodies without markers bring no marker about. -/
theorem length_offsets_refill_le (m : Marker)
    (hclean : ∀ r, ∀ fresh ∈ fragments r, Marker.Absent fresh)
    (blocks : List Block) (head : Text) :
    (Text.offsets m.text (refill fragments ⟨head, blocks⟩).text).length ≤
      (Text.offsets m.text (text ⟨head, blocks⟩)).length := by
  induction blocks generalizing head with
  | nil => exact le_rfl
  | cons b rest ih =>
    have ih := ih b.after
    simp only [refill, List.map_cons] at ih ⊢
    rw [length_offsets_cons, length_offsets_cons, Block.refill_region]
    cases hf : fragments b.region with
    | none =>
      rw [Block.refill_of_none hf]
      omega
    | some fresh =>
      have hbody : Text.offsets m.text ('\n' :: fresh) = [] :=
        Text.offsets_eq_nil_iff.2 ((hclean _ _ hf).newline_cons m)
      rw [Block.refill_of_some hf]
      dsimp only
      rw [hbody, List.length_nil]
      omega

/-- A refilled layout has its regions where they were and lacks no more than it lacked. -/
theorem Fits.refill (h : l.Fits regions)
    (hclean : ∀ r, ∀ fresh ∈ fragments r, Marker.Absent fresh) :
    (l.refill fragments).Fits regions := by
  have hregion : ∀ r ∈ regions, r.IsTidy (l.refill fragments).text ∧
      r.isLocated (l.refill fragments).text = r.isLocated l.text := by
    intro r hr
    have hbegins : (r.begins (l.refill fragments).text).length ≤ (r.begins l.text).length :=
      length_offsets_refill_le (.opening r) hclean l.blocks l.head
    have hends : (r.ends (l.refill fragments).text).length ≤ (r.ends l.text).length :=
      length_offsets_refill_le (.closing r) hclean l.blocks l.head
    apply (h.tidy r hr).of_fewer hbegins hends
    -- a located region has a block, whose markers a fresh body leaves in place
    intro hin
    have hmem : r ∈ l.regions := h.regions_eq ▸ List.mem_filter.2 ⟨hr, hin⟩
    apply isLocated_of_mem
    rwa [regions_refill]
  refine ⟨fun r hr => (hregion r hr).1, ?_⟩
  rw [regions_refill, h.regions_eq]
  exact List.filter_congr fun r hr => (hregion r hr).2.symm

theorem refill_refill {first second : Fragments}
    (hcover : ∀ r, (first r).isSome → (second r).isSome) :
    (l.refill first).refill second = l.refill second := by
  simp only [Layout.refill, List.map_map]
  congr 1
  apply List.map_congr_left
  intro b _
  rw [Function.comp_apply]
  cases hs : second b.region with
  | none =>
    have hf : first b.region = none := by
      have := hcover b.region
      simpa [hs] using this
    rw [Block.refill_of_none hf]
  | some fresh =>
    rw [Block.refill_of_some hs, Block.refill_of_some (by rwa [Block.refill_region])]
    cases hf : first b.region with
    | none => rw [Block.refill_of_none hf]
    | some _ => rw [Block.refill_of_some hf]

theorem Fits.merge_refilled {first second : Fragments} (h : l.Fits regions)
    (hclean : ∀ r, ∀ fresh ∈ first r, Marker.Absent fresh)
    (hcover : ∀ r, (first r).isSome → (second r).isSome) :
    (merge regions second (l.refill first).text).result = .ok (l.refill second).text := by
  rw [(h.refill hclean).merge_result, refill_refill hcover]

end Layout

/-- A file with two regions, edited around them. -/
def editedFile : Layout :=
  ⟨"é\n".toList, [⟨.interfaceAttributes, "\nold\n".toList, " ✓\n".toList⟩,
    ⟨.classAttributes, "\nkept".toList, []⟩]⟩

/-- A fresh body for the first region only. -/
def freshAttributes : Fragments
  | .interfaceAttributes => some "new".toList
  | _ => none

theorem editedFile_clean : editedFile.Clean := by
  refine .cons (Marker.absent_of_stem (by decide)) (Marker.absent_of_stem (by decide))
    (by decide) ?_
  refine .cons (Marker.absent_of_stem (by decide)) (Marker.absent_of_stem (by decide))
    (by decide) ?_
  exact .nil (Marker.absent_of_stem (by decide))

/-- A merge keeps a text up to the bodies of the regions that lie in it and have a fresh body. -/
theorem merge_keeps_outside (regions : List Region) (fragments : Fragments) (text merged : Text)
    (h : (merge regions fragments text).result = .ok merged) :
    ∃ l : Layout, l.text = text ∧ (l.refill fragments).text = merged ∧
      l.regions = regions.filter fun r => r.isLocated text && (fragments r).isSome := by
  obtain ⟨whole, rfl, hfits⟩ := (wellFormed_of_merge h).exists_layout
  rw [hfits.merge_result] at h
  cases h
  obtain ⟨l, htext, hrefill, hregions⟩ := Layout.exists_filled fragments whole.blocks whole.head
  refine ⟨l, htext, hrefill, ?_⟩
  rw [hregions, ← Layout.regions, hfits.regions_eq, List.filter_filter]
  exact List.filter_congr fun r _ => Bool.and_comm _ _

theorem merge_keeps_outside_edited :
    (merge [.interfaceAttributes, .classAttributes] freshAttributes editedFile.text).result =
        .ok (editedFile.refill freshAttributes).text ∧
      ∃ l : Layout, l.text = editedFile.text ∧
        (l.refill freshAttributes).text = (editedFile.refill freshAttributes).text ∧
        l.regions = [.interfaceAttributes, .classAttributes].filter fun r =>
          r.isLocated editedFile.text && (freshAttributes r).isSome :=
  have h := editedFile_clean.fits.merge_result freshAttributes
  ⟨h, merge_keeps_outside _ _ _ _ h⟩

/-- A merge undoes an earlier one that had no markers in its fresh bodies and no fresh body for
other regions. -/
theorem merge_last_wins (regions : List Region) (first second : Fragments) (text once : Text)
    (hclean : ∀ r, ∀ fresh ∈ first r, ∀ m : Marker, ¬ m.text <:+: fresh)
    (hcover : ∀ r, (first r).isSome → (second r).isSome)
    (h : (merge regions first text).result = .ok once) :
    (merge regions second once).result = (merge regions second text).result ∧
      (merge regions first once).result = .ok once := by
  obtain ⟨l, rfl, hfits⟩ := (wellFormed_of_merge h).exists_layout
  rw [hfits.merge_result] at h
  cases h
  have hrefill := hfits.refill hclean
  constructor
  · rw [hrefill.merge_result, hfits.merge_result, Layout.refill_refill hcover]
  · rw [hrefill.merge_result, Layout.refill_refill fun _ => id]

theorem merge_last_wins_edited :
    let regions : List Region := [.interfaceAttributes, .classAttributes]
    let once := (editedFile.refill freshAttributes).text
    let emptied : Fragments := fun _ => some []
    (∀ r, ∀ fresh ∈ freshAttributes r, ∀ m : Marker, ¬ m.text <:+: fresh) ∧
      (∀ r, (freshAttributes r).isSome → (emptied r).isSome) ∧
      (merge regions freshAttributes editedFile.text).result = .ok once ∧
      (merge regions emptied once).result = (merge regions emptied editedFile.text).result ∧
      (merge regions freshAttributes once).result = .ok once := by
  have hclean : ∀ r, ∀ fresh ∈ freshAttributes r, Marker.Absent fresh := by
    intro r fresh hf
    cases r <;> cases hf
    exact Marker.absent_of_stem (by decide)
  have hmerge := editedFile_clean.fits.merge_result freshAttributes
  exact ⟨hclean, fun _ _ => rfl, hmerge,
    merge_last_wins _ freshAttributes _ _ _ hclean (fun _ _ => rfl) hmerge⟩

end SqlModels
