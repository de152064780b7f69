import SqlModels.Proofs.Region.Survey

/-!
Texts cut at the markers of their regions. A merge puts fresh bodies between markers and keeps all
the rest.
-/

namespace SqlModels

/-- A region of a text and what stands behind it, up to the next region. -/
structure Block where
  region : Region
  body : Text
  after : Text

namespace Block

def text (b : Block) : Text :=
  b.region.beginMarker.toList ++ (b.body ++ (b.region.endMarker.toList ++ b.after))

/-- The block with the fresh body of its region, if there is one. -/
def refill (fragments : Fragments) (b : Block) : Block :=
  match fragments b.region with
  | some fresh => { b with body := '\n' :: fresh }
  | none => b

@[simp] theorem refill_region (fragments : Fragments) (b : Block) :
    (b.refill fragments).region = b.region := by
  unfold refill
  split <;> rfl

theorem refill_of_none {fragments : Fragments} {b : Block} (h : fragments b.region = none) :
    b.refill fragments = b := by
  rw [refill, h]

theorem refill_of_some {fragments : Fragments} {b : Block} {fresh : Text}
    (h : fragments b.region = some fresh) :
    b.refill fragments = { b with body := '\n' :: fresh } := by
  rw [refill, h]

end Block

/-- A text that begins with `head` and goes on with blocks. -/
structure Layout where
  head : Text
  blocks : List Block

namespace Layout

def text (l : Layout) : Text :=
  l.head ++ l.blocks.flatMap Block.text

def regions (l : Layout) : List Region :=
  l.blocks.map Block.region

def refill (fragments : Fragments) (l : Layout) : Layout :=
  { l with blocks := l.blocks.map (Block.refill fragments) }

/-- The spans of blocks, the first of which begins at the offset `start`. -/
def spansFrom (start : Nat) : List Block → List Span
  | [] => []
  | b :: rest =>
    ⟨b.region, start, start + b.region.beginMarker.length + b.body.length⟩
      :: spansFrom (start + b.text.length) rest

def spans (l : Layout) : List Span :=
  spansFrom l.head.length l.blocks

variable {l : Layout} {b : Block} {rest : List Block} {head : Text}

@[simp] theorem text_nil : text ⟨head, []⟩ = head :=
  List.append_nil head

@[simp] theorem text_cons : text ⟨head, b :: rest⟩ = head ++ (b.region.beginMarker.toList ++
    (b.body ++ (b.region.endMarker.toList ++ text ⟨b.after, rest⟩))) := by
  simp only [Layout.text, List.flatMap_cons, Block.text, List.append_assoc]

theorem text_append : text ⟨head ++ b.text, rest⟩ = text ⟨head, b :: rest⟩ := by
  simp only [Layout.text, List.flatMap_cons, List.append_assoc]

@[simp] theorem regions_refill (fragments : Fragments) :
    (l.refill fragments).regions = l.regions := by
  simp [Layout.regions, refill, Function.comp_def]

theorem text_refill_of_none {fragments : Fragments} (h : fragments b.region = none) :
    (refill fragments ⟨head, b :: rest⟩).text = (refill fragments ⟨head ++ b.text, rest⟩).text := by
  simp only [refill, List.map_cons, Block.refill_of_none h, text_append]

theorem text_refill_of_some {fragments : Fragments} {fresh : Text}
    (h : fragments b.region = some fresh) : (refill fragments ⟨head, b :: rest⟩).text =
      head ++ (b.region.beginMarker.toList ++ ('\n' :: fresh ++
        (b.region.endMarker.toList ++ (refill fragments ⟨b.after, rest⟩).text))) := by
  simp only [refill, List.map_cons, Block.refill_of_some h, text_cons]

/-- Splicing at the spans of a layout refills it. The parts before the cursor are done with, and
regions without a fresh body have become part of the head. -/
theorem splice_spansFrom (fragments : Fragments) (blocks : List Block) (before head : Text) :
    splice fragments (before ++ text ⟨head, blocks⟩) before.length
      (spansFrom (before.length + head.length) blocks) =
    (refill fragments ⟨head, blocks⟩).text := by
  induction blocks generalizing before head with
  | nil => simp [splice, spansFrom, refill]
  | cons b rest ih =>
    cases hf : fragments b.region with
    | none =>
      have ih := ih before (head ++ b.text)
      rw [text_append, List.length_append, ← Nat.add_assoc] at ih
      simp only [spansFrom, splice, hf]
      rw [ih, text_refill_of_none hf]
    | some fresh =>
      -- the cursor moves to the end marker, which becomes part of the next head
      have hcut : before ++ text ⟨head, b :: rest⟩ =
          before ++ (head ++ (b.region.beginMarker.toList ++ b.body)) ++
            text ⟨b.region.endMarker.toList ++ b.after, rest⟩ := by
        simp [Layout.text, Block.text]
      have hcursor : before.length + head.length + b.region.beginMarker.length + b.body.length =
          (before ++ (head ++ (b.region.beginMarker.toList ++ b.body))).length := by
        simp only [List.length_append, String.length_toList, Nat.add_assoc]
      have hstart : before.length + head.length + b.text.length =
          (before ++ (head ++ (b.region.beginMarker.toList ++ b.body))).length +
            (b.region.endMarker.toList ++ b.after).length := by
        simp only [Block.text, List.length_append, Nat.add_assoc]
      have htake : ((before ++ text ⟨head, b :: rest⟩).drop before.length).take
          (before.length + head.length - before.length) = head := by
        rw [List.drop_left, Nat.add_sub_cancel_left, text_cons, List.take_left]
      simp only [spansFrom, splice, hf]
      rw [htake, hcut, hcursor, hstart, ih, text_refill_of_some hf]
      simp [refill, Layout.text]

theorem splice_spans (fragments : Fragments) (l : Layout) :
    splice fragments l.text 0 l.spans = (l.refill fragments).text := by
  have h := splice_spansFrom fragments l.blocks [] l.head
  rw [List.nil_append, List.length_nil, Nat.zero_add] at h
  exact h

theorem le_of_mem_spansFrom {start : Nat} {blocks : List Block} {s : Span}
    (h : s ∈ spansFrom start blocks) : start ≤ s.beginsAt := by
  induction blocks generalizing start with
  | nil => cases h
  | cons b rest ih =>
    rcases List.mem_cons.1 h with rfl | h
    · exact le_rfl
    · exact (Nat.le_add_right _ _).trans (ih h)

theorem pairwise_spansFrom (start : Nat) (blocks : List Block) :
    (spansFrom start blocks).Pairwise Span.Precedes := by
  induction blocks generalizing start with
  | nil => exact .nil
  | cons b rest ih =>
    refine .cons (fun s hs => ?_) (ih _)
    have hle := le_of_mem_spansFrom hs
    simp only [Block.text, List.length_append, String.length_toList] at hle
    simp only [Span.Precedes, Span.stop]
    omega

theorem map_region_spansFrom (start : Nat) (blocks : List Block) :
    (spansFrom start blocks).map Span.region = blocks.map Block.region := by
  induction blocks generalizing start with
  | nil => rfl
  | cons b rest ih => rw [spansFrom, List.map_cons, List.map_cons, ih]

theorem cuts_of_mem_spansFrom {s : Span} (blocks : List Block) (head : Text)
    (h : s ∈ spansFrom head.length blocks) : s.Cuts (text ⟨head, blocks⟩) := by
  induction blocks generalizing head with
  | nil => cases h
  | cons b rest ih =>
    rcases List.mem_cons.1 h with rfl | h
    · exact ⟨head, b.body, text ⟨b.after, rest⟩, text_cons, rfl, rfl⟩
    · rw [← List.length_append] at h
      exact text_append ▸ ih _ h

/-- Spans that lie one behind the other cut a text into a layout. -/
theorem exists_of_spans (spans : List Span) (before rest : Text)
    (hcuts : ∀ s ∈ spans, before.length ≤ s.beginsAt ∧ s.Cuts (before ++ rest))
    (hspans : spans.Pairwise Span.Precedes) :
    ∃ l : Layout, l.text = rest ∧ spansFrom (before.length + l.head.length) l.blocks = spans := by
  induction spans generalizing before rest with
  | nil => exact ⟨⟨rest, []⟩, text_nil, rfl⟩
  | cons s more ih =>
    rw [List.pairwise_cons] at hspans
    obtain ⟨hle, a, w, c, htext, hbegin, hend⟩ := hcuts s List.mem_cons_self
    -- `before` ends at the end marker of the span cut out last, in front of all that are left
    have hprefix : before <+: a := by
      refine List.prefix_of_prefix_length_le (List.prefix_append before rest) ?_ (hbegin ▸ hle)
      exact htext ▸ List.prefix_append _ _
    obtain ⟨head, rfl⟩ := hprefix
    rw [List.append_assoc, List.append_cancel_left_eq] at htext
    subst htext
    have hbehind : before ++ (head ++ (s.region.beginMarker.toList ++
        (w ++ (s.region.endMarker.toList ++ c)))) = before ++ (head ++
        (s.region.beginMarker.toList ++ (w ++ s.region.endMarker.toList))) ++ c := by
      simp only [List.append_assoc]
    obtain ⟨l, rfl, hl⟩ := ih (before ++ (head ++
        (s.region.beginMarker.toList ++ (w ++ s.region.endMarker.toList)))) c (by
      intro t ht
      refine ⟨?_, hbehind ▸ (hcuts t (List.mem_cons_of_mem s ht)).2⟩
      have hstop := hspans.1 t ht
      simp only [Span.Precedes, Span.stop, hend] at hstop
      simp only [List.length_append, String.length_toList] at hstop ⊢
      omega) hspans.2
    refine ⟨⟨head, ⟨s.region, w, l.head⟩ :: l.blocks⟩, text_cons, ?_⟩
    rw [List.length_append] at hbegin hend
    rw [spansFrom, ← hl]
    dsimp only
    rw [← hend, ← hbegin]
    congr 2
    simp only [Block.text, hbegin, List.length_append, Nat.add_assoc]

/-- The blocks of a layout are the listed regions that lie in its text. -/
structure Fits (l : Layout) (regions : List Region) : Prop where
  tidy : ∀ r ∈ regions, r.IsTidy l.text
  regions_eq : l.regions = regions.filter (·.isLocated l.text)

theorem isLocated_of_mem {r : Region} (h : r ∈ l.regions) : r.isLocated l.text = true := by
  rw [Layout.regions, ← map_region_spansFrom l.head.length] at h
  obtain ⟨s, hs, rfl⟩ := List.mem_map.1 h
  exact (cuts_of_mem_spansFrom l.blocks l.head hs).isLocated

theorem fits_of_tidy (h : ∀ r ∈ l.regions, r.IsTidy l.text) : l.Fits l.regions :=
  ⟨h, (List.filter_eq_self.2 fun _ hr => isLocated_of_mem hr).symm⟩

theorem length_offsets_cons (m : Marker) :
    (Text.offsets m.text (text ⟨head, b :: rest⟩)).length =
      (Text.offsets m.text head).length + (if Marker.opening b.region = m then 1 else 0) +
        (Text.offsets m.text b.body).length + (if Marker.closing b.region = m then 1 else 0) +
          (Text.offsets m.text (text ⟨b.after, rest⟩)).length := by
  have hbegin := (Marker.opening b.region).offsets_around m head
    (b.body ++ (b.region.endMarker.toList ++ text ⟨b.after, rest⟩))
  have hend := (Marker.closing b.region).offsets_around m b.body (text ⟨b.after, rest⟩)
  rw [Marker.text_opening] at hbegin
  rw [Marker.text_closing] at hend
  rw [text_cons, hbegin, hend]
  simp only [List.length_append, List.length_map, apply_ite List.length, List.length_singleton,
    List.length_nil]
  omega

/-- Every marker of the text is one of a block's, and no region has two blocks. -/
structure Clean (l : Layout) : Prop where
  head : Marker.Absent l.head
  body : ∀ b ∈ l.blocks, Marker.Absent b.body
  after : ∀ b ∈ l.blocks, Marker.Absent b.after
  nodup : l.regions.Nodup

theorem Clean.nil (hhead : Marker.Absent head) : Clean ⟨head, []⟩ :=
  ⟨hhead, nofun, nofun, .nil⟩

theorem Clean.cons (hbody : Marker.Absent b.body) (hafter : Marker.Absent b.after)
    (hnew : b.region ∉ rest.map Block.region) (h : Clean ⟨head, rest⟩) :
    Clean ⟨head, b :: rest⟩ :=
  ⟨h.head, List.forall_mem_cons.2 ⟨hbody, h.body⟩, List.forall_mem_cons.2 ⟨hafter, h.after⟩,
    List.nodup_cons.2 ⟨hnew, h.nodup⟩⟩

theorem Clean.absent_of_body (h : l.Clean) {fresh : Text}
    (hbody : '\n' :: fresh ∈ l.blocks.map Block.body) : Marker.Absent fresh := by
  obtain ⟨b, hb, hsame⟩ := List.mem_map.1 hbody
  exact (hsame ▸ h.body b hb).of_cons

theorem length_offsets_of_absent (m : Marker) (blocks : List Block) (head : Text)
    (hhead : Marker.Absent head) (hbody : ∀ b ∈ blocks, Marker.Absent b.body)
    (hafter : ∀ b ∈ blocks, Marker.Absent b.after) :
    (Text.offsets m.text (text ⟨head, blocks⟩)).length =
      (blocks.map Block.region).count m.region := by
  induction blocks generalizing head with
  | nil =>
    rw [text_nil, Text.offsets_eq_nil_iff.2 (hhead m)]
    rfl
  | cons b rest ih =>
    rw [List.forall_mem_cons] at hbody hafter
    rw [length_offsets_cons, ih b.after hafter.1 hbody.2 hafter.2,
      Text.offsets_eq_nil_iff.2 (hhead m), Text.offsets_eq_nil_iff.2 (hbody.1 m), List.map_cons,
      List.count_cons]
    cases m <;> simp [Marker.region, Nat.add_comm]

theorem Clean.fits (h : l.Clean) : l.Fits l.regions := by
  have hone (m : Marker) (hm : m.region ∈ l.regions) :
      (Text.offsets m.text l.text).length = 1 := by
    rw [← List.count_eq_one_of_mem h.nodup hm]
    exact length_offsets_of_absent m l.blocks l.head h.head h.body h.after
  apply fits_of_tidy
  intro r hr
  exact Region.isTidy_iff_length.2
    (.inr (.inr ⟨hone (.opening r) hr, hone (.closing r) hr, isLocated_of_mem hr⟩))

variable {regions : List Region}

theorem Fits.spansIn_eq (h : l.Fits regions) : Region.spansIn regions l.text = l.spans := by
  have hmem : ∀ s ∈ l.spans, s.region ∈ l.regions := by
    intro s hs
    rw [Layout.regions, ← map_region_spansFrom l.head.length]
    exact List.mem_map_of_mem hs
  have hspan : ∀ s ∈ l.spans, s.region.span? l.text = some s := by
    intro s hs
    have hr := hmem s hs
    rw [h.regions_eq] at hr
    exact (cuts_of_mem_spansFrom l.blocks l.head hs).span?_eq
      (h.tidy _ (List.mem_of_mem_filter hr))
  calc
    Region.spansIn regions l.text
      = (regions.filter (·.isLocated l.text)).filterMap (·.span? l.text) := by
        rw [List.filterMap_filter]
        apply List.filterMap_congr
        intro r hr
        rw [Region.isLocated_eq (h.tidy r hr)]
        cases r.span? l.text <;> rfl
    _ = (l.spans.map Span.region).filterMap (·.span? l.text) := by
        rw [← h.regions_eq, Layout.regions, Layout.spans, map_region_spansFrom]
    _ = l.spans.filterMap some := by
        rw [List.filterMap_map]
        exact List.filterMap_congr hspan
    _ = l.spans := List.filterMap_some

theorem Fits.wellFormed (h : l.Fits regions) : Region.WellFormed regions l.text :=
  ⟨h.tidy, h.spansIn_eq ▸ pairwise_spansFrom _ _⟩

theorem Fits.merge_result (h : l.Fits regions) (fragments : Fragments) :
    (merge regions fragments l.text).result = .ok (l.refill fragments).text := by
  rw [merge_eq fragments h.wellFormed, h.spansIn_eq, splice_spans]

end Layout

theorem Region.WellFormed.exists_layout {regions : List Region} {text : Text}
    (h : Region.WellFormed regions text) : ∃ l : Layout, l.text = text ∧ l.Fits regions := by
  obtain ⟨l, rfl, hl⟩ := Layout.exists_of_spans (Region.spansIn regions text) [] text (by
    intro s hs
    obtain ⟨r, -, hr⟩ := Region.mem_spansIn.1 hs
    exact ⟨Nat.zero_le _, Region.cuts_of_span? hr⟩) h.2
  refine ⟨l, rfl, h.1, ?_⟩
  rw [Layout.regions, ← Layout.map_region_spansFrom, hl, Region.spansIn, List.map_filterMap,
    ← List.filterMap_eq_filter]
  apply List.filterMap_congr
  intro r hr
  rw [Option.guard, Region.isLocated_eq (h.1 r hr)]
  cases hs : r.span? l.text with
  | none => rfl
  | some s => simp [(Region.span?_eq_some.1 hs).2.2.2]

end SqlModels
