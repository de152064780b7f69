import SqlModels.Proofs.Text.Offsets
import SqlModels.Region.Basic
import Mathlib.Data.List.Nodup

/-!
The markers of all regions. No marker shares a character of a text with another one, which makes
their offsets additive.
-/

namespace SqlModels

inductive Marker
  | opening (r : Region)
  | closing (r : Region)
  deriving DecidableEq

namespace Marker

def text : Marker → Text
  | opening r => r.beginMarker.toList
  | closing r => r.endMarker.toList

def region : Marker → Region
  | opening r | closing r => r

/-- What all markers have in common. -/
def stem : Text :=
  "AutoGen".toList

@[simp] theorem text_opening (r : Region) : (opening r).text = r.beginMarker.toList := rfl

@[simp] theorem text_closing (r : Region) : (closing r).text = r.endMarker.toList := rfl

def all : List Marker :=
  (Region.ofIndex ++ Region.ofModel).flatMap fun r => [opening r, closing r]

theorem mem_all (m : Marker) : m ∈ all := by
  rcases m with r | r <;> cases r <;> decide

/-- What is decided about the spellings of the markers. -/
def Spelled (texts : List Text) : Prop :=
  texts.Nodup ∧ ∀ t ∈ texts, stem <:+: t ∧ '\n' ∉ t ∧ ∀ u ∈ texts, Text.RunsClear t u

instance (texts : List Text) : Decidable (Spelled texts) :=
  inferInstanceAs (Decidable (_ ∧ _))

theorem spelled_all : Spelled (all.map text) := by
  -- the strings are taken apart first, which is slow for the kernel to do again and again
  simp only [all, Region.ofIndex, Region.ofModel, List.cons_append, List.nil_append,
    List.flatMap_cons, List.flatMap_nil, List.map_cons, List.map_nil, text, Region.beginMarker,
    Region.endMarker, String.reduceToList]
  decide +kernel

theorem text_mem (m : Marker) : m.text ∈ all.map text :=
  List.mem_map_of_mem m.mem_all

theorem text_injective : Function.Injective text :=
  fun m n h => List.inj_on_of_nodup_map spelled_all.1 m.mem_all n.mem_all h

theorem stem_infix (m : Marker) : stem <:+: m.text :=
  (spelled_all.2 _ m.text_mem).1

theorem text_ne_nil (m : Marker) : m.text ≠ [] := by
  intro h
  have hstem := m.stem_infix
  rw [h, List.infix_nil] at hstem
  exact absurd hstem (by decide)

theorem newline_not_mem (m : Marker) : '\n' ∉ m.text :=
  (spelled_all.2 _ m.text_mem).2.1

theorem runsClear (m n : Marker) : Text.RunsClear m.text n.text :=
  (spelled_all.2 _ m.text_mem).2.2 _ n.text_mem

theorem offsets_around (m n : Marker) (a c : Text) :
    Text.offsets n.text (a ++ (m.text ++ c)) = Text.offsets n.text a ++
      ((if m = n then [a.length] else []) ++
        (Text.offsets n.text c).map (a.length + m.text.length + ·)) := by
  rw [Text.offsets_around n.text_ne_nil (m.runsClear n) (n.runsClear m)]
  simp only [text_injective.eq_iff]

/-- No marker occurs in the text. -/
def Absent (text : Text) : Prop :=
  ∀ m : Marker, ¬ m.text <:+: text

theorem absent_of_stem {text : Text} (h : ¬ stem <:+: text) : Absent text :=
  fun m hm => h (m.stem_infix.trans hm)

/-- A line break in front of a text brings no marker about. -/
theorem Absent.newline_cons {text : Text} (h : Absent text) : Absent ('\n' :: text) := by
  intro m
  rw [List.infix_cons_iff, not_or]
  refine ⟨fun hp => ?_, h m⟩
  rcases List.prefix_cons_iff.1 hp with hnil | ⟨t, ht, -⟩
  · exact m.text_ne_nil hnil
  · exact m.newline_not_mem (ht ▸ List.mem_cons_self)

theorem Absent.of_cons {c : Char} {text : Text} (h : Absent (c :: text)) : Absent text :=
  fun m hm => h m (hm.trans (List.suffix_cons c text).isInfix)

end Marker

end SqlModels
