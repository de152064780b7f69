import SqlModels.Region.Basic

/-!
Merging fresh bodies into the marked regions of a text. Everything outside the regions is kept, and
regions whose markers are missing are left alone.
-/

namespace SqlModels

inductive RegionNote
  | beginMissing (region : Region)
  | endMissing (region : Region)

def RegionNote.text : RegionNote → String
  | .beginMissing r =>
    "begin marker not found, region left untouched region=\"" ++ r.name ++ "\""
  | .endMissing r => "end marker not found, region left untouched region=\"" ++ r.name ++ "\""

structure Span where
  region : Region
  beginsAt : Nat
  endsAt : Nat

def Span.stop (s : Span) : Nat :=
  s.endsAt + s.region.endMarker.length

namespace Region

/-- How a region lies in a text: not begun, not ended, or between two offsets. -/
inductive Placement
  | notBegun
  | notEnded
  | span (s : Span)

/-- Finds the markers of a region. Each may occur once only, the end marker behind the other. -/
def locate (r : Region) (text : Text) : Except RegionError Placement :=
  match Text.splitFirst? r.beginMarker.toList text with
  | none => .ok .notBegun
  | some (before, body) =>
    if body.includes r.beginMarker.toList then .error (.duplicateMarker r.beginMarker)
    else match Text.splitFirst? r.endMarker.toList body with
      | none =>
        if before.includes r.endMarker.toList then .error (.endBeforeBegin r.name)
        else .ok .notEnded
      | some (old, after) =>
        if after.includes r.endMarker.toList || before.includes r.endMarker.toList then
          .error (.duplicateMarker r.endMarker)
        else
          let beginsAt := before.length
          .ok (.span ⟨r, beginsAt, beginsAt + r.beginMarker.length + old.length⟩)

end Region

/-- Refuses a span that does not lie behind the span located before it. -/
def Span.checkAfter (s : Span) : Option Span → Except RegionError Unit
  | none => .ok ()
  | some previous =>
    if s.beginsAt < previous.beginsAt then
      .error (.outOfOrder s.region.name previous.region.name)
    else if s.beginsAt < previous.stop then
      .error (.overlap previous.region.name s.region.name)
    else .ok ()

/-- What comes of looking for regions: notes on those left alone, and the spans of the others. -/
structure Survey where
  notes : List RegionNote
  spans : Except RegionError (List Span)

namespace Survey

def addNote (n : RegionNote) (s : Survey) : Survey :=
  { s with notes := n :: s.notes }

def addSpan (s : Span) (rest : Survey) : Survey :=
  { rest with spans := rest.spans.map (s :: ·) }

/-- Locates regions one after another behind the span `previous`, up to the first error. -/
def behind (text : Text) (previous : Option Span) : List Region → Survey
  | [] => ⟨[], .ok []⟩
  | r :: rest =>
    match r.locate text with
    | .error e => ⟨[], .error e⟩
    | .ok .notBegun => addNote (.beginMissing r) (behind text previous rest)
    | .ok .notEnded => addNote (.endMissing r) (behind text previous rest)
    | .ok (.span s) =>
      match s.checkAfter previous with
      | .error e => ⟨[], .error e⟩
      | .ok () => addSpan s (behind text (some s) rest)

/-- Locates regions, which must lie in the order they are listed in. -/
def ofRegions (regions : List Region) (text : Text) : Survey :=
  behind text none regions

end Survey

/-- Fresh bodies of regions; a region without one keeps what it has. -/
abbrev Fragments := Region → Option Text

/-- The text from the offset `cursor` on, with fresh bodies between the markers of the spans. -/
def splice (fragments : Fragments) (text : Text) (cursor : Nat) : List Span → Text
  | [] => text.drop cursor
  | s :: rest =>
    match fragments s.region with
    | none => splice fragments text cursor rest
    | some body =>
      (text.drop cursor).take (s.beginsAt - cursor) ++ s.region.beginMarker.toList
        ++ '\n' :: body ++ splice fragments text s.endsAt rest

structure Merge where
  notes : List RegionNote
  result : Except RegionError Text

def merge (regions : List Region) (fragments : Fragments) (text : Text) : Merge :=
  let survey := Survey.ofRegions regions text
  ⟨survey.notes, survey.spans.map (splice fragments text 0)⟩

end SqlModels
