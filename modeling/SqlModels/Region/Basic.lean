import SqlModels.Text.Basic

/-!
The marked regions of generated files. Each region stands between a begin and an end marker, and
the blanks in front of a marker belong to it.
-/

namespace SqlModels

inductive Region
  | imports | bootstraps | exports | interfaceAttributes | classAttributes | columnDefinitions
  deriving DecidableEq

namespace Region

def name : Region → String
  | .imports => "import"
  | .bootstraps => "bootstrap"
  | .exports => "export"
  | .interfaceAttributes => "interface-attrs"
  | .classAttributes => "model-attrs"
  | .columnDefinitions => "column-defs"

def beginMarker : Region → String
  | .imports => "// AutoGenImportBegin \x7b"
  | .bootstraps => "  // AutoGenBootstrapBegin \x7b"
  | .exports => "  // AutoGenExportBegin \x7b"
  | .interfaceAttributes => "  // AutoGenIntefaceAttrBegin \x7b"
  | .classAttributes => "  // AutoGenModelAttrsBegin \x7b"
  | .columnDefinitions => "        // AutoGenColumnDefsBegin \x7b"

def endMarker : Region → String
  | .imports => "// \x7d AutoGenImportEnd"
  | .bootstraps => "  // \x7d AutoGenBootstrapEnd"
  | .exports => "  // \x7d AutoGenExportEnd"
  | .interfaceAttributes => "  // \x7d AutoGenIntefaceAttrEnd"
  | .classAttributes => "  // \x7d AutoGenModelAttrsEnd"
  | .columnDefinitions => "        // \x7d AutoGenColumnDefsEnd"

/-- The regions of an index file, in file order. -/
def ofIndex : List Region :=
  [.imports, .bootstraps, .exports]

def ofModel : List Region :=
  [.interfaceAttributes, .classAttributes, .columnDefinitions]

/-- A region with its markers around a body; it ends with the end marker. -/
def wrap (r : Region) (body : Text) : Text :=
  r.beginMarker.toList ++ '\n' :: body ++ r.endMarker.toList

end Region

inductive RegionError
  | duplicateMarker (marker : String)
  | endBeforeBegin (region : String)
  | overlap (first second : String)
  | outOfOrder (region after : String)
  deriving DecidableEq

def RegionError.message : RegionError → String
  | .duplicateMarker marker => "marker \x60" ++ marker ++ "\x60 occurs more than once"
  | .endBeforeBegin region => "region '" ++ region ++ "' ends before it begins"
  | .overlap first second => "region '" ++ first ++ "' overlaps region '" ++ second ++ "'"
  | .outOfOrder region after => "region '" ++ region ++ "' must come after region '" ++ after ++ "'"

end SqlModels
