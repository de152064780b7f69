import SqlModels.Text.Basic

namespace SqlModels.Path

/-- The parts of a path between slashes; an empty first part stands for the root. -/
def segments (path : String) : List Text :=
  Text.splitAt '/' path.toList

def isAbsolute (path : String) : Bool :=
  path.toList.head? = some '/'

/-- A path below a directory. An absolute path stays as it is. -/
def join (dir path : String) : String :=
  if isAbsolute path || dir = "" then path
  else if dir.toList.getLast? = some '/' then dir ++ path
  else dir ++ "/" ++ path

/-- Drops empty segments and single dots from the front of a list. -/
def dropEmpty (parts : List Text) : List Text :=
  parts.dropWhile fun part => part = [] || part = ['.']

def withFirst (first : Text) (rest : List Text) : String :=
  String.ofList (first ++ (rest.flatMap fun part => '/' :: part))

/-- Removes the last segment, and the empty segments and single dots around it. -/
def dropLastSegment (parts : List Text) : Option (List Text) :=
  match dropEmpty parts.reverse with
  | [] => none
  | _ :: rest => some (dropEmpty rest).reverse

/-- The path without its last segment. The root and the empty path have none above them. -/
def parent? (path : String) : Option String :=
  match segments path with
  | [] :: [] => none
  | [] :: rest => (dropLastSegment rest).map fun kept =>
      if kept = [] then "/" else withFirst [] kept
  | ['.'] :: rest =>
    match dropLastSegment rest with
    | some kept => some (withFirst ['.'] kept)
    | none => some ""
  | parts => (dropLastSegment parts).map fun kept =>
      String.ofList (Text.joinWith ['/'] kept)

def directory (path : String) : String :=
  match parent? path with
  | some dir => if dir = "" then "." else dir
  | none => "."

end SqlModels.Path
