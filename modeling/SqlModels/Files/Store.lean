import SqlModels.Error
import SqlModels.Files.Path

/-!
A store of files: directories, and files with a content and a mode. Paths are resolved segment by
segment from the working directory, and every operation fails as the operating system lets it fail.
-/

namespace SqlModels

inductive Content
  | text (t : Text)
  | binary (bytes : ByteArray)

inductive Node
  | directory
  | file (content : Content) (mode : Nat)

/-- The way from the root to an entry. -/
abbrev Place := List String

structure Store where
  workingDirectory : Place
  nodes : List (Place × Node)

namespace Store

/-- What stands at a place; the root is always there. -/
def node? (s : Store) (p : Place) : Option Node :=
  if p = [] then some .directory
  else (s.nodes.find? fun entry => entry.1 = p).map Prod.snd

def put (s : Store) (p : Place) (n : Node) : Store :=
  { s with nodes := (s.nodes.filter fun entry => entry.1 ≠ p) ++ [(p, n)] }

def maxNameLength : Nat := 255

def maxPathLength : Nat := 4095

def checkPath (path : String) : Except FileFault Unit :=
  if path.toList.contains '\x00' then .error .nulInName
  else if path = "" then .error .notFound
  else if maxPathLength < path.utf8ByteSize then .error .nameTooLong
  else .ok ()

def checkDirectory (s : Store) (p : Place) : Except FileFault Unit :=
  match s.node? p with
  | some .directory => .ok ()
  | some (.file _ _) => .error .notADirectory
  | none => .error .notFound

/-- Follows segments from a place. All but the last must lead to directories. -/
def walk (s : Store) (here : Place) : List Text → Except FileFault Place
  | [] => .ok here
  | part :: rest => do
    s.checkDirectory here
    if part = [] || part = ['.'] then s.walk here rest
    else if part = ['.', '.'] then s.walk here.dropLast rest
    else
      let name := String.ofList part
      if maxNameLength < name.utf8ByteSize then .error .nameTooLong
      else s.walk (here ++ [name]) rest

def origin (s : Store) (path : String) : Place :=
  if Path.isAbsolute path then [] else s.workingDirectory

/-- The place of a path, whose parent must exist. -/
def locate (s : Store) (path : String) : Except FileFault Place := do
  checkPath path
  s.walk (s.origin path) (Path.segments path)

def find (s : Store) (path : String) : Except FileFault Node := do
  match s.node? (← s.locate path) with
  | some n => return n
  | none => .error .notFound

def exists? (s : Store) (path : String) : Bool :=
  (s.find path).toOption.isSome

def isDirectory (s : Store) (path : String) : Bool :=
  match s.find path with
  | .ok .directory => true
  | _ => false

def readText (s : Store) (path : String) : Except FileFault Text :=
  match s.find path with
  | .ok (.file (.text t) _) => .ok t
  | .ok (.file (.binary _) _) => .error .invalidText
  | .ok .directory => .error .isADirectory
  | .error fault => .error fault

/-- The mode of a file; that of a new one if there is none. -/
def modeOf (s : Store) (path : String) (default : Nat) : Nat :=
  match s.find path with
  | .ok (.file _ mode) => mode
  | _ => default

def withoutFinalSlashes (parts : List Text) : List Text :=
  (parts.reverse.dropWhile (· = [])).reverse

def makeDirectory (s : Store) (path : String) : Except FileFault Store := do
  checkPath path
  match (withoutFinalSlashes (Path.segments path)).reverse with
  | [] => .error .alreadyExists
  | last :: before =>
    let here ← s.walk (s.origin path) before.reverse
    s.checkDirectory here
    let name := String.ofList last
    if last = ['.'] || last = ['.', '.'] then .error .alreadyExists
    else if maxNameLength < name.utf8ByteSize then .error .nameTooLong
    else match s.node? (here ++ [name]) with
      | some _ => .error .alreadyExists
      | none => .ok (s.put (here ++ [name]) .directory)

/-- Makes a directory unless it is there, in place of the given failure. -/
def orExisting (s : Store) (path : String) (fault : FileFault) : Store × Option FileFault :=
  if s.isDirectory path then (s, none) else (s, some fault)

/-- Makes a directory and the parents it lacks, at most `count` of them. Those made before a failure
stay. -/
def makeDirectoriesUpTo (s : Store) (path : String) : Nat → Store × Option FileFault
  | 0 => (s, some .notFound)
  | count + 1 =>
    if path = "" then (s, none)
    else match s.makeDirectory path with
    | .ok made => (made, none)
    | .error .notFound =>
      match Path.parent? path with
      | none => (s, some .notFound)
      | some above =>
        match s.makeDirectoriesUpTo above count with
        | (made, some fault) => (made, some fault)
        | (made, none) =>
          match made.makeDirectory path with
          | .ok final => (final, none)
          | .error fault => made.orExisting path fault
    | .error fault => s.orExisting path fault

def makeDirectories (s : Store) (path : String) : Store × Option FileFault :=
  s.makeDirectoriesUpTo path (path.length + 1)

/-- The bytes of the path of a temporary file in a directory, counted from the root. Its name has
ten of them. -/
def temporaryLength (s : Store) (dir : String) : Nat :=
  let above := if Path.isAbsolute dir then "" else "/" ++ "/".intercalate s.workingDirectory ++ "/"
  above.utf8ByteSize + dir.utf8ByteSize + 11

def checkTemporary (s : Store) (dir : String) : Except FileFault Unit := do
  match ← s.find dir with
  | .file _ _ => .error .notADirectory
  | .directory =>
    if maxPathLength < s.temporaryLength dir then .error .nameTooLong else .ok ()

/-- Replaces the file of a path as a whole, by way of a temporary file beside it. -/
def replaceFile (s : Store) (path : String) (text : Text) (mode : Nat) : Except Error Store :=
  let dir := Path.directory path
  match s.checkTemporary dir with
  | .error fault => .error (.file "creating temporary file in" dir fault)
  | .ok () =>
    match s.locate path with
    | .error fault => .error (.file "replacing" path fault)
    | .ok p =>
      match s.node? p with
      | some .directory => .error (.file "replacing" path .isADirectory)
      | _ => .ok (s.put p (.file (.text text) mode))

end Store

def Content.ofBytes (bytes : ByteArray) : Content :=
  match String.fromUTF8? bytes with
  | some s => .text s.toList
  | none => .binary bytes

end SqlModels
