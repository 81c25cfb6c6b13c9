import Marginalia.Files.Basic

/-!
# File systems in memory

A `FileTree` lists the directories and files below a root.  Looking up a path walks its parts one by
one from the working directory, or from the root for paths that name it.
-/

namespace Marginalia

/-- Directories and files below a root, by their parts.  The root itself is always there. -/
structure FileTree where
  /-- The root as it stands at the start of a path. -/
  root : String
  /-- The bytes of the root that are not shown there. -/
  hidden : Nat := 0
  cwd : List String := []
  directories : List (List String) := []
  files : List (List String × List UInt8) := []
deriving Repr

namespace FileTree

/-- All directories on the way to some parts, the last part left out. -/
def above (parts : List String) : List (List String) :=
  (List.range parts.length).map fun i => parts.take i

/-- Adds a directory and all directories above it. -/
def addDirectory (t : FileTree) (parts : List String) : FileTree :=
  { t with directories := t.directories ++ above parts ++ [parts] }

/-- Puts a file in place, and makes all directories above it. -/
def addFile (t : FileTree) (parts : List String) (bytes : List UInt8) : FileTree :=
  { t with
    directories := t.directories ++ above parts
    files := (parts, bytes) :: t.files.filter (·.1 != parts) }

/-- What stands at some parts, which hold no dots. -/
def lookParts (t : FileTree) (parts : List String) : Look :=
  match t.files.lookup parts with
  | some bytes => .file bytes
  | none => if parts.isEmpty || t.directories.contains parts then .directory else .missing

/-- What stands outside of the tree: the directories around it, and nothing else. -/
def lookOutside (parts : List String) : Look :=
  match parts.find? (· != "..") with
  | none => .directory
  | some part => if isPartTooLong part then .tooLong else .missing

/-- Walks the parts from the directory `here` on. -/
def walk (t : FileTree) (here : List String) : List String → Look
  | [] => t.lookParts here
  | part :: parts =>
    match t.lookParts here with
    | .directory =>
      if part = ".." then if here.isEmpty then lookOutside parts else t.walk here.dropLast parts
      else if isPartTooLong part then .tooLong
      else t.walk (here ++ [part]) parts
    | .file _ => .throughFile
    | look => look

/-- Is a path too long as a whole? -/
def isTooLong (t : FileTree) (p : Path) : Bool :=
  pathLimit ≤ p.text.utf8ByteSize + if p.root = t.root then t.hidden else 0

/-- What stands at a path. -/
def look (t : FileTree) (p : Path) : Look :=
  if t.isTooLong p then .tooLong
  else if p.root.isEmpty then t.walk t.cwd p.parts
  else if p.root = t.root then t.walk [] p.parts
  else lookOutside p.parts

/-- The tree as the program sees it. -/
def toFiles (t : FileTree) : Files := ⟨⟨t.root, t.cwd⟩, t.look⟩

/-- The parts at which a walk ends. -/
def place (here : List String) : List String → List String
  | [] => here
  | part :: parts => if part = ".." then place here.dropLast parts else place (here ++ [part]) parts

/-- Writes a file at a path. -/
def write (t : FileTree) (p : Path) (bytes : List UInt8) : FileTree :=
  t.addFile (place (if p.root.isEmpty then t.cwd else []) p.parts) bytes

end FileTree

end Marginalia
