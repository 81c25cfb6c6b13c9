import Marginalia.Files.Path
import Marginalia.Text.Utf8

/-!
# Files

What the program sees of a file system is what stands at a path: nothing, a directory, a file with
its bytes or one that it may not open.  `Files` is that view together with the working directory;
all reading goes through it, and writing is an effect that a command asks for.  A path and each of
its parts can be too long, and a path with a null character can be neither read nor written.
-/

namespace Marginalia

/-- What stands at a path. -/
inductive Look
  | missing
  /-- A part on the way is a file. -/
  | throughFile
  | directory
  | file (bytes : List UInt8)
  /-- A file that may be neither read nor written. -/
  | denied
  /-- The path is too long, or the first part that is not there is. -/
  | tooLong
deriving DecidableEq, Repr

/-- Is there anything? -/
def Look.exists : Look → Bool
  | .file _ => true
  | .denied => true
  | .directory => true
  | _ => false

/-- The bytes of the longest part of a path. -/
def partLimit : Nat := 255

/-- Is a part of a path too long? -/
def isPartTooLong (part : String) : Bool := partLimit < part.utf8ByteSize

/-- The bytes of the longest path, and one more. -/
def pathLimit : Nat := 4096

/-- Has a text a null character? -/
def hasNull (s : String) : Bool := s.toList.any (·.toNat == 0)

/-- A file system as the program sees it. -/
structure Files where
  /-- The working directory, with its root. -/
  cwd : Path
  look : Path → Look

/-- Why a path cannot be read or written. -/
inductive FileFault
  | missing
  | denied
  | throughFile
  | directory
  | tooLong
  | nullCharacter
deriving DecidableEq, Repr

/-- The number that the system gives a fault; a null character never gets that far. -/
def FileFault.code? : FileFault → Option Nat
  | .missing => some 2
  | .denied => some 13
  | .throughFile => some 20
  | .directory => some 21
  | .tooLong => some 36
  | .nullCharacter => none

/-- The wording of a fault. -/
def FileFault.text : FileFault → String
  | .missing => "No such file or directory"
  | .denied => "Permission denied"
  | .throughFile => "Not a directory"
  | .directory => "Is a directory"
  | .tooLong => "File name too long"
  | .nullCharacter => "embedded null byte"

/-- A fault at a path. -/
structure FileError where
  fault : FileFault
  path : Path
deriving DecidableEq, Repr

/-- The wording of a file error. -/
def FileError.message (e : FileError) : String :=
  match e.fault.code? with
  | some n => "[Errno " ++ toString n ++ "] " ++ e.fault.text ++ ": " ++ Text.quoted e.path.text
  | none => e.fault.text

namespace Files

/-- The bytes of a file. -/
def read (fs : Files) (p : Path) : Except FileError (List UInt8) :=
  if hasNull p.text then .error ⟨.nullCharacter, p⟩
  else match fs.look p with
    | .file bytes => .ok bytes
    | .missing => .error ⟨.missing, p⟩
    | .denied => .error ⟨.denied, p⟩
    | .throughFile => .error ⟨.throughFile, p⟩
    | .directory => .error ⟨.directory, p⟩
    | .tooLong => .error ⟨.tooLong, p⟩

/-- Is there a file at the path?  The system cannot say so of a path that is too long. -/
def isFile (fs : Files) (p : Path) : Except FileError Bool :=
  match fs.look p with
  | .file _ => .ok true
  | .denied => .ok true
  | .tooLong => .error ⟨.tooLong, p⟩
  | _ => .ok false

/-- Can a file be written at the path?  The directory that holds it has to be there. -/
def checkWrite (fs : Files) (p : Path) : Except FileError Unit :=
  if hasNull p.text then .error ⟨.nullCharacter, p⟩
  else match fs.look p with
    | .file _ => .ok ()
    | .denied => .error ⟨.denied, p⟩
    | .directory => .error ⟨.directory, p⟩
    | .throughFile => .error ⟨.throughFile, p⟩
    | .tooLong => .error ⟨.tooLong, p⟩
    | .missing =>
      match fs.look p.parent with
      | .directory => .ok ()
      | _ => .error ⟨.missing, p⟩

end Files

end Marginalia
