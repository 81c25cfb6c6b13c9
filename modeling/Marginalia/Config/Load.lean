import Marginalia.Config.Basic
import Marginalia.Files.Basic
import Marginalia.Toml.Reader

/-!
# Loading a configuration

A configuration is read from a file that is named, or else from the nearest one: in the working
directory, or in the first directory above it that has one.  Without any, the built-in configuration
is used.
-/

namespace Marginalia

/-- Why a configuration file cannot be used. -/
inductive ConfigError
  | toml (path : Path) (document : List Char) (error : Toml.Error)
  | notArray (path : Path) (key : String)
  | notTable (path : Path) (key : String) (index : Nat)
deriving Repr

/-- The wording of a configuration error. -/
def ConfigError.message : ConfigError → String
  | .toml path document e => path.text ++ ": " ++ e.message document
  | .notArray path key => path.text ++ ": '" ++ key ++ "' must be an array of tables"
  | .notTable path key index =>
    path.text ++ ": " ++ key ++ "[" ++ toString index ++ "] must be a table"

/-- Why there is no configuration. -/
inductive LoadError
  | notFound (path : Path)
  /-- The system cannot say whether there is a file, or does not let it be read. -/
  | unreachable (error : FileError)
  | invalid (error : ConfigError)
  | notText (error : Text.DecodeError)
  /-- A whole number in the file has too many digits. -/
  | tooManyDigits (digits : Nat)
deriving Repr

/-- The wording of a load error. -/
def LoadError.message : LoadError → String
  | .notFound path => "Config not found: " ++ path.text
  | .unreachable e => e.message
  | .invalid e => e.message
  | .notText e => e.message
  | .tooManyDigits n => Text.tooManyDigits n

/-- Does the error say that the file is of no use, so that another configuration can be kept? -/
def LoadError.isRefusal : LoadError → Bool
  | .notText _ => false
  | .tooManyDigits _ => false
  | _ => true

namespace Config

/-- The name of a configuration file. -/
def fileName : String := "todomark.toml"

/-- The nearest configuration file: `parts` are those of a directory, last part first.  The search
ends where the system cannot say whether there is a file. -/
def nearest (fs : Files) (root : String) : List String → Except FileError (Option Path)
  | [] => do
    let p : Path := ⟨root, [fileName]⟩
    return if ← fs.isFile p then some p else none
  | part :: parts => do
    let p : Path := ⟨root, (part :: parts).reverse ++ [fileName]⟩
    if ← fs.isFile p then return some p else nearest fs root parts

/-- The configuration file in a directory, or in the nearest directory above it. -/
def findFrom (fs : Files) (start : Path) : Except FileError (Option Path) :=
  nearest fs start.root start.parts.reverse

/-- Is the value a table? -/
def isTable : Value → Bool
  | .table _ => true
  | _ => false

/-- The entries of a section, each of which has to be a table. -/
def entriesOf (path : Path) (key : String) (data : Toml.Table) :
    Except ConfigError (Option (List Value)) :=
  match data.lookup key with
  | none => .ok none
  | some (.list items) =>
    match items.findIdx? fun v => !isTable v with
    | some i => .error (.notTable path key i)
    | none => .ok (some items)
  | some _ => .error (.notArray path key)

/-- A section of the entries. -/
def sectionOf (entry : Value → α) : Option (List Value) → Section α
  | none => .missing
  | some vs => .entries (vs.map entry)

/-- The error of a document at a path. -/
def tomlError (path : Path) (document : List Char) : Toml.Error → LoadError
  | .tooManyDigits n => .tooManyDigits n
  | e => .invalid (.toml path document e)

/-- The configuration that a file with the given bytes holds. -/
def ofBytes (path : Path) (bytes : List UInt8) : Except LoadError Config := do
  let text ← (Text.decode bytes).mapError .notText
  let document := Toml.joinLineEnds text
  let data ← (Toml.read document).mapError (tomlError path document)
  let annotations ← (entriesOf path "annotations" data).mapError .invalid
  let languages ← (entriesOf path "languages" data).mapError .invalid
  return { annotations := sectionOf .value annotations, languages := sectionOf .value languages,
           path := some path }

/-- The configuration of a file. -/
def ofFile (fs : Files) (p : Path) : Except LoadError Config :=
  match fs.look p with
  | .file bytes => ofBytes p bytes
  | .denied => .error (.unreachable ⟨.denied, p⟩)
  | .tooLong => .error (.unreachable ⟨.tooLong, p⟩)
  | _ => .error (.notFound p)

/-- The configuration of the given file, of the nearest one, or the built-in one. -/
def load (fs : Files) (path : Option Path) : Except LoadError Config :=
  match path with
  | some p => ofFile fs p
  | none =>
    match findFrom fs fs.cwd with
    | .ok (some p) => ofFile fs p
    | .ok none => .ok builtin
    | .error e => .error (.unreachable e)

end Config

end Marginalia
