import Marginalia.Files.Path
import Marginalia.Language.Builtin
import Marginalia.Registry.Basic
import Marginalia.Toml.Writer

/-!
# Configurations

A configuration has a section for the annotation kinds and one for the languages; either can be
missing. The built-in configuration is used where there is no other, and can be written out to start
from.
-/

namespace Marginalia

/-- A configuration, and the file that it comes from. -/
structure Config where
  annotations : Section AnnotationEntry
  languages : Section LanguageEntry
  path : Option Path := none
deriving Repr

/-- Are both sections there? -/
def Config.isComplete (c : Config) : Bool := c.annotations.isPresent && c.languages.isPresent

namespace Config

/-- A row of the built-in annotation kinds. -/
structure BuiltinKind where
  name : String
  pattern : String
  color : String
  more : List (String × Value) := []
deriving Repr

/-- The entries of a built-in kind. -/
def BuiltinKind.entries (k : BuiltinKind) : List (String × Value) :=
  [("name", .str k.name), ("pattern", .str k.pattern), ("color", .str k.color)] ++ k.more

/-- The built-in annotation kinds. -/
def builtinKinds : List BuiltinKind :=
  [⟨"TODO", "\\bTODO\\b(?:\\([^)]*\\))?:?.*", "#ffcc00", [("fontWeight", .str "bold")]⟩,
   ⟨"FIXME", "\\bFIXME\\b(?:\\([^)]*\\))?:?.*", "#ff5555", [("fontWeight", .str "bold")]⟩,
   ⟨"HACK", "\\bHACK\\b:?.*", "#ff8800", []⟩,
   ⟨"XXX", "\\bXXX\\b:?.*", "#ff00ff", []⟩,
   ⟨"NOTE", "\\bNOTE\\b(?:@\\w+)?:?.*", "#55aaff", [("fontStyle", .str "italic")]⟩,
   ⟨"INFO", "\\$\\(info\\).*", "#55ffaa", [("isMarkdown", .bool true)]⟩]

/-- The section of the built-in annotation kinds. -/
def builtinAnnotations : Section AnnotationEntry :=
  .entries (builtinKinds.map fun k => .value (.table k.entries))

/-- The section of the built-in languages. -/
def builtinLanguages : Section LanguageEntry :=
  .entries (Language.builtins.map fun b => .value b.toConfig)

/-- The built-in configuration. -/
def builtin : Config where
  annotations := builtinAnnotations
  languages := builtinLanguages

/-- The comment at the top of a new configuration file. -/
def banner : List String :=
  ["# todomark configuration\n",
   "# Each annotation becomes a named group in one combined regex,\n",
   "# so names must be identifiers.  Remaining keys are render style.\n"]

/-- The tables of the built-in configuration, with their keys. -/
def builtinTables : List (String × List (String × Value)) :=
  builtinKinds.map (fun k => ("annotations", k.entries)) ++
    Language.builtins.map fun b => ("languages", b.entries)

/-- The built-in configuration as a file. -/
def builtinText : String :=
  String.join banner ++ "\n" ++
    "\n".intercalate (builtinTables.map fun (key, entries) => Toml.writeTable key entries)

end Config

end Marginalia
