import Marginalia.Document.Basic
import Marginalia.Files.Basic
import Marginalia.Text.LowerCase

/-!
# Documents from files

The language of a file is guessed from its name, or else from its suffix in lower case.  Its text is
read with replacement characters for bytes that are no text, and with line feeds for all line ends.
-/

namespace Marginalia

/-- Languages by suffix. -/
def suffixLanguages : List (String × String) :=
  [(".c", "c"), (".h", "c"), (".cc", "cpp"), (".cpp", "cpp"), (".cxx", "cpp"), (".hpp", "cpp"),
   (".cu", "cuda-cpp"), (".cs", "csharp"), (".dart", "dart"), (".go", "go"), (".groovy", "groovy"),
   (".java", "java"), (".js", "javascript"), (".mjs", "javascript"), (".cjs", "javascript"),
   (".jsx", "javascriptreact"), (".jsonc", "jsonc"), (".kt", "kotlin"), (".kts", "kotlin"),
   (".m", "objective-c"), (".mm", "objective-cpp"), (".php", "php"), (".rs", "rust"),
   (".scala", "scala"), (".swift", "swift"), (".ts", "typescript"), (".tsx", "typescriptreact"),
   (".zig", "zig"), (".py", "python"), (".pyi", "python"), (".coffee", "coffeescript"),
   (".pl", "perl"), (".ps1", "powershell"), (".r", "r"), (".rb", "ruby"), (".sh", "shellscript"),
   (".bash", "shellscript"), (".zsh", "shellscript"), (".toml", "toml"), (".yaml", "yaml"),
   (".yml", "yaml"), (".hs", "haskell"), (".lua", "lua"), (".sql", "sql"), (".html", "html"),
   (".htm", "html"), (".md", "markdown"), (".xml", "xml"), (".vue", "vue"), (".svelte", "svelte"),
   (".bat", "bat"), (".cmd", "bat"), (".txt", "plaintext")]

/-- Languages of files whose name says all. -/
def nameLanguages : List (String × String) :=
  [("Dockerfile", "dockerfile"), ("Makefile", "makefile"), ("GNUmakefile", "makefile")]

/-- The language of a file, by its path. -/
def guessLanguage (p : Path) : String :=
  match nameLanguages.lookup p.name with
  | some language => language
  | none =>
    (suffixLanguages.lookup (String.ofList (Text.lowerText p.suffix.toList))).getD "plaintext"

/-- Reads a document.  An empty language counts as none. -/
def Document.ofPath (fs : Files) (p : Path) (language : Option String) :
    Except FileError Document := do
  let bytes ← fs.read p
  let text := Text.unifyLineEnds (Text.decodeLossy bytes)
  let language := match language with
    | some l => if l.isEmpty then guessLanguage p else l
    | none => guessLanguage p
  return { text := some (String.ofList text), language, uri := p.text }

end Marginalia
