import Marginalia.Language.Basic

/-!
# Built-in languages

The comment grammars that are used when a configuration does not bring its own.
-/

namespace Marginalia.Language

/-- A literal in double quotes on one line, with backslash escapes. -/
def doubleQuoted : String := "\"(?:[^\"\\\\\\n]|\\\\.)*\""

/-- A literal in single quotes on one line, with backslash escapes. -/
def singleQuoted : String := "'(?:[^'\\\\\\n]|\\\\.)*'"

/-- A literal in back quotes, with backslash escapes; it may have several lines. -/
def backQuoted : String := "`(?:[^`\\\\]|\\\\.)*`"

/-- A comment between a slash with a star and a star with a slash. -/
def slashStar : String := "/\\*[\\s\\S]*?\\*/"

/-- A row of the built-in table. -/
structure Builtin where
  ids : List String
  line : List String := []
  block : List String := []
  skipped : List String := []
deriving DecidableEq, Repr

/-- Languages with comments after two slashes and between slash and star. -/
def cFamily : Builtin where
  ids :=
    ["c", "cpp", "csharp", "cuda-cpp", "dart", "go", "groovy", "java", "javascript",
     "javascriptreact", "jsonc", "kotlin", "objective-c", "objective-cpp", "php", "rust", "scala",
     "swift", "typescript", "typescriptreact", "zig"]
  line := ["//.*"]
  block := [slashStar]
  skipped := [doubleQuoted, singleQuoted, backQuoted]

/-- Python.  A literal in three quotes is tried first, so that its quotes are not read as an empty
literal and a quote. -/
def python : Builtin where
  ids := ["python"]
  line := ["#.*"]
  skipped := ["\"\"\"[\\s\\S]*?\"\"\"", "'''[\\s\\S]*?'''", doubleQuoted, singleQuoted]

/-- Languages with comments after a hash sign. -/
def hashComments : Builtin where
  ids :=
    ["coffeescript", "dockerfile", "makefile", "perl", "powershell", "r", "ruby", "shellscript",
     "toml", "yaml"]
  line := ["#.*"]
  skipped := [doubleQuoted, singleQuoted]

/-- Languages with comments after two dashes, and three kinds of block comments. -/
def dashComments : Builtin where
  ids := ["haskell", "lua", "sql"]
  line := ["--(?!\\[\\[).*"]
  block := ["--\\[\\[[\\s\\S]*?\\]\\]", "\\\x7b-[\\s\\S]*?-\\\x7d", slashStar]
  skipped := [doubleQuoted, singleQuoted]

/-- Markup languages. -/
def markup : Builtin where
  ids := ["html", "markdown", "xml", "vue", "svelte"]
  block := ["<!--[\\s\\S]*?-->"]

/-- Batch files. -/
def batch : Builtin where
  ids := ["bat"]
  line := ["(?im:^[ \\t]*@?rem\\b).*", "::.*"]
  skipped := [doubleQuoted]

/-- Plain text, where two signs start a comment. -/
def plainText : Builtin where
  ids := ["plaintext"]
  line := ["//.*", "#.*"]

/-- The built-in table. -/
def builtins : List Builtin :=
  [cFamily, python, hashComments, dashComments, markup, batch, plainText]

/-- A list of texts as configuration data. -/
def textList (xs : List String) : Value := .list (xs.map .str)

/-- The entries of a row of the built-in table. -/
def Builtin.entries (b : Builtin) : List (String × Value) :=
  [("languageIds", textList b.ids), ("lineComments", textList b.line),
   ("blockComments", textList b.block), ("skippedBlocks", textList b.skipped)]

/-- A row of the built-in table as a configuration entry. -/
def Builtin.toConfig (b : Builtin) : Value := .table b.entries

end Marginalia.Language
