import Marginalia.Command.Basic
import Marginalia.Report.Grid

/-!
# The command that lists kinds

Builds the registry as a scan would, and lists its kinds and, if asked to, its languages.
-/

namespace Marginalia.Command

/-- The options of the command. -/
def kindsOptions : List OptionSpec :=
  [configOption, { key := "languages", long := "--languages" }, jsonOption]

/-- A kind as JSON shows it. -/
def kindEntry (k : Kind) : Value :=
  .table [("name", .str k.spec.name), ("pattern", k.spec.pattern.toValue),
    ("markdown", .bool k.spec.markdown), ("style", .table k.spec.style.toTable)]

/-- The registry as JSON shows it. -/
def registryEntry (c : Config) (r : Registry) : Value :=
  .table [("source", .str ((c.path.map Path.text).getD "defaults")),
    ("kinds", .list (r.kinds.map kindEntry)),
    ("languages", .list (r.languages.map fun d => .table d.language.toConfig))]

/-- The row of a kind.  Its style has to be readable. -/
def kindRow (k : Kind) : Except Style.OptionError (List Console.Seamed) := do
  let _ ← Style.ofOptions k.spec.style
  return [⟨Text.sanitize k.spec.name.toList, []⟩,
    ⟨Text.sanitize k.spec.pattern.toValue.text.toList, []⟩,
    ⟨if k.spec.markdown then "yes".toList else [], []⟩]

/-- The columns of the table of kinds. -/
def kindColumns : List Report.Column :=
  [{ header := "Kind", wrap := false }, { header := "Pattern" },
    { header := "Markdown", centred := true }]

/-- Fragments with two spaces between them. -/
def fragmentsText (fs : List Fragment) : Console.Seamed :=
  ⟨Text.sanitize ("  ".intercalate (fs.map fun f => f.toValue.text)).toList, []⟩

/-- The row of a language, the identifiers of which are given. -/
def languageRow (ids : Markup.Rendered) (l : Language) : List Console.Seamed :=
  [Console.seamed ids, fragmentsText l.lineComments, fragmentsText l.blockComments,
    ⟨(toString l.skippedBlocks.length).toList, []⟩]

/-- The columns of the table of languages. -/
def languageColumns : List Report.Column :=
  [{ header := "Languages" }, { header := "Line" }, { header := "Block" }, { header := "Skipped" }]

/-- The line that says where the configuration comes from; the path is markup. -/
def sourceLine (c : Config) : List Char :=
  ("[dim]config: " ++ (c.path.map Path.text).getD "built-in defaults" ++ "[/dim]").toList

/-- Builds the registry of a configuration, or ends with the reason why not. -/
def buildRegistry (json : Bool) (c : Config) : Action Registry :=
  match (rebuild c.annotations c.languages (some {}) none).result with
  | .ok r => pure r
  | .error (.rejected e) => errorExit json e.message
  | .error e => fail (.rebuild e)

/-- Lists kinds. -/
def listKinds (fs : Files) (a : Arguments) : Action Unit := do
  let json := a.has jsonOption.key
  let c ← loadConfig fs a
  let r ← buildRegistry json c
  if json then printJson (registryEntry c r)
  else
    print (← rendered (Console.printAccented consoleWidth (sourceLine c)))
    let rows ← orFail (r.kinds.mapM kindRow) fun e => .display (.style e)
    print (({ columns := kindColumns, rows } : Report.Grid).boxed consoleWidth)
    if a.has "languages" then
      let languages := r.languages.map (·.language)
      let ids ← rendered
        (Markup.shownCells (languages.map fun l => (", ".intercalate l.ids).toList))
      let rows := (ids.zip languages).map fun (ids, l) => languageRow ids l
      print (({ columns := languageColumns, rows } : Report.Grid).boxed consoleWidth)

end Marginalia.Command
