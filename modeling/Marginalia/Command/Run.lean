import Marginalia.Command.Init
import Marginalia.Command.Kinds
import Marginalia.Command.Scan

/-!
# Running a command line

The first argument names the command.  Arguments that cannot be used end with the code of wrong
usage.
-/

namespace Marginalia.Command

/-- A command: its name, its options, whether it takes operands, and what it does. -/
structure Entry where
  name : String
  options : List OptionSpec
  takesOperands : Bool := false
  run : Files → Arguments → Action Unit

/-- All commands. -/
def entries : List Entry :=
  [{ name := "scan", options := scanOptions, takesOperands := true, run := scanFiles },
   { name := "kinds", options := kindsOptions, run := listKinds },
   { name := "init", options := initOptions, run := writeConfig }]

/-- Wrong usage. -/
def wrongUsage : Action Unit := throw (.exit usageCode)

/-- The paths that the command takes from its arguments; operands are paths. -/
def Entry.paths (e : Entry) (a : Arguments) : List String :=
  (e.options.filter (·.isPath)).filterMap (a.value? ·.key) ++
    if e.takesOperands then a.operands else []

/-- Runs a command with its arguments.  A path that cannot be one is found before an operand too
many. -/
def Entry.start (e : Entry) (fs : Files) (args : List String) : Action Unit :=
  match Arguments.read e.options args with
  | none => wrongUsage
  | some a =>
    match (e.paths a).find? hasNull with
    | some p => fail (.file ⟨.nullCharacter, Path.ofString p⟩)
    | none => if !e.takesOperands && !a.operands.isEmpty then wrongUsage else e.run fs a

/-- Runs the command that the first argument names. -/
def dispatch (fs : Files) : List String → Action Unit
  | [] => wrongUsage
  | name :: args =>
    match entries.find? (·.name == name) with
    | some e => e.start fs args
    | none => wrongUsage

/-- All paths at which the directories from the working directory up can hold a configuration file.
-/
def configPaths (cwd : Path) : List Path :=
  (List.range (cwd.parts.length + 1)).map fun i => ⟨cwd.root, cwd.parts.take i ++ [Config.fileName]⟩

/-- The paths that arguments name, and the directories that hold them.  Every argument counts, and
so does the part after an equals sign or after a short option. -/
def namedPaths (args : List String) : List Path :=
  let texts := args.flatMap fun arg =>
    let cs := arg.toList
    [cs, (splitEquals cs).2.getD [], cs.drop 2]
  let paths := (Config.fileName :: texts.map String.ofList).map Path.ofString
  paths ++ paths.map Path.parent

/-- The paths that a command line may look at. -/
def visiblePaths (cwd : Path) (args : List String) : List Path := configPaths cwd ++ namedPaths args

/-- Runs a command line; two hyphens may stand before the command. -/
def runLine (fs : Files) (args : List String) : Result :=
  (dispatch fs (if args.head? == some "--" then args.tail else args)).result

end Marginalia.Command
