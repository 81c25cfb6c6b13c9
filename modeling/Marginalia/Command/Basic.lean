import Marginalia.Command.Arguments
import Marginalia.Config.Load
import Marginalia.Highlight
import Marginalia.Report.Json

/-!
# Commands

A command is a function of its arguments and of the files that it sees.  It prints on two channels,
asks for files to be written, and ends with a code or with a failure that it does not handle.
-/

namespace Marginalia.Command

/-- What a command has printed, and the files that it wants written. -/
structure Output where
  stdout : String := ""
  stderr : String := ""
  writes : List (Path × String) := []
deriving Repr

/-- A failure that a command does not handle. -/
inductive Failure
  | load (error : LoadError)
  | rebuild (error : RebuildError)
  | scan (error : ScanError)
  | display (error : ShowError)
  | json (error : Report.JsonError)
  | file (error : FileError)
deriving Repr

/-- The wording of a failure. -/
def Failure.message : Failure → String
  | .load e => e.message
  | .rebuild e => e.message
  | .scan e => e.message
  | .display e => e.message
  | .json e => e.message
  | .file e => e.message

/-- How a command ends before its last line. -/
inductive Stop
  | exit (code : Nat)
  | failed (failure : Failure)
deriving Repr

/-- A step of a command. -/
abbrev Action := ExceptT Stop (StateM Output)

/-- The code of wrong usage. -/
def usageCode : Nat := 2

/-- The code of an error. -/
def errorCode : Nat := 1

/-- Prints on the first channel. -/
def print (s : String) : Action Unit := modify fun o => { o with stdout := o.stdout ++ s }

/-- Prints on the second channel. -/
def printError (s : String) : Action Unit := modify fun o => { o with stderr := o.stderr ++ s }

/-- Asks for a file to be written. -/
def writeFile (p : Path) (s : String) : Action Unit :=
  modify fun o => { o with writes := o.writes ++ [(p, s)] }

/-- Ends with a failure. -/
def fail (f : Failure) : Action α := throw (.failed f)

/-- Goes on with a result, or ends with a failure. -/
def orFail (r : Except ε α) (f : ε → Failure) : Action α :=
  match r with
  | .ok a => pure a
  | .error e => fail (f e)

/-- The columns of the console. -/
def consoleWidth : Nat := 400

/-- The text of markup, or the end. -/
def rendered (r : Except Markup.Error α) : Action α := orFail r fun e => .display (.markup e)

/-- A message after a label, as markup. -/
def labelled (label message : String) : List Char :=
  label.toList ++ [' '] ++ Markup.escape message.toList

/-- Prints a message after a label on the second channel. -/
def report (label message : String) : Action Unit := do
  printError (← rendered (Console.printMarkup consoleWidth (labelled label message)))

/-- Prints a warning. -/
def warn (message : String) : Action Unit := report "[yellow]warning:[/yellow]" message

/-- Prints a value as JSON. -/
def printJson (v : Value) : Action Unit := do
  print ((← orFail (Report.json 0 v) .json) ++ "\n")

/-- Ends with an error message, which is printed as JSON if `json` says so. -/
def errorExit (json : Bool) (message : String) : Action α := do
  if json then printJson (.table [("error", .str message)])
  else report "[red bold]error:[/red bold]" message
  throw (.exit errorCode)

/-- The option for a configuration file. -/
def configOption : OptionSpec :=
  { key := "config", long := "--config", short := some 'c', takesValue := true, isPath := true }

/-- The option for JSON. -/
def jsonOption : OptionSpec := { key := "json", long := "--json" }

/-- Loads the configuration that the arguments ask for. -/
def loadConfig (fs : Files) (a : Arguments) : Action Config :=
  match Config.load fs ((a.value? configOption.key).map Path.ofString) with
  | .ok c => pure c
  | .error (.notFound p) => errorExit (a.has jsonOption.key) (LoadError.notFound p).message
  | .error (.invalid e) => errorExit (a.has jsonOption.key) e.message
  | .error e => fail (.load e)

/-- How a command ended. -/
inductive Status
  | exited (code : Nat)
  | failed (failure : Failure)
deriving Repr

/-- The code that the process ends with: a failure that is not handled counts as an error. -/
def Status.code : Status → Nat
  | .exited code => code
  | .failed _ => errorCode

/-- What a command has printed and how it ended. -/
structure Result where
  output : Output
  status : Status
deriving Repr

/-- Runs a command from nothing printed. -/
def Action.result (a : Action Unit) : Result :=
  match (ExceptT.run a).run {} with
  | (.ok (), output) => ⟨output, .exited 0⟩
  | (.error (.exit code), output) => ⟨output, .exited code⟩
  | (.error (.failed f), output) => ⟨output, .failed f⟩

end Marginalia.Command
