import Marginalia.Command.Basic

/-!
# The command that writes a first configuration

Writes the built-in configuration to a file, which must not be there unless the command is forced.
-/

namespace Marginalia.Command

/-- The options of the command. -/
def initOptions : List OptionSpec :=
  [{ key := "path", long := "--path", takesValue := true, isPath := true },
   { key := "force", long := "--force" }]

/-- Writes a configuration file. -/
def writeConfig (fs : Files) (a : Arguments) : Action Unit := do
  let p := Path.ofString ((a.value? "path").getD Config.fileName)
  if (fs.look p).exists && !a.has "force" then
    errorExit false (p.text ++ " already exists (use --force to overwrite)")
  let _ ← orFail (fs.checkWrite p) .file
  writeFile p Config.builtinText
  print ("Wrote " ++ p.text ++ "\n")

end Marginalia.Command
