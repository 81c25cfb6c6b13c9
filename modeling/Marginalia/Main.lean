import Marginalia.Command.Run

/-!
# The program

Reads the files that the arguments name, runs the command line on them, and prints and writes what
it asks for.
-/

namespace Marginalia

/-- What stands at a path of the file system. -/
def lookAt (p : Path) : IO Look := do
  if ← ((← IO.currentDir) / p.text).isDir then return .directory
  try
    return .file (← IO.FS.readBinFile p.text).toList
  catch
    | .noFileOrDirectory .. => return .missing
    | .permissionDenied .. => return .denied
    | .invalidArgument .. => return .tooLong
    | _ => return .throughFile

/-- The file system as far as a command line looks at it. -/
def loadFiles (args : List String) : IO Files := do
  let cwd := Path.ofString (← IO.currentDir).toString
  let seen ← (Command.visiblePaths cwd args).mapM fun p => return (p, ← lookAt p)
  return ⟨cwd, fun p => (seen.lookup p).getD .missing⟩

end Marginalia

/-- Runs a command line. -/
def main (args : List String) : IO UInt32 := do
  let r := Marginalia.Command.runLine (← Marginalia.loadFiles args) args
  (← IO.getStdout).putStr r.output.stdout
  (← IO.getStderr).putStr r.output.stderr
  for (p, text) in r.output.writes do
    IO.FS.writeFile p.text text
  if let .failed f := r.status then
    (← IO.getStderr).putStrLn f.message
  return UInt32.ofNat r.status.code
