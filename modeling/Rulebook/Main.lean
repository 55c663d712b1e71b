import Rulebook.Command.Run
import Rulebook.Filter.Run

/-!
# The program

The outer layer: it reads the files that a command line names, runs the task on them with the engines of
the library for patterns and filters, prints the report and writes the file that the task gives. The exit
code is zero if all is well, one if some subject or case failed, and two if the task was not run.
-/

namespace Rulebook.Command

/-- The files of a directory entry and below it. -/
partial def loadEntry (above : Place) (entry : IO.FS.DirEntry) :
    IO (List (Place × List UInt8)) := do
  let place := above ++ [entry.fileName]
  if ← entry.path.isDir then
    let inner ← (← entry.path.readDir).toList.mapM (loadEntry place)
    return inner.flatten
  else
    try
      return [(place, (← IO.FS.readBinFile entry.path).toList)]
    catch _ => return []

/-- The file of a path, if it can be read. -/
def loadFile (path : String) : IO (List (Place × List UInt8)) := do
  match Directory.making ⟨[]⟩ (pathSteps path) with
  | .error _ => return []
  | .ok place =>
    try
      return [(place, (← IO.FS.readBinFile path).toList)]
    catch _ => return []

/-- The files that inputs may lead to: those named, and for a glob all below the working directory. -/
def loadInputs (inputs : List String) : IO Directory := do
  let named ← inputs.mapM loadFile
  let below ← if inputs.any Glob.isGlob then do
      (← (← IO.currentDir).readDir).toList.mapM (loadEntry [])
    else pure []
  return ⟨named.flatten ++ below.flatten⟩

/-- Writes the file that a task has given. -/
def saveOut (d : Directory) (path : String) : IO Unit := do
  match d.read path with
  | .error _ => return ()
  | .ok content =>
    let parent := "/".intercalate (Directory.parentSteps (pathSteps path))
    if !parent.isEmpty then IO.FS.createDirAll parent
    IO.FS.writeBinFile path ⟨content.toArray⟩

/-- Runs a command line. -/
def runLine (arguments : List String) : IO UInt32 := do
  match Invocation.ofArguments arguments with
  | .error e =>
    if e.isRequest then
      IO.println (if e = .help then usageText else e.message)
      return 0
    else
      IO.eprintln s!"error: {e.message}\n\n{usageText}"
      return 2
  | .ok invocation =>
    let response := invocation.task.run false (← loadInputs invocation.task.inputs)
    IO.print response.output
    match response.result with
    | .error e =>
      IO.eprintln e.message
      return 2
    | .ok isWell =>
      if let some path := invocation.task.out? then saveOut response.directory path
      return if isWell then 0 else 1

end Rulebook.Command

/-- Runs one command line in the working directory. -/
def main (arguments : List String) : IO UInt32 := Rulebook.Command.runLine arguments
