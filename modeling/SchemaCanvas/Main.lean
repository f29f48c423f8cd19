import SchemaCanvas.CommandLine.Run

/-!
# The program

Reads the files that a command can need, runs it, prints its output, and writes the file that it has
changed.
-/

namespace SchemaCanvas.Program

/-- The content of the file at a path, if it can be read. -/
def readContent (p : Path) : IO (Option (List UInt8)) := do
  try
    let bytes ← IO.FS.readBinFile p.text
    return some bytes.toList
  catch _ => return none

/-- The files that a command about a file can look at: the file itself, and the settings files in
its directory and in those above it. -/
def gather (file : Path) : IO FileTree := do
  let candidates := file :: file.parent.ancestors.map (·.child Settings.fileName)
  let files ← candidates.filterMapM fun p => do
    return (← readContent p).map (p, ·)
  return ⟨files, []⟩

/-- The schema file that a command is about. -/
def fileOf : CommandLine.Command → String
  | .diagrams file _ => file
  | .show file _ _ => file
  | .check file => file
  | .layout file _ _ _ _ => file

/-- Writes the files that differ from those before the run. -/
def writeChanged (before : FileTree) (after : FileTree) : IO Unit :=
  after.files.forM fun (path, content) => do
    if before.content? path = some content then return
    else IO.FS.writeBinFile path.text content.toByteArray

/-- The exit code of an ending; an ending without output of its own is explained. -/
def exitCode : CommandLine.Ending → IO UInt32
  | .exit code => return code.toUInt32
  | .usage => do
    IO.eprintln "The arguments do not make up a command."
    return 2
  | .escape cause => do
    IO.eprintln cause.message
    return 1

end SchemaCanvas.Program

open SchemaCanvas in
/-- Runs the program and answers with its exit code. -/
def main (arguments : List String) : IO UInt32 := do
  let files ← match CommandLine.Command.ofArguments arguments with
    | some command => Program.gather (Path.ofText (Program.fileOf command))
    | none => pure ⟨[], []⟩
  let entropy ← IO.rand 0 (Nat.pow 2 62)
  let outcome := CommandLine.run files entropy arguments
  (← IO.getStdout).putStr outcome.output.stdout
  (← IO.getStderr).putStr outcome.output.stderr
  Program.writeChanged files outcome.output.files
  Program.exitCode outcome.ending
