import DartLayers.Console.Transcript
import DartLayers.FileTree.Listing
import DartLayers.Program

/-!
# DartLayers — the command line program

Everything that touches the world: the files below the current directory, the environment, and the
standard streams. The program itself is a function of these.

A question has to be shown before its answer is typed. So the program is run with the lines typed so
far, shown up to its first unanswered question, and run again with one more line; only the last run
changes files.

There is no network here. The response to the sample request is the text of the file that the
variable `ARCHGEN_SAMPLE` names; without one the connection fails.
-/

namespace DartLayers

/-- What the world gives to the program. -/
structure World where
  environment : Environment
  reply : Reply
  arguments : List String
  tree : FileTree

/-- The program with the lines that have been typed. -/
def World.run (world : World) (lines : List String) : ProgramEnd × FileTree × Session :=
  let ((ending, tree), session) :=
    ((runProgram world.environment world.reply world.arguments).run world.tree).run
      { unread := lines }
  (ending, tree, session)

/-- Loads a file or a directory. A link counts as the file that it leads to. -/
partial def loadEntry (entry : IO.FS.DirEntry) : IO (Option Entry) := do
  if ← entry.path.isDir then
    if (← entry.path.symlinkMetadata).type == .symlink then return none
    let mut entries := []
    for inner in ← entry.path.readDir do
      if let some loaded ← loadEntry inner then
        entries := (inner.fileName, loaded) :: entries
    return some (.directory entries)
  else try
    return some (.file (← IO.FS.readBinFile entry.path))
  catch _ => return none

/-- Loads what is below the current directory. Nothing beside it or above it is seen. -/
def loadTree : IO FileTree := do
  let here ← IO.currentDir
  let entry ← loadEntry { root := here, fileName := "." }
  return .below (pathParts here.toString) ((entry.map Entry.inner).getD [])

/-- Writes the files that differ from those before. -/
def saveTree (before after : FileTree) : IO Unit := do
  let old := before.files
  for (path, bytes) in after.files do
    if old.lookup path != some bytes then
      IO.FS.createDirAll (PathName.ofString path).parent.text
      IO.FS.writeBinFile path bytes

/-- Loads the variables that settings come from. -/
def loadEnvironment : IO Environment := do
  let names := "ARCHGEN_TIMEOUT" :: Settings.textVariables.map Prod.snd
  names.filterMapM fun name => do return (← IO.getEnv name).map fun value => (name, value)

/-- Loads the reply to the sample request. -/
def loadReply : IO Reply := do
  match ← IO.getEnv "ARCHGEN_SAMPLE" with
  | some file => return .response 200 (← IO.FS.readFile file)
  | none => return .notConnected "no network"

/-- Runs the program with more and more lines until all its questions are answered or the input
ends; `shown` entries of the console have been shown. -/
partial def converse (world : World) (lines : List String) (shown : Nat) :
    IO (ProgramEnd × FileTree) := do
  let (ending, tree, session) := world.run lines
  let visible := Log.untilQuestion lines.length session.log
  let output ← IO.getStdout
  output.putStr (String.join ((visible.drop shown).map LogEntry.text))
  output.flush
  if session.log.countP LogEntry.isQuestion ≤ lines.length then return (ending, tree)
  let line ← (← IO.getStdin).getLine
  if line.isEmpty then
    output.putStr (String.join ((session.log.drop visible.length).map LogEntry.text))
    return (ending, tree)
  let typed := String.ofList (Text.dropEndWhile (· == '\n') line.toList)
  converse world (lines ++ [typed]) visible.length

/-- Writes what a program wrote to the standard streams, and its exit status. -/
def conclude (ending : ProgramEnd) : IO UInt32 := do
  (← IO.getStdout).putStr ending.streams.output
  (← IO.getStderr).putStr ending.streams.error
  match ending.stop with
  | none => return 0
  | some (.command stop) => return UInt32.ofNat stop.status
  | some stop =>
    (← IO.getStderr).putStrLn stop.message
    return 1

/-- Runs the program on the current directory. -/
def runHere (arguments : List String) : IO UInt32 := do
  let tree ← loadTree
  let world : World :=
    { environment := ← loadEnvironment, reply := ← loadReply, arguments, tree }
  let (ending, after) ← converse world [] 0
  saveTree tree after
  conclude ending

end DartLayers

/-- The program. -/
def main (arguments : List String) : IO UInt32 :=
  DartLayers.runHere arguments
