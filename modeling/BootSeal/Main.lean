import BootSeal.CommandLine.Run
/-!
# The program

The files and directories that a command line may speak of are gathered into a store, the command
line is run on it, and the files that the run has changed are written back. A run does not wait for
answers: as long as it asks for more of them than it was given, one more is asked for and it is run
again.
-/

namespace BootSeal.Main

open CommandLine

/-- The words that may be paths: every word, and every part at the end of a word that starts like an
option. -/
def candidatePaths (line : List String) : List String :=
  line.flatMap fun word =>
    if word.startsWith "-" then
      (List.range word.length).map fun n => String.ofList (word.toList.drop n)
    else [word]

def pathOf : Route → String
  | "/" :: rest => "/" ++ "/".intercalate rest
  | route => "/".intercalate route

/-- The routes on the way to a path, from the first directory to the path itself. -/
def routesTo (path : String) : List Route :=
  let step (routes : List Route) (name : String) : List Route :=
    let last := routes.getLast?.getD []
    routes ++ [if name = "." then last else if name = ".." then last.parent else last ++ [name]]
  (Store.components path).foldl step []

def gather (s : Store) (route : Route) : IO Store := do
  let path := (← IO.currentDir) / pathOf route
  if ← path.isDir then return s.addDirectories route
  if ← path.pathExists then
    let data ← path.metadata
    if data.type == .file then
      return s.putFile route (← IO.FS.readBinFile path).toList
  return s

def gatherAll (line : List String) : IO Store :=
  ((candidatePaths line).flatMap routesTo).foldlM gather {}

def writeBack (before after : Store) : IO Unit :=
  after.files.forM fun (route, content) => do
    if before.file? route ≠ some content then
      IO.FS.writeBinFile ((← IO.currentDir) / pathOf route) ⟨content.toArray⟩

/-- Asks for an answer, which ends with its line; there is none at the end of the input. -/
def ask (prompt : String) : IO (Option String) := do
  let err ← IO.getStderr
  err.putStr prompt
  err.flush
  let line ← (← IO.getStdin).getLine
  if line.isEmpty then return none
  return some (String.ofList (line.toList.reverse.dropWhile (· == '\n')).reverse)

/-- Runs a command line, asking for answers until it has as many as it asks for. -/
partial def converse (s : Store) (line answers : List String) (entropy : Bytes) : IO Outcome := do
  let o := run s line answers entropy
  match o.prompts[answers.length]? with
  | none => return o
  | some prompt =>
      match ← ask prompt with
      | none => return o
      | some answer => converse s line (answers ++ [answer]) entropy

end BootSeal.Main

def main (line : List String) : IO UInt32 := do
  let store ← BootSeal.Main.gatherAll line
  let entropy ← IO.getRandomBytes 128
  let o ← BootSeal.Main.converse store line [] entropy.toList
  BootSeal.Main.writeBack store o.store
  let out ← IO.getStdout
  out.write ⟨o.output.toArray⟩
  out.flush
  let err ← IO.getStderr
  err.putStr o.errors
  match o.crash with
  | none => pure ()
  | some c => err.putStr (c.message ++ "\n")
  return o.status.toUInt32
