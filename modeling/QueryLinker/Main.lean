import QueryLinker.Project.Command
import Std.Time.DateTime.Timestamp

/-!
This module contains the program. It takes a snapshot of the files that a command may ask for, runs
the command on it, prints what the command printed, and writes the files that the command changed.
-/

namespace QueryLinker.Program

def pathOf (way : List String) : String :=
  "/" ++ "/".intercalate way

def wayOf (cwd path : String) : List String :=
  Path.absoluteParts cwd path

partial def addPlace (leftOut : List String) (t : FileTree) (way : List String) : IO FileTree := do
  let place := (← IO.currentDir) / pathOf way
  if ← place.isDir then
    let mut t := if (t.at? way).isNone then t.put .empty way else t
    for entry in ← place.readDir do
      if !leftOut.contains entry.fileName then
        t ← addPlace leftOut t (way ++ [entry.fileName])
    return t
  else if ← place.pathExists then
    return t.put (.file (← IO.FS.readBinFile place)) way
  else return t

def addNamed (leftOut : List String) (t : FileTree) (way : List String) : IO FileTree := do
  let parent := (← IO.currentDir) / pathOf way.dropLast
  let t := if (← parent.isDir) && (t.at? way.dropLast).isNone then t.put .empty way.dropLast else t
  addPlace leftOut t way

def namedByArgs (args : List String) : List String :=
  args.flatMap fun arg => (arg :: (Command.splitOption arg).2.toList).filter (!·.isEmpty)

def configFile? : Command → Option String
  | .compile c => c.configFile?
  | .pullSchema c => c.configFile?
  | .initConfig _ => none

def namedByConfig (c : Config) : List String :=
  let schemaFile := match c.schemaFile with | .text file => [file.text] | _ => []
  [c.projectRoot, c.schemaCacheDirectory] ++ schemaFile

def snapshot (s : Surroundings) (args : List String) (c : Command) : IO FileTree := do
  let file := (configFile? c).getD (Config.defaultFile s)
  let mut t ← addNamed [] FileTree.empty (wayOf s.directory file)
  let (leftOut, named) :=
    match Config.load s t (configFile? c) with
    | .ok config =>
      ((CompileRun.excludedNames config.excludedDirectories).toOption.getD [], namedByConfig config)
    | .error _ => (Config.defaultExcludedDirectories, [])
  for path in s.directory :: (namedByArgs args ++ named) do
    t ← addNamed leftOut t (wayOf s.directory path)
  return t

def writeChanges (before after : FileTree) : IO Unit := do
  for (way, content) in after.files do
    let same := match before.at? way with | some (.file old) => old == content | _ => false
    if !same then
      IO.FS.createDirAll (pathOf way.dropLast)
      IO.FS.writeBinFile (pathOf way) content

def currentTime : IO Timestamp := do
  let now ← Std.Time.Timestamp.now
  return Timestamp.ofEpoch (now.toNanosecondsSinceUnixEpoch.val.toNat / 1000)

def surroundings : IO Surroundings := do
  return { directory := toString (← IO.currentDir), home := (← IO.getEnv "HOME").getD "/"
           now := ← currentTime, token? := ← IO.getEnv "GQC_TOKEN" }

def usage : List String :=
  ["Usage: gqc compile [DIRS]... [--url URL] [--schema FILE] [--root DIR] [--config FILE]",
   "                   [--output console|json] [--out FILE] [--fail-on-error]",
   "                   [--refresh-schema] [--verbose]",
   "       gqc schema pull [--url URL] [--token TOKEN] [--out FILE] [--config FILE]",
   "       gqc init-config [--path FILE]"]

def runCommand (args : List String) (c : Command) : IO UInt32 := do
  let s ← surroundings
  let files ← snapshot s args c
  let (result, session) := c.run s { files, outcomes := [.unreachable "no network"] }
  writeChanges files session.files
  for line in session.lines do
    IO.println line
  match result with
  | .ok status => return status
  | .error f =>
    IO.eprintln (f.message?.getD "")
    return Command.failed

end QueryLinker.Program

open QueryLinker in
def main (args : List String) : IO UInt32 := do
  match Command.ofArgs? args with
  | some c => Program.runCommand args c
  | none =>
    for line in Program.usage do
      IO.eprintln line
    return 2
