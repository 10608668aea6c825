import QueryLinker.Console.Block
import QueryLinker.Project.Failure
import QueryLinker.Project.Http

/-!
This module contains the state that runs over a project share: the files, the requests that were
made and the lines that were printed. Work may fail, and what it did before stays.
-/

namespace QueryLinker

structure Session where
  files : FileTree
  outcomes : List Http.Outcome := []
  requests : List Http.Request := []
  lines : List String := []

abbrev Work := ExceptT RunFailure (StateM Session)

namespace Session

def post (r : Http.Request) : Work Http.Outcome := do
  modify fun s => { s with requests := s.requests ++ [r] }
  match (← get).outcomes with
  | [] => throw .noOutcome
  | outcome :: outcomes =>
    modify fun s => { s with outcomes }
    return outcome.ofServer r.url

def print (width : Nat) (blocks : List Console.Block) : Work Unit := do
  let (lines, flaw?) := Console.print blocks width
  modify fun s => { s with lines := s.lines ++ lines }
  match flaw? with
  | some flaw => throw (.markup flaw)
  | none => return

def isThere (cwd path : String) : Work Bool := do
  match (← get).files.isThere cwd path with
  | .ok isThere => return isThere
  | .error failure => throw (.file failure)

def readText (cwd path : String) : Work String := do
  match (← get).files.readText cwd path with
  | .ok text => return text
  | .error failure => throw (.ofRead failure)

def readJson (nesting : Nat) (cwd path : String) : Work Json := do
  let text ← readText cwd path
  match Json.read text (nesting - 1) with
  | .ok value => return value
  | .error e => throw (.notJson e text)

def change (result : Except FileFailure FileTree) : Work Unit :=
  match result with
  | .ok files => modify fun s => { s with files }
  | .error failure => throw (.file failure)

def writeJson (nesting : Nat) (cwd path : String) (value : Json) : Work Unit := do
  let written := value.written nesting 0 []
  change ((← get).files.write cwd path (String.ofList written.text).toUTF8)
  match written.flaw? with
  -- The file keeps what was written before the flaw.
  | some flaw => throw (.notWritten flaw)
  | none => return

def makeDirectories (cwd path : String) : Work Unit := do
  change ((← get).files.makeDirectories cwd path)

end Session

end QueryLinker
