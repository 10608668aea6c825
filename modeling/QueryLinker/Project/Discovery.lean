import QueryLinker.Files.Tree
import QueryLinker.Limits

/-!
This module contains the discovery of source files: all files at any depth below directories, by the
endings of their names. Every directory on the way is listed, and every file is asked whether it is
one, whatever its name is; so a path that is too long ends the search, and so does a way through
more directories than the stack has room for.
-/

namespace QueryLinker.Discovery

structure Search where
  endings : List String
  excluded : List String := []
deriving Repr

def declarationEnding : String := ".d.ts"

def Search.accepts (s : Search) (way : List String) : Bool :=
  match way.getLast? with
  | none => false
  | some name =>
    !name.endsWith declarationEnding && s.endings.any (fun ending => name.endsWith ending) &&
      !way.dropLast.any s.excluded.contains

def wayLe : List String → List String → Bool
  | [], _ => true
  | _ :: _, [] => false
  | a :: as, b :: bs => if a = b then wayLe as bs else decide (a ≤ b)

def pathBelow (directory : String) (way : List String) : String :=
  toString (Path.ofString directory ++ Path.mk "" way)

def waysIn (entries : List (String × FileTree)) : List (List String) :=
  ((FileTree.entriesFiles entries).map (·.1)).mergeSort wayLe

def below (t : FileTree) (cwd : String) (s : Search) (directory : String) : List String :=
  match t.find? cwd directory with
  | some (.directory entries) => ((waysIn entries).filter s.accepts).map (pathBelow directory)
  | _ => []

/-- The files below several directories, each path once; a missing directory has none. -/
def find (t : FileTree) (cwd : String) (s : Search) (directories : List String) : List String :=
  (directories.flatMap (below t cwd s)).eraseDups

inductive Stop where
  | file (failure : FileFailure)
  | tooDeep
deriving DecidableEq, Repr

def pathStop? (directory : String) (way : List String) : Option Stop :=
  let path := pathBelow directory way
  if FileTree.maxPathSize < path.utf8ByteSize then some (.file ⟨.tooLong, path⟩) else none

mutual

/--
Where the listing of directories ends, one after the other with those inside it. The way leads to
the tree from the directory that is searched.
-/
def listingStop? (directory : String) (nesting : Nat) (way : List String) :
    FileTree → Option Stop
  | .file _ => none
  | .directory entries =>
    if way.length < nesting then
      (pathStop? directory way).or (entriesStop? directory nesting way entries)
    else some .tooDeep
termination_by structural t => t

def entriesStop? (directory : String) (nesting : Nat) (way : List String) :
    List (String × FileTree) → Option Stop
  | [] => none
  | e :: es =>
    (entryStop? directory nesting way e).or (entriesStop? directory nesting way es)
termination_by structural es => es

def entryStop? (directory : String) (nesting : Nat) (way : List String) :
    String × FileTree → Option Stop
  | (name, t) => listingStop? directory nesting (way ++ [name]) t
termination_by structural e => e

end

/-- Where the search of one directory ends, if it does not go through all that is below. -/
def directoryStop? (t : FileTree) (cwd : String) (nesting : Nat) (directory : String) :
    Option Stop :=
  match t.isThere cwd directory with
  | .error failure => some (.file failure)
  | .ok _ =>
    match t.find? cwd directory with
    | some (.directory entries) =>
      -- All directories are listed before any file is asked for.
      (listingStop? directory nesting [] (.directory entries)).or
        ((waysIn entries).findSome? (pathStop? directory))
    | _ => none

def stop? (t : FileTree) (cwd : String) (directories : List String) (nesting : Nat) :
    Option Stop :=
  directories.findSome? (directoryStop? t cwd nesting)

def checkNames (t : FileTree) (cwd : String) (directories : List String)
    (nesting : Nat := usualNesting) : Except FileFailure Unit :=
  match stop? t cwd directories nesting with
  | some (.file failure) => .error failure
  | _ => .ok ()

def search (t : FileTree) (cwd : String) (s : Search) (directories : List String)
    (nesting : Nat := usualNesting) : Except Stop (List String) := do
  (checkNames t cwd directories nesting).mapError .file
  if stop? t cwd directories nesting = some .tooDeep then throw .tooDeep
  return find t cwd s directories

end QueryLinker.Discovery
