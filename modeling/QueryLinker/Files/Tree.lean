import QueryLinker.Keyed
import QueryLinker.Path.Basic
import QueryLinker.Text.Lines
import QueryLinker.Text.Quoted
import QueryLinker.Text.Utf8

/-!
This module contains trees of files and directories: what is found at a path, and how files are
read, written and made. A path is followed component by component, so that two dots climb from a
directory that has to be there.
-/

namespace QueryLinker

inductive FileTree where
  | file (content : ByteArray)
  | directory (entries : List (String × FileTree))
deriving Inhabited

inductive FileFlaw where
  | notFound
  | isDirectory
  | notDirectory
  | exists
  | nullCharacter
  | tooLong
deriving DecidableEq, Repr

structure FileFailure where
  flaw : FileFlaw
  path : String
deriving DecidableEq, Repr

namespace FileFailure

def message (f : FileFailure) : String :=
  let shown := ": " ++ Text.quoted f.path
  match f.flaw with
  | .notFound => "[Errno 2] No such file or directory" ++ shown
  | .isDirectory => "[Errno 21] Is a directory" ++ shown
  | .notDirectory => "[Errno 20] Not a directory" ++ shown
  | .exists => "[Errno 17] File exists" ++ shown
  | .nullCharacter => "embedded null byte"
  | .tooLong => "[Errno 36] File name too long" ++ shown

end FileFailure

namespace FileTree

def empty : FileTree :=
  .directory []

def isDirectory : FileTree → Bool
  | .directory _ => true
  | .file _ => false

def entries : FileTree → List (String × FileTree)
  | .directory entries => entries
  | .file _ => []

def entry? (t : FileTree) (name : String) : Option FileTree :=
  t.entries.lookup name

def at? : FileTree → List String → Option FileTree
  | t, [] => some t
  | t, name :: names => (t.entry? name).bind fun u => u.at? names

def put (t : FileTree) (new : FileTree) : List String → FileTree
  | [] => new
  | name :: names =>
    -- A file on the way gives way to a directory.
    .directory (Keyed.put name (((t.entry? name).getD empty).put new names) t.entries)

def maxNameSize : Nat := 255

def maxPathSize : Nat := 4095

/--
Follow components from the directory that is reached by `way`, the last name first. The result is
the way to what was found, which may be a file only at the end.
-/
def follow (t : FileTree) (way : List String) : List String → Except FileFlaw (List String)
  | [] => .ok way
  | name :: names =>
    match t.at? way.reverse with
    | some (.directory entries) =>
      if name == "." then t.follow way names
      else if name == ".." then t.follow (way.drop 1) names
      else if maxNameSize < name.utf8ByteSize then .error .tooLong
      else if (entries.lookup name).isSome then t.follow (name :: way) names
      else .error .notFound
    | some (.file _) => .error .notDirectory
    | none => .error .notFound

def componentsFrom (cwd path : String) : List String :=
  let p := Path.ofString path
  if p.isAbsolute then p.parts else (Path.ofString cwd).parts ++ p.parts

def wayTo (t : FileTree) (cwd path : String) : Except FileFlaw (List String) :=
  (t.follow [] (componentsFrom cwd path)).map List.reverse

def find? (t : FileTree) (cwd path : String) : Option FileTree :=
  match t.wayTo cwd path with
  | .ok way => t.at? way
  | .error _ => none

/--
Whether something is found at a path, which is none if a name in it is too long. At a path with a
null character there is nothing, however long it is.
-/
def isThere (t : FileTree) (cwd path : String) : Except FileFailure Bool :=
  let plain := toString (Path.ofString path)
  let isNull := path.contains '\x00'
  if maxPathSize < plain.utf8ByteSize && !isNull then .error ⟨.tooLong, plain⟩
  else
    match t.wayTo cwd path with
    | .ok _ => .ok true
    | .error .tooLong => if isNull then .ok false else .error ⟨.tooLong, plain⟩
    | .error _ => .ok false

def openedComponents (cwd path : String) : List String :=
  let own := (Path.components path.toList).filter fun name => !name.isEmpty
  if path.startsWith "/" then own else (Path.ofString cwd).parts ++ own

def pathFlaw? (path : String) : Option FileFlaw :=
  if path.contains '\x00' then some .nullCharacter
  else if maxPathSize < path.utf8ByteSize then some .tooLong
  else if path.isEmpty then some .notFound
  else none

def read (t : FileTree) (cwd path : String) : Except FileFailure ByteArray :=
  match pathFlaw? path with
  | some flaw => .error ⟨flaw, path⟩
  | none =>
    let components := openedComponents cwd path ++ if path.endsWith "/" then ["."] else []
    match t.follow [] components with
    | .error flaw => .error ⟨flaw, path⟩
    | .ok way =>
      match t.at? way.reverse with
      | some (.file content) => .ok content
      | some (.directory _) => .error ⟨.isDirectory, path⟩
      | none => .error ⟨.notFound, path⟩

def write (t : FileTree) (cwd path : String) (content : ByteArray) : Except FileFailure FileTree :=
  match pathFlaw? path with
  | some flaw => .error ⟨flaw, path⟩
  | none =>
    let components := openedComponents cwd path
    match (t.follow [] components.dropLast).map List.reverse, components.getLast? with
    | .error flaw, _ => .error ⟨flaw, path⟩
    | .ok _, none => .error ⟨.isDirectory, path⟩
    | .ok way, some name =>
      match t.at? way with
      | some (.directory entries) =>
        let isDirectory := (entries.lookup name).any (·.isDirectory)
        if isDirectory || [".", ".."].contains name || path.endsWith "/" then
          .error ⟨.isDirectory, path⟩
        else if maxNameSize < name.utf8ByteSize then .error ⟨.tooLong, path⟩
        else .ok (t.put (.file content) (way ++ [name]))
      | _ => .error ⟨.notDirectory, path⟩

def makeAlong (t : FileTree) (way : List String) : List String → Except FileFlaw FileTree
  | [] => .ok t
  | name :: names =>
    if name == ".." then t.makeAlong (way.drop 1) names
    else
      let next := name :: way
      if maxNameSize < name.utf8ByteSize then .error .tooLong
      else
        match t.at? next.reverse with
        | some (.directory _) => t.makeAlong next names
        -- A file at the end exists already; one on the way is no directory.
        | some (.file _) => .error (if names.isEmpty then .exists else .notDirectory)
        | none => (t.put empty next.reverse).makeAlong next names

def makeDirectories (t : FileTree) (cwd path : String) : Except FileFailure FileTree :=
  if path.contains '\x00' then .error ⟨.nullCharacter, path⟩
  else if maxPathSize < path.utf8ByteSize then .error ⟨.tooLong, path⟩
  else (t.makeAlong [] (componentsFrom cwd path)).mapError fun flaw => ⟨flaw, path⟩

mutual

def files : FileTree → List (List String × ByteArray)
  | .file content => [([], content)]
  | .directory entries => entriesFiles entries
termination_by structural t => t

def entriesFiles : List (String × FileTree) → List (List String × ByteArray)
  | [] => []
  | e :: es => entryFiles e ++ entriesFiles es
termination_by structural es => es

def entryFiles : String × FileTree → List (List String × ByteArray)
  | (name, t) => (files t).map fun (way, content) => (name :: way, content)
termination_by structural e => e

end

end FileTree

def textOfBytes (content : ByteArray) : Except Text.Utf8.Flaw String :=
  (Text.Utf8.decode content).map fun s => String.ofList (Text.unifyNewlines s.toList)

end QueryLinker
