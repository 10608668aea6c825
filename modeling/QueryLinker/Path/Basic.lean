import QueryLinker.Text.Words

/-!
This module contains paths: their components, how they are joined, made absolute and made relative
to a directory. A path starts at the root or at the current directory; empty components and single
dots say nothing, and two dots climb one directory up. They are kept unless a path is made absolute.
-/

namespace QueryLinker

structure Path where
  root : String
  parts : List String
deriving DecidableEq, Repr, Inhabited

namespace Path

def rootOf (cs : List Char) : String :=
  match (cs.takeWhile (· == '/')).length with
  | 0 => ""
  -- Two slashes are a root of their own, and three are not.
  | 2 => "//"
  | _ => "/"

def components (cs : List Char) : List String :=
  go [] cs
where
  go (current : List Char) : List Char → List String
    | [] => [String.ofList current.reverse]
    | c :: cs =>
      if c == '/' then String.ofList current.reverse :: go [] cs else go (c :: current) cs

def namedComponents (cs : List Char) : List String :=
  (components cs).filter fun part => part != "" && part != "."

def ofString (s : String) : Path :=
  ⟨rootOf s.toList, namedComponents s.toList⟩

instance : ToString Path where
  toString p :=
    if p.root == "" && p.parts.isEmpty then "." else p.root ++ "/".intercalate p.parts

def isAbsolute (p : Path) : Bool :=
  p.root != ""

def append (p q : Path) : Path :=
  if q.isAbsolute then q else ⟨p.root, p.parts ++ q.parts⟩

instance : Append Path := ⟨append⟩

def parent (p : Path) : Path :=
  ⟨p.root, p.parts.dropLast⟩

def join (texts : List String) : String :=
  toString (texts.foldl (fun p s => p ++ ofString s) (Path.mk "" []))

def joinText (a b : String) : String :=
  if b.startsWith "/" then b
  else if a == "" || a.endsWith "/" then a ++ b
  else a ++ "/" ++ b

def collapse (absolute : Bool) (parts : List String) : List String :=
  (parts.foldl step []).reverse
where
  step (done : List String) (part : String) : List String :=
    if part != ".." then part :: done
    else
      match done with
      | [] => if absolute then [] else [part]
      | last :: rest => if last == ".." then part :: done else rest

def absoluteParts (cwd text : String) : List String :=
  let full := if text.startsWith "/" then text else joinText cwd text
  collapse (full.startsWith "/") (namedComponents full.toList)

def absolute (cwd text : String) : String :=
  let full := if text.startsWith "/" then text else joinText cwd text
  let path : Path := ⟨rootOf full.toList, absoluteParts cwd text⟩
  toString path

def dropCommon : List String → List String → List String × List String
  | a :: as, b :: bs => if a == b then dropCommon as bs else (a :: as, b :: bs)
  | as, bs => (as, bs)

def relativeParts (path start : List String) : List String :=
  let (up, down) := dropCommon start path
  up.map (fun _ => "..") ++ down

/-- `path` relative to `start`; a path that is no text at all has no place anywhere. -/
def relative? (cwd path start : String) : Option String :=
  if path == "" then none
  else
    some (toString (Path.mk "" (relativeParts (absoluteParts cwd path) (absoluteParts cwd start))))

def expandHome? (home text : String) : Option String :=
  let path := ofString text
  match path.root, path.parts with
  | "", first :: rest =>
    if first == "~" then some (toString (ofString home ++ Path.mk "" rest))
    else if first.startsWith "~" then none
    else some (toString path)
  | _, _ => some (toString path)

end Path

end QueryLinker
