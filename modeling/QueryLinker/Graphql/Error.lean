import QueryLinker.Graphql.Source

/-!
This module contains errors about documents and how they are displayed: the message, followed by the
lines around every place that the error points at.
-/

namespace QueryLinker.Graphql

structure Error where
  message : String
  nodes : List (Option Loc)
deriving Repr, Inhabited

namespace Error

def locs (e : Error) : List Loc :=
  e.nodes.filterMap id

def positions (e : Error) : List Text.Position :=
  e.locs.map (·.position)

def padLeft (width : Nat) (s : String) : String :=
  String.ofList (List.replicate (width - s.length) ' ') ++ s

def withMargins (lines : List (String × String)) : String :=
  let width := (lines.map (·.1.length)).foldl max 0
  "\n".intercalate (lines.map fun (margin, line) =>
    padLeft width margin ++ if line.isEmpty then "" else " " ++ line)

def maxShownSize : Nat := 120

def pieceSize : Nat := 80

def pieces (fuel : Nat) (line : List Char) : List String :=
  match fuel, line with
  | 0, _ => []
  | _, [] => []
  | fuel + 1, line => String.ofList (line.take pieceSize) :: pieces fuel (line.drop pieceSize)

def longExcerpt (margin shown : String) (column : Nat) (mark : Nat → String × String) : String :=
  let parts := pieces shown.length shown.toList
  let last := column / pieceSize
  let part (i : Nat) : String := parts.getD i ""
  withMargins
    ([(margin, part 0)] ++ ((parts.drop 1).take last).map (fun s => ("|", s)) ++
      [mark (column % pieceSize)] ++
      if last + 1 < parts.length then [("|", part (last + 1))] else [])

/--
The lines around a position of a text, with a mark below the column. Positions count line breaks
that do not break lines here; behind the last line there is nothing to show.
-/
def excerpt? (body : String) (p : Text.Position) : Option String :=
  let lines := (Text.splitNewlines body.toList).map String.ofList
  let index := p.line - 1
  let number (n : Nat) : String := toString n ++ " |"
  let mark (column : Nat) : String × String := ("|", padLeft column "^")
  (lines[index]?).map fun shown =>
    "GraphQL request:" ++ toString p.line ++ ":" ++ toString p.column ++ "\n" ++
      if maxShownSize < shown.length then longExcerpt (number p.line) shown p.column mark
      else
        let before := if 0 < index then lines[index - 1]? else none
        withMargins
          ((before.map fun line => (number (p.line - 1), line)).toList ++
            [(number p.line, shown), mark p.column] ++
            ((lines[index + 1]?).map fun line => (number (p.line + 1), line)).toList)

def display? (e : Error) : Option String := do
  let excerpts ← e.locs.mapM fun loc => excerpt? loc.source.body loc.position
  return "\n\n".intercalate (e.message :: excerpts)

end Error

end QueryLinker.Graphql
