import QueryLinker.Text.CellWidth

/-!
This module contains the cells that a text takes on a terminal, and how a text is cut or filled up
so that it takes a given number of them. A character behind a joiner takes no cells, and a mark that
makes an emoji of a narrow character makes it wide.
-/

namespace QueryLinker.Text

def isJoiner (c : Char) : Bool :=
  c == '\u200d'

def isEmojiMark (c : Char) : Bool :=
  c == '\ufe0f'

def addedCells (last? : Option Char) : Nat :=
  if last?.any isNarrowEmoji then 1 else 0

def cellsFrom (last? : Option Char) : List Char → Nat
  | [] => 0
  | c :: cs =>
    if isJoiner c then
      match cs with
      | [] => 0
      | _ :: cs => cellsFrom last? cs
    else if isEmojiMark c then addedCells last? + cellsFrom none cs
    else
      let size := cellWidthOf c
      size + cellsFrom (if size = 0 then last? else some c) cs

def cellWidth (cs : List Char) : Nat :=
  cellsFrom none cs

structure Cluster where
  chars : List Char
  cells : Nat
deriving DecidableEq, Repr

namespace Cluster

def add (k : Cluster) (cs : List Char) : Cluster :=
  { k with chars := k.chars ++ cs }

end Cluster

/--
The clusters of the rest of a text. `current?` is the cluster that is being put together, and
`last?` the last character before that takes cells. Only the first cluster of a text may take none.
-/
def clustersFrom (last? : Option Char) (current? : Option Cluster) : List Char → List Cluster
  | [] => current?.toList
  | c :: cs =>
    let size := if isJoiner c || isEmojiMark c then 0 else cellWidthOf c
    if size = 0 then
      match current? with
      | none => clustersFrom last? (some ⟨[c], 0⟩) cs
      | some k =>
        if isJoiner c then
          match cs with
          | [] => [k.add [c]]
          | d :: cs => clustersFrom last? (some (k.add [c, d])) cs
        else if isEmojiMark c then
          clustersFrom none (some ⟨k.chars ++ [c], k.cells + addedCells last?⟩) cs
        else clustersFrom last? (some (k.add [c])) cs
    else current?.toList ++ clustersFrom (some c) (some ⟨[c], size⟩) cs

def clusters (cs : List Char) : List Cluster :=
  clustersFrom none none cs

def takeCells : Nat → List Cluster → List Char
  | _, [] => []
  | room, k :: ks =>
    if room = 0 then []
    else if k.cells ≤ room then k.chars ++ takeCells (room - k.cells) ks
    -- A blank stands for the half of a wide cluster.
    else [' ']

def fitCells (size : Nat) (cs : List Char) : List Char :=
  let given := cellWidth cs
  if given ≤ size then cs ++ List.replicate (size - given) ' '
  else takeCells size (clusters cs)

def chopClusters (limit : Nat) (line : List Char) (used : Nat) : List Cluster → List (List Char)
  | [] => if used = 0 then [] else [line]
  | k :: ks =>
    if limit < used + k.cells then line :: chopClusters limit k.chars k.cells ks
    else chopClusters limit (line ++ k.chars) (used + k.cells) ks

def chopCells (limit : Nat) (cs : List Char) : List (List Char) :=
  chopClusters limit [] 0 (clusters cs)

end QueryLinker.Text
