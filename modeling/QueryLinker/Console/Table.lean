import QueryLinker.Console.Line
import QueryLinker.Number.Binary64

/-!
This module contains tables without rules. Each column is as wide as the widest of its cells, and a
blank stands on both sides of every cell. Where there is not enough room the widest columns give
way.
-/

namespace QueryLinker.Console

open Text

def paddingWidth : Nat := 2

def textWidth (t : StyledText) : Nat :=
  ((splitLines t.chars).map cellWidth).foldl max 0

def columnWidth (width : Nat) (cells : List StyledText) : Nat :=
  if cells.isEmpty then width
  else min width ((cells.map textWidth).foldl max 0 + paddingWidth)

def reduce (limit excess marked : Nat) : List (Nat × Bool) → List Nat
  | [] => []
  | (size, isMarked) :: rest =>
    if isMarked && 0 < marked then
      let part := min limit (Number.roundHalfEven excess marked)
      (size - part) :: reduce limit (excess - part) (marked - 1) rest
    else size :: reduce limit excess marked rest

def total (sizes : List Nat) : Nat :=
  sizes.foldl (· + ·) 0

def collapse (limit : Nat) : Nat → List Nat → List Nat
  | 0, sizes => sizes
  | fuel + 1, sizes =>
    let excess := total sizes - limit
    if excess = 0 then sizes
    else
      let widest := sizes.foldl max 0
      let second := (sizes.filter (· != widest)).foldl max 0
      let marked := sizes.map fun size => (size, size == widest)
      collapse limit fuel
        (reduce (min excess (widest - second)) excess (marked.countP (·.2)) marked)

def columnWidths (width : Nat) (columns : List (List StyledText)) : List Nat :=
  let sizes := columns.map (columnWidth width)
  collapse width (total sizes) sizes

def cellLines (size : Nat) (t : StyledText) : List StyledText :=
  let room := size - paddingWidth
  if room = 0 then [] else (writtenLines t).flatMap (wrap .ellipsis room)

def padded (size : Nat) (line : List Char) : List Char :=
  let room := size - paddingWidth
  ' ' :: fitCells room (fitCells room line) ++ [' ']

def rowLines (sizes : List Nat) (row : List (List StyledText)) : List (List Char) :=
  let cells := (sizes.zip row).map fun (size, lines) =>
    (size, lines.map fun (line : StyledText) => padded size line.chars)
  let height := (cells.map fun (_, lines) => lines.length).foldl max 1
  (List.range height).map fun i =>
    cells.flatMap fun (size, lines) => lines.getD i (List.replicate size ' ')

def transpose {α : Type} [Inhabited α] (lists : List (List α)) : List (List α) :=
  let count := (lists.map List.length).foldl max 0
  (List.range count).map fun i => lists.map fun list => list.getD i default

def cellRows (width : Nat) (columns : List (List StyledText)) : List (List (List StyledText)) :=
  let sizes := columnWidths width columns
  (transpose columns).map fun row => (sizes.zip row).map fun (size, t) => cellLines size t

def tableLines (width : Nat) (columns : List (List StyledText)) : List String :=
  ((cellRows width columns).flatMap (rowLines (columnWidths width columns))).map String.ofList

end QueryLinker.Console
