/-!
This module contains the edit distance of two texts: the number of characters that have to be
inserted, deleted or replaced to turn one into the other. It is computed row by row: the row of `cs`
holds the distances of `cs` to every beginning of the other text.
-/

namespace QueryLinker.Text

def nextRow (c : Char) (target : List Char) : List Nat → List Nat
  | [] => []
  | d :: ds => (d + 1) :: go (d + 1) d target ds
where
  /-- `left` is the entry written last, `diagonal` the one before it in the row above. -/
  go (left diagonal : Nat) : List Char → List Nat → List Nat
    | t :: target, up :: row =>
      let replaced := diagonal + if c == t then 0 else 1
      let entry := min (min (up + 1) (left + 1)) replaced
      entry :: go entry up target row
    | _, _ => []

def firstRow (target : List Char) : List Nat :=
  List.range (target.length + 1)

def editDistance (source target : List Char) : Nat :=
  (source.foldl (fun row c => nextRow c target row) (firstRow target)).getLastD 0

end QueryLinker.Text
