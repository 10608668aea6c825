/-!
This module contains classes and mappings of characters that are given as tables of code point
ranges.
-/

namespace QueryLinker.Text

def inRanges (ranges : List (Nat × Nat)) (c : Char) : Bool :=
  ranges.any fun (first, last) => first ≤ c.toNat && c.toNat ≤ last

structure SteppedRange where
  first : Nat
  last : Nat
  step : Nat
deriving DecidableEq, Repr

namespace SteppedRange

def contains (range : SteppedRange) (c : Char) : Bool :=
  range.first ≤ c.toNat && c.toNat ≤ range.last && (c.toNat - range.first) % range.step == 0

end SteppedRange

def inSteppedRanges (ranges : List SteppedRange) (c : Char) : Bool :=
  ranges.any (·.contains c)

structure ShiftedRange where
  first : Nat
  last : Nat
  step : Nat
  offset : Int
deriving DecidableEq, Repr

namespace ShiftedRange

def contains (range : ShiftedRange) (c : Char) : Bool :=
  (SteppedRange.mk range.first range.last range.step).contains c

end ShiftedRange

def shift (ranges : List ShiftedRange) (c : Char) : Char :=
  match ranges.find? (·.contains c) with
  | some range => Char.ofNat (Int.toNat (c.toNat + range.offset))
  | none => c

end QueryLinker.Text
