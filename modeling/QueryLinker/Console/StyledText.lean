/-!
This module contains texts, stretches of which are styled, and how they are cut and joined. Of a
stretch that is cut, each part is styled in the same way.
-/

namespace QueryLinker.Console

structure Stretch where
  start : Nat
  stop : Nat
  style : String
deriving DecidableEq, Repr

structure StyledText where
  chars : List Char
  stretches : List Stretch := []
deriving DecidableEq, Repr, Inhabited

namespace StyledText

def ofString (s : String) : StyledText :=
  ⟨s.toList, []⟩

def text (t : StyledText) : String :=
  String.ofList t.chars

def withChars (t : StyledText) (chars : List Char) : StyledText :=
  let size := chars.length
  if t.chars.length ≤ size then { t with chars }
  else
    { chars
      stretches := (t.stretches.filter fun s => s.start < size).map fun s =>
        { s with stop := min size s.stop } }

def extract (t : StyledText) (start stop : Nat) : StyledText :=
  { chars := (t.chars.take stop).drop start
    stretches := t.stretches.filterMap fun s =>
      let first := max start s.start
      let last := min stop s.stop
      if first < last then some { s with start := first - start, stop := last - start } else none }

def piecesFrom (t : StyledText) (start : Nat) : List Nat → List StyledText
  | [] => []
  | size :: sizes => t.extract start (start + size) :: t.piecesFrom (start + size) sizes

def divide (t : StyledText) (sizes : List Nat) : List StyledText :=
  if sizes.length ≤ 1 then [t] else t.piecesFrom 0 sizes

def joinFrom (before : StyledText) : List StyledText → StyledText
  | [] => before
  | t :: ts =>
    let size := before.chars.length
    let moved := t.stretches.map fun s => { s with start := size + s.start, stop := size + s.stop }
    joinFrom ⟨before.chars ++ t.chars, before.stretches ++ moved⟩ ts

def join (ts : List StyledText) : StyledText :=
  joinFrom ⟨[], []⟩ ts

def addBlanks (t : StyledText) (count : Nat) : StyledText :=
  { chars := t.chars ++ List.replicate count ' '
    stretches := t.stretches.map fun s =>
      if t.chars.length ≤ s.stop then { s with stop := s.stop + count } else s }

theorem chars_extract (t : StyledText) (start stop : Nat) :
    (t.extract start stop).chars = (t.chars.take stop).drop start :=
  rfl

end StyledText

end QueryLinker.Console
