/-!
This module contains the parts of a text between separators, and lines and columns. A position is
the number of its line and the number of its column, both counted from one.
-/

namespace QueryLinker.Text

structure Position where
  line : Nat
  column : Nat
deriving DecidableEq, Repr, Inhabited

def isLineBreak (c : Char) : Bool :=
  c == '\n' || c == '\r' || c == '\x0b' || c == '\x0c' || c == '\x1c' || c == '\x1d' ||
    c == '\x1e' || c == '\u0085' || c == '\u2028' || c == '\u2029'

def splitLines (cs : List Char) : List (List Char) :=
  go [] cs
where
  go (line : List Char) : List Char → List (List Char)
    | [] => if line.isEmpty then [] else [line.reverse]
    | '\r' :: '\n' :: cs => line.reverse :: go [] cs
    | c :: cs => if isLineBreak c then line.reverse :: go [] cs else go (c :: line) cs

/--
The position right behind `before`: the last line of `before` and the column after its end. What
follows a line break directly is thus still one column past the end of the line before it.
-/
def positionAfter (before : List Char) : Position :=
  match (splitLines before).getLast? with
  | none => ⟨1, 1⟩
  | some line => ⟨(splitLines before).length, line.length + 1⟩

def splitAt (separator : Char) (cs : List Char) : List (List Char) :=
  go [] cs
where
  go (current : List Char) : List Char → List (List Char)
    | [] => [current.reverse]
    | c :: cs => if c == separator then current.reverse :: go [] cs else go (c :: current) cs

def splitNewlines (cs : List Char) : List (List Char) :=
  go [] cs
where
  go (line : List Char) : List Char → List (List Char)
    | [] => [line.reverse]
    | '\r' :: '\n' :: cs => line.reverse :: go [] cs
    | c :: cs => if c == '\n' || c == '\r' then line.reverse :: go [] cs else go (c :: line) cs

def unifyNewlines : List Char → List Char
  | [] => []
  | '\r' :: '\n' :: cs => '\n' :: unifyNewlines cs
  | c :: cs => (if c == '\r' then '\n' else c) :: unifyNewlines cs

end QueryLinker.Text
