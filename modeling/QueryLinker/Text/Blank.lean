import QueryLinker.Text.CharRange

/-!
This module contains white space: the characters that count as blank in any script, and the removal
of blanks from the ends of a text.
-/

namespace QueryLinker.Text

def blankRanges : List (Nat × Nat) :=
  [(9, 13), (28, 32), (133, 133), (160, 160), (5760, 5760), (8192, 8202), (8232, 8233),
   (8239, 8239), (8287, 8287), (12288, 12288)]

def isBlank (c : Char) : Bool :=
  inRanges blankRanges c

def isBlankText (s : String) : Bool :=
  s.toList.all isBlank

end QueryLinker.Text
