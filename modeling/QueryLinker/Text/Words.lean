import QueryLinker.Text.Alphanumeric
import QueryLinker.Text.LetterCase

/-!
This module contains the logic to cut a text into words and to write them in kebab case. A word ends
where a character is neither letter nor digit, between a letter and a digit, and where the case
changes: in front of an upper case letter that follows a lower case one, and in front of the last of
several upper case letters if a lower case one follows it.
-/

namespace QueryLinker.Text

def runs : List Char → List (List Char)
  | [] => []
  | c :: cs =>
    if isDigit c then
      (c :: cs.takeWhile isDigit) :: runs (cs.dropWhile isDigit)
    else if isLetter c then
      (c :: cs.takeWhile isLetter) :: runs (cs.dropWhile isLetter)
    else
      runs cs
termination_by cs => cs.length
decreasing_by
  . exact Nat.lt_succ_of_le (List.dropWhile_sublist _).length_le
  . exact Nat.lt_succ_of_le (List.dropWhile_sublist _).length_le
  . simp

def startsWord (previous c : Char) (following : List Char) : Bool :=
  isUpper c && (!isUpper previous || (following.head?.any fun next => !isUpper next))

def splitCase : List Char → List (List Char)
  | [] => []
  | c :: cs => go [c] c cs
where
  go (word : List Char) (previous : Char) : List Char → List (List Char)
    | [] => [word.reverse]
    | c :: cs =>
      if startsWord previous c cs then
        word.reverse :: go [c] c cs
      else
        go (c :: word) c cs

def words (cs : List Char) : List (List Char) :=
  (runs cs).flatMap splitCase

def kebabCase (s : String) : String :=
  "-".intercalate ((words s.toList).map fun word => String.ofList (lowerList word))

end QueryLinker.Text
