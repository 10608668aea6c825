import QueryLinker.Console.StyledText
import QueryLinker.Text.Blank
import QueryLinker.Text.Cluster
import QueryLinker.Text.Lines

/-!
This module contains the lines that a text takes up on a terminal. A line that is too wide is broken
between words.
-/

namespace QueryLinker.Console

open Text

def tabSize : Nat := 8

def isDropped (c : Char) : Bool :=
  c == '\x07' || c == '\x08' || c == '\x0b' || c == '\x0c' || c == '\r'

def tabParts (t : StyledText) : List StyledText :=
  let sizes := (splitAt '\t' t.chars).map List.length
  t.divide (sizes.dropLast.map (· + 1) ++ [sizes.getLastD 0])

def expandParts (column : Nat) : List StyledText → List StyledText
  | [] => []
  | part :: parts =>
    if part.chars.getLast? == some '\t' then
      let part := part.withChars (part.chars.dropLast ++ [' '])
      let column := column + cellWidth part.chars
      let room := (tabSize - column % tabSize) % tabSize
      part.addBlanks room :: expandParts (column + room) parts
    else part :: expandParts (column + cellWidth part.chars) parts

def expandTabs (t : StyledText) : StyledText :=
  if t.chars.contains '\t' then .join (expandParts 0 (tabParts t)) else t

def dropLastBlanks (cs : List Char) : List Char :=
  (cs.reverse.dropWhile isBlank).reverse

def words (cs : List Char) : List (List Char) :=
  go [] [] cs
where
  go (word blanks : List Char) : List Char → List (List Char)
    | [] => if word.isEmpty then [] else [(blanks ++ word).reverse]
    | c :: cs =>
      if isBlank c then go word (c :: blanks) cs
      else if word.isEmpty || blanks.isEmpty then go (c :: (blanks ++ word)) [] cs
      else (blanks ++ word).reverse :: go [c] [] cs

inductive Overflow where
  | fold
  | ellipsis
deriving DecidableEq, Repr

def fill (overflow : Overflow) (limit : Nat) (line : List Char) (used : Nat) :
    List (List Char) → List (List Char)
  | [] => [line]
  | word :: words =>
    let size := cellWidth (dropLastBlanks word)
    let earlier := if line.isEmpty then [] else [line]
    if used + size ≤ limit then
      fill overflow limit (line ++ word) (used + cellWidth word) words
    else if limit < size && overflow = .fold then
      let parts := chopCells limit word
      let last := parts.getLastD []
      earlier ++ parts.dropLast ++ fill overflow limit last (cellWidth last) words
    else earlier ++ fill overflow limit word (cellWidth word) words

def trimEnd (limit : Nat) (line : StyledText) : StyledText :=
  let size := line.chars.length
  let blanks := size - (dropLastBlanks line.chars).length
  -- Blanks at the end go only as far as the line is too long.
  line.withChars (line.chars.take (size - min blanks (size - limit)))

def cutLine (overflow : Overflow) (limit : Nat) (line : StyledText) : StyledText :=
  if cellWidth line.chars ≤ limit then line
  else
    match overflow with
    | .fold => line.withChars (fitCells limit line.chars)
    | .ellipsis => line.withChars (fitCells (limit - 1) line.chars ++ ['…'])

def wrap (overflow : Overflow) (limit : Nat) (t : StyledText) : List StyledText :=
  let t := expandTabs t
  let lines := match words t.chars with
    | [] => [t]
    | words => t.divide ((fill overflow limit [] 0 words).map List.length)
  lines.map fun line => cutLine overflow limit (trimEnd limit line)

def sent (cs : List Char) : List Char :=
  cs.filter fun c => !isDropped c

def writtenLines (t : StyledText) : List StyledText :=
  let sizes := (splitAt '\n' t.chars).map List.length
  (t.divide (sizes.intersperse 1)).filter fun part => part.chars != ['\n']

def lines (width : Nat) (t : StyledText) : List StyledText :=
  (writtenLines t).flatMap (wrap .fold width)

end QueryLinker.Console
