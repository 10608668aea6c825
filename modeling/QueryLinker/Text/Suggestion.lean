import QueryLinker.Text.LetterCase
import QueryLinker.Text.NaturalOrder

/-!
This module contains the logic to suggest known names in place of an unknown one. Names are compared
without regard to case by the edits that turn one into the other, where two neighbours that change
places count as one edit; a name that differs in case alone counts as one edit away. Names further
away than two fifths of the unknown name's length, and one, are no suggestions.
-/

namespace QueryLinker.Text

/--
The next row of edit distances with transpositions. `above` is the row over it, `above2` the row
over that one from its first entry on, `previous` the character of the row above.
-/
def transposingRow (previous : Option Char) (c : Char) (target : List Char)
    (above2 above : List Nat) : List Nat :=
  match above with
  | [] => []
  | d :: ds => (d + 1) :: go (d + 1) d none target ds (none :: above2.map some)
where
  go (left diagonal : Nat) (before : Option Char) :
      List Char → List Nat → List (Option Nat) → List Nat
    | t :: target, up :: row, row2 =>
      let replaced := diagonal + if c == t then 0 else 1
      let entry := min (min (up + 1) (left + 1)) replaced
      let swapped := previous == some t && before == some c
      let entry :=
        match swapped, row2.headD none with
        | true, some e => min entry (e + 1)
        | _, _ => entry
      entry :: go entry up (some t) target row row2.tail
    | _, _, _ => []

def transposingDistance (source target : List Char) : Nat :=
  go none [] (List.range (target.length + 1)) source
where
  go (previous : Option Char) (above2 above : List Nat) : List Char → Nat
    | [] => above.getLastD 0
    | c :: cs => go (some c) above (transposingRow previous c target above2 above) cs

def lexicalDistance (input option : String) (threshold : Nat) : Option Nat :=
  if input == option then some 0
  else
    let a := lowerList option.toList
    let b := lowerList input.toList
    if a == b then some 1
    else
      let d := transposingDistance a b
      if d ≤ threshold then some d else none

def suggestionList (input : String) (options : List String) :
    Except Number.IntegerFlaw (List String) := do
  let threshold := input.length * 2 / 5 + 1
  let near := options.eraseDups.filterMap fun option =>
    (lexicalDistance input option threshold).map (·, option)
  checkNatural (near.map (·.2))
  let sorted := near.mergeSort fun a b =>
    ((compareOfLessAndEq a.1 b.1).then (naturalCompare a.2 b.2)).isLE
  return sorted.map (·.2)

def maxSuggestions : Nat := 5

def didYouMean (suggestions : List String) (kind : Option String) : String :=
  let quotedNames := (suggestions.take maxSuggestions).map fun name => "'" ++ name ++ "'"
  let intro := " Did you mean " ++ (match kind with | some k => k ++ " " | none => "")
  match quotedNames with
  | [] => ""
  | [a] => intro ++ a ++ "?"
  | [a, b] => intro ++ a ++ " or " ++ b ++ "?"
  | names => intro ++ ", ".intercalate names.dropLast ++ ", or " ++ names.getLastD "" ++ "?"

end QueryLinker.Text
