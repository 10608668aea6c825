import QueryLinker.Yaml.QuotedText

/-!
This module contains the reading of texts without quotes. They end where something follows that has
a meaning of its own, and outside brackets where a line is not indented deeper than the block.
-/

namespace QueryLinker.Yaml.Cursor

def isFlowSign (c : Char) : Bool :=
  c == ',' || c == '[' || c == ']' || c == '\x7b' || c == '\x7d'

def plainBreaks : Nat → Scan (Option (List Char))
  | 0 => return some []
  | n + 1 => do
    skipSpaces
    match ← lineBreak? with
    | some c =>
      if ← atSeparator then return none
      return (← plainBreaks n).map (c :: ·)
    | none => return some []

def plainSpaces : Scan (List Char) := do
  let blanks ← takeWhile (· == ' ')
  match ← lineBreak? with
  | some c =>
    allowKey true
    if ← atSeparator then return []
    return match ← plainBreaks (← fuel) with
      | some more => foldedBreak c more
      | none => []
  | none => return blanks

def plainSize (inFlow : Bool) : List Char → Nat
  | [] => 0
  | c :: rest =>
    if isWordEnd (some c) then 0
    else if c == ':' && (isWordEnd rest.head? || (inFlow && rest.head?.any isFlowSign)) then 0
    else if inFlow && (isFlowSign c || c == '?') then 0
    else plainSize inFlow rest + 1

def plainWords (blanks : List Char) : Nat → Scan (List Char)
  | 0 => return []
  | n + 1 => do
    if (← current) == some '#' then return []
    let l ← get
    let size := plainSize (0 < l.level) l.rest
    demand (size + if l.rest[size]? == some ':' then 2 else 1)
    if size == 0 then return []
    allowKey false
    forward size
    let word := blanks ++ l.rest.take size
    let next ← plainSpaces
    let after ← get
    if next.isEmpty then return word
    if (← current) == some '#' || (after.level == 0 && after.place.column ≤ l.indent) then
      return word
    return word ++ (← plainWords next n)

def plainText : Scan String := do
  return String.ofList (← plainWords [] (← fuel))

end QueryLinker.Yaml.Cursor
