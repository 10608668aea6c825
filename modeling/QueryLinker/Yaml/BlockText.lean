import QueryLinker.Yaml.Cursor

/-!
This module contains the reading of blocks of text: lines that are indented deeper than the block
around them. Behind the sign of a block stands how its end is read and how far it is indented.
-/

namespace QueryLinker.Yaml.Cursor

inductive Chomping where
  | strip
  | clip
  | keep
deriving DecidableEq

def measureIndent : Nat → Scan (List Char × Nat)
  | 0 => return ([], 0)
  | n + 1 => do
    skipSpaces
    let width := (← here).column - 1
    match ← lineBreak? with
    | some c =>
      let (more, widest) ← measureIndent n
      return (c :: more, max width widest)
    | none => return ([], width)

def blockBreaks (indent : Nat) : Nat → Scan (List Char)
  | 0 => return []
  | n + 1 => do
    let l ← get
    let spaces := (l.rest.takeWhile (· == ' ')).length
    forward (min (indent + 1 - l.place.column) spaces)
    match ← lineBreak? with
    | some c => return c :: (← blockBreaks indent n)
    | none => return []

def blockLines (folded : Bool) (chomping : Chomping) (indent : Nat) (breaks : List Char) :
    Nat → Scan (List Char)
  | 0 => return []
  | n + 1 => do
    let isInside : Scan Bool := do
      return (← here).column == indent + 1 && (← current).isSome
    let l ← get
    if !(← isInside) then return if chomping == .keep then breaks else []
    let isBlank (c? : Option Char) : Bool := c? == some ' ' || c? == some '\t'
    let line ← takeWhile fun c => !isBreak c
    let ending := (← lineBreak?).toList
    let more ← blockBreaks indent (← fuel)
    let isGoingOn ← isInside
    let after ← get
    if isGoingOn then
      let joined := folded && ending == ['\n'] && !isBlank l.rest.head? && !isBlank after.rest.head?
      let between := if !joined then ending else if more.isEmpty then [' '] else []
      return breaks ++ line ++ between ++ (← blockLines folded chomping indent more n)
    else
      return breaks ++ line ++
        match chomping with
        | .strip => []
        | .clip => ending
        | .keep => ending ++ more

def chomping? : Scan (Option Chomping) := do
  match ← current with
  | some '+' =>
    forward 1
    return some .keep
  | some '-' =>
    forward 1
    return some .strip
  | _ => return none

def indentation? (start : Text.Position) : Scan (Option Nat) := do
  match (← current).filter Char.isDigit with
  | none => return none
  | some '0' => failSince .blockText start .zeroIndentation
  | some c =>
    forward 1
    return some (c.toNat - '0'.toNat)

def blockHeader (start : Text.Position) : Scan (Chomping × Option Nat) := do
  let first? ← chomping?
  let size? ← indentation? start
  let second? ← if first?.isNone && size?.isSome then chomping? else pure none
  if !isSpaceOrEnd (← current) then failExpecting .blockText start .blockIndicators
  return ((first?.or second?).getD .clip, size?)

def blockText (folded : Bool) : Scan String := do
  let start ← here
  forward 1
  let (chomping, size?) ← blockHeader start
  endLine .blockText start
  let least := max 1 (← get).indent
  match size? with
  | some size =>
    let indent := least + size - 1
    let breaks ← blockBreaks indent (← fuel)
    return String.ofList (← blockLines folded chomping indent breaks (← fuel))
  | none =>
    let (breaks, widest) ← measureIndent (← fuel)
    return String.ofList (← blockLines folded chomping (max least widest) breaks (← fuel))

end QueryLinker.Yaml.Cursor
