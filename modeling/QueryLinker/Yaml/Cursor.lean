import QueryLinker.Yaml.Source

/-!
This module contains the state in which a YAML text is read: what is left of the text, the place in
it, the indentation of the open blocks, the tokens that were found ahead, and which of them may turn
out to be keys.
-/

namespace QueryLinker.Yaml

structure KeyCandidate where
  index : Nat
  required : Bool
  offset : Nat
  place : Text.Position

structure Cursor where
  rest : List Char
  flaw? : Option Flaw := none
  offset : Nat := 0
  place : Text.Position := ⟨1, 1⟩
  level : Nat := 0
  indent : Nat := 0
  indents : List Nat := []
  keyAllowed : Bool := true
  candidates : List (Nat × KeyCandidate) := []
  ahead : List PlacedToken := []
  taken : Nat := 0
  ended : Bool := false

abbrev Scan := StateT Cursor (Except Flaw)

namespace Cursor

/-! Characters. -/

def isBreak (c : Char) : Bool :=
  c == '\n' || c == '\r' || c == '\u0085' || c == '\u2028' || c == '\u2029'

def endsOr (test : Char → Bool) : Option Char → Bool
  | none => true
  | some c => test c

def isLineEnd : Option Char → Bool :=
  endsOr isBreak

def isSpaceOrEnd : Option Char → Bool :=
  endsOr fun c => c == ' ' || isBreak c

def isWordEnd : Option Char → Bool :=
  endsOr fun c => c == ' ' || c == '\t' || isBreak c

def isNameChar (c : Char) : Bool :=
  c.isAlphanum || c == '-' || c == '_'

def hexValue? (c : Char) : Option Nat :=
  if c.isDigit then some (c.toNat - '0'.toNat)
  else if 'a' ≤ c && c ≤ 'f' then some (c.toNat - 'a'.toNat + 10)
  else if 'A' ≤ c && c ≤ 'F' then some (c.toNat - 'A'.toNat + 10)
  else none

/-! Moving. -/

def demand (count : Nat) : Scan Unit := do
  let l ← get
  match l.flaw? with
  | some flaw => if (l.rest.drop (count - 1)).isEmpty && count != 0 then throw flaw
  | none => return

def peek (i : Nat) : Scan (Option Char) := do
  demand (i + 1)
  return (← get).rest[i]?

def current : Scan (Option Char) :=
  peek 0

def here : Scan Text.Position :=
  return (← get).place

def stepOver (l : Cursor) : Cursor :=
  match l.rest with
  | [] => l
  | c :: rest =>
    let l := { l with rest, offset := l.offset + 1 }
    if isBreak c && !(c == '\r' && rest.head? == some '\n') then
      { l with place := ⟨l.place.line + 1, 1⟩ }
    else if c == '\ufeff' then l
    else { l with place := ⟨l.place.line, l.place.column + 1⟩ }

def forward (n : Nat) : Scan Unit := do
  demand (n + 1)
  modify fun l => n.repeat stepOver l

def takeWhile (test : Char → Bool) : Scan (List Char) := do
  let taken := (← get).rest.takeWhile test
  forward taken.length
  return taken

def skipWhile (test : Char → Bool) : Scan Unit := do
  let _ ← takeWhile test

def skipSpaces : Scan Unit :=
  skipWhile (· == ' ')

def skipComment : Scan Unit := do
  if (← current) == some '#' then skipWhile fun c => !isBreak c

def lineBreak? : Scan (Option Char) := do
  demand 1
  match (← get).rest with
  | '\r' :: '\n' :: _ =>
    forward 2
    return some '\n'
  | c :: _ =>
    if !isBreak c then return none
    forward 1
    return some (if c == '\u2028' || c == '\u2029' then c else '\n')
  | [] => return none

def fuel : Scan Nat :=
  return (← get).rest.length + 1

def atSeparator : Scan Bool := do
  demand 3
  match (← get).rest with
  | '-' :: '-' :: '-' :: _ => return isWordEnd (← peek 3)
  | '.' :: '.' :: '.' :: _ => return isWordEnd (← peek 3)
  | _ => return false

def allowKey (allowed : Bool) : Scan Unit :=
  modify fun l => { l with keyAllowed := allowed }

/-! Failing. -/

def fail {α : Type} (problem : Problem) : Scan α := do
  throw (.report { problem, place := ← here })

def failSince {α : Type} (activity : Activity) (start : Text.Position) (problem : Problem) :
    Scan α := do
  throw (.report { activity? := activity, start? := start, problem, place := ← here })

def failExpecting {α : Type} (activity : Activity) (start : Text.Position) (what : Wanted) :
    Scan α := do
  failSince activity start (.expected what (← current))

def endLine (activity : Activity) (start : Text.Position) : Scan Unit := do
  skipSpaces
  skipComment
  if !isLineEnd (← current) then failExpecting activity start .lineEnd
  let _ ← lineBreak?

def hexNumber (activity : Activity) (start : Text.Position) (what : Wanted) (count : Nat) :
    Scan Nat := do
  let digits := ((← get).rest.take count).takeWhile fun c => (hexValue? c).isSome
  if digits.length < count then
    failSince activity start (.expected what (← peek digits.length))
  forward count
  return (digits.filterMap hexValue?).foldl (fun n d => n * 16 + d) 0

end Cursor

end QueryLinker.Yaml
