import QueryLinker.Yaml.Cursor

/-!
This module contains the reading of what stands in front of values and documents: names of values,
tags, and directives.
-/

namespace QueryLinker.Yaml.Cursor

def nameEnds : List Char :=
  "?:,]\x7d%@\x60".toList

def name (activity : Activity) (start : Text.Position) (ends : Option Char → Bool) :
    Scan String := do
  let cs ← takeWhile isNameChar
  if cs.isEmpty || !ends (← current) then failExpecting activity start .nameCharacter
  return String.ofList cs

def valueName (activity : Activity) : Scan String := do
  let start ← here
  forward 1
  name activity start fun c? => isWordEnd c? || c?.any nameEnds.contains

/-! Tags. -/

def tagHandle (activity : Activity) (start : Text.Position) : Scan String := do
  if (← current) != some '!' then failExpecting activity start .tagSign
  if (← peek 1) == some ' ' then
    forward 1
    return "!"
  forward 1
  let cs ← takeWhile isNameChar
  if (← current) != some '!' then failExpecting activity start .tagSign
  forward 1
  return String.ofList ('!' :: cs ++ ['!'])

def addressSigns : List Char :=
  "-;/?:@&=+$,_.!~*'()[]".toList

def isAddressChar (c : Char) : Bool :=
  c.isAlphanum || addressSigns.contains c

def escapedBytes (activity : Activity) (start : Text.Position) : Nat → Scan (List UInt8)
  | 0 => return []
  | n + 1 => do
    if (← current) != some '%' then return []
    forward 1
    let byte ← hexNumber activity start .addressEscape 2
    return byte.toUInt8 :: (← escapedBytes activity start n)

def escapedText (activity : Activity) (start : Text.Position) : Scan (List Char) := do
  let place ← here
  let bytes ← escapedBytes activity start (← fuel)
  match Text.Utf8.decodeFrom 0 [] bytes with
  | .ok cs => return cs
  | .error flaw =>
    throw (.report { activity? := activity, start? := start, problem := .notUtf8 flaw, place })

def addressChars (activity : Activity) (start : Text.Position) : Nat → Scan (List Char)
  | 0 => return []
  | n + 1 => do
    let cs ← takeWhile isAddressChar
    if (← current) != some '%' then return cs
    let escaped ← escapedText activity start
    return cs ++ escaped ++ (← addressChars activity start n)

def tagAddress (activity missing : Activity) (start : Text.Position) : Scan String := do
  let c? ← current
  if !c?.any fun c => isAddressChar c || c == '%' then failExpecting missing start .tagAddress
  return String.ofList (← addressChars activity start (← fuel))

def hasHandle : Scan Bool := do
  let word := ((← get).rest.drop 1).takeWhile fun c => c != '!' && !isSpaceOrEnd (some c)
  return (← peek (word.length + 1)) == some '!'

def writtenTag (start : Text.Position) : Scan WrittenTag := do
  match ← peek 1 with
  | some '<' =>
    forward 2
    let rest ← tagAddress .tag .tagText start
    if (← current) != some '>' then failExpecting .tagText start .tagClose
    forward 1
    return ⟨none, rest⟩
  | next =>
    if isWordEnd next then
      forward 1
      return ⟨none, "!"⟩
    else if ← hasHandle then
      let handle ← tagHandle .tag start
      return ⟨some handle, ← tagAddress .tag .tagText start⟩
    else
      forward 1
      return ⟨some "!", ← tagAddress .tag .tagText start⟩

def tag : Scan WrittenTag := do
  let start ← here
  let t ← writtenTag start
  if !isSpaceOrEnd (← current) then failExpecting .tag start .space
  return t

/-! Directives. -/

def versionNumber (start : Text.Position) : Scan Int := do
  if !(← current).any Char.isDigit then failExpecting .directive start .versionDigit
  let digits ← takeWhile Char.isDigit
  match Number.integer 10 (String.ofList digits) with
  | .ok n => return n
  | .error flaw => throw (.version flaw)

def version (start : Text.Position) : Scan Directive := do
  skipSpaces
  let major ← versionNumber start
  if (← current) != some '.' then failExpecting .directive start .versionPoint
  forward 1
  let minor ← versionNumber start
  if !isSpaceOrEnd (← current) then failExpecting .directive start .versionEnd
  return .version major minor

def handleMeaning (start : Text.Position) : Scan Directive := do
  skipSpaces
  let handle ← tagHandle .directive start
  if (← current) != some ' ' then failExpecting .directive start .space
  skipSpaces
  let meaning ← tagAddress .directive .directiveTag start
  if !isSpaceOrEnd (← current) then failExpecting .directive start .space
  return .handle handle meaning

def directive : Scan Directive := do
  let start ← here
  forward 1
  let word ← name .directive start isSpaceOrEnd
  let d ←
    match word with
    | "YAML" => version start
    | "TAG" => handleMeaning start
    | word => do
      skipWhile fun c => !isBreak c
      pure (.other word)
  endLine .directive start
  return d

end QueryLinker.Yaml.Cursor
