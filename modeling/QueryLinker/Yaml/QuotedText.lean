import QueryLinker.Yaml.Cursor

/-!
This module contains the reading of texts in quotes. Line breaks in them are folded: a single one is
a space, and of several the first one goes. Between double quotes there are escapes as well, also of
halves of surrogate pairs, which stand alone here.
-/

namespace QueryLinker.Yaml.Cursor

def foldedBreak (first : Char) (more : List Char) : List Char :=
  if first != '\n' then first :: more
  else if more.isEmpty then [' ']
  else more

def isTabOrSpace (c : Char) : Bool :=
  c == ' ' || c == '\t'

def quotedBreaks (start : Text.Position) : Nat → Scan (List Char)
  | 0 => return []
  | n + 1 => do
    if ← atSeparator then failSince .quotedText start .separatorInQuote
    skipWhile isTabOrSpace
    match ← lineBreak? with
    | some c => return c :: (← quotedBreaks start n)
    | none => return []

def quotedSpaces (start : Text.Position) : Scan (List Char) := do
  let blanks ← takeWhile isTabOrSpace
  if (← current).isNone then failSince .quotedText start .openQuote
  match ← lineBreak? with
  | some c => return foldedBreak c (← quotedBreaks start (← fuel))
  | none => return blanks

def escapes : List (Char × Char) :=
  [('0', '\x00'), ('a', '\x07'), ('b', '\x08'), ('t', '\t'), ('\t', '\t'), ('n', '\n'),
   ('v', '\x0b'), ('f', '\x0c'), ('r', '\r'), ('e', '\x1b'), (' ', ' '), ('"', '"'),
   ('\\', '\\'), ('/', '/'), ('N', '\u0085'), ('_', '\u00a0'), ('L', '\u2028'), ('P', '\u2029')]

def codeEscapes : List (Char × Nat) :=
  [('x', 2), ('u', 4), ('U', 8)]

def leastNoCode : Nat := 0x110000

def lettersOf (cs : List Char) : List Letter :=
  cs.map .char

def escape (start : Text.Position) : Scan (List Letter) := do
  forward 1
  let c? ← current
  match c?.bind (List.lookup · escapes), c?.bind (List.lookup · codeEscapes) with
  | some meant, _ =>
    forward 1
    return [.char meant]
  | none, some size =>
    forward 1
    let code ← hexNumber .doubleQuotedText start (.escapeDigits size) size
    if leastNoCode ≤ code then throw (.noCharacter code)
    return [.ofUnit code]
  | none, none =>
    if !c?.any isBreak then failSince .doubleQuotedText start (.unknownEscape c?)
    let _ ← lineBreak?
    return lettersOf (← quotedBreaks start (← fuel))

def quotedWord (start : Text.Position) (double : Bool) : Nat → Scan (List Letter)
  | 0 => return []
  | n + 1 => do
    let word := lettersOf (← takeWhile fun c =>
      !(c == '\'' || c == '"' || c == '\\' || isTabOrSpace c || isBreak c))
    match ← current with
    | some '\'' =>
      if double then
        forward 1
        return word ++ .char '\'' :: (← quotedWord start double n)
      else if (← peek 1) == some '\'' then
        forward 2
        return word ++ .char '\'' :: (← quotedWord start double n)
      else return word
    | some '"' =>
      if double then return word
      forward 1
      return word ++ .char '"' :: (← quotedWord start double n)
    | some '\\' =>
      if double then
        let meant ← escape start
        return word ++ meant ++ (← quotedWord start double n)
      else
        forward 1
        return word ++ .char '\\' :: (← quotedWord start double n)
    | _ => return word

def quotedRest (start : Text.Position) (quote : Char) : Nat → Scan (List Letter)
  | 0 => failSince .quotedText start .openQuote
  | n + 1 => do
    if (← current) == some quote then
      forward 1
      return []
    let blanks ← quotedSpaces start
    let word ← quotedWord start (quote == '"') (← fuel)
    return lettersOf blanks ++ word ++ (← quotedRest start quote n)

def quotedText (quote : Char) : Scan LooseText := do
  let start ← here
  forward 1
  let word ← quotedWord start (quote == '"') (← fuel)
  return ⟨word ++ (← quotedRest start quote (← fuel))⟩

end QueryLinker.Yaml.Cursor
