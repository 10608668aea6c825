import QueryLinker.Text.LooseText
import QueryLinker.Text.Printable

/-!
This module contains the display of a text in quotes, as messages show it: in single quotes unless
the text holds a single quote and no double one, with escapes for the quote, the backslash, line
ends, tabs, and every character that has no printable form.
-/

namespace QueryLinker.Text

def hexDigits (width n : Nat) : List Char :=
  let digits := Nat.toDigits 16 n
  List.replicate (width - digits.length) '0' ++ digits

def quotedChar (quote c : Char) : List Char :=
  if c == quote || c == '\\' then ['\\', c]
  else if c == '\n' then ['\\', 'n']
  else if c == '\r' then ['\\', 'r']
  else if c == '\t' then ['\\', 't']
  else if isPrintable c then [c]
  else
    let n := c.toNat
    if n < 0x100 then '\\' :: 'x' :: hexDigits 2 n
    else if n < 0x10000 then '\\' :: 'u' :: hexDigits 4 n
    else '\\' :: 'U' :: hexDigits 8 n

def quoted (s : String) : String :=
  let cs := s.toList
  let quote := if cs.contains '\'' && !cs.contains '"' then '"' else '\''
  String.ofList (quote :: cs.flatMap (quotedChar quote) ++ [quote])

def quotedLetter (quote : Char) : Letter → List Char
  | .char c => quotedChar quote c
  | .half unit => '\\' :: 'u' :: hexDigits 4 unit

end QueryLinker.Text

namespace QueryLinker.LooseText

def quoted (t : LooseText) : String :=
  let holds (c : Char) : Bool := t.letters.contains (.char c)
  let quote := if holds '\'' && !holds '"' then '"' else '\''
  String.ofList (quote :: t.letters.flatMap (Text.quotedLetter quote) ++ [quote])

end QueryLinker.LooseText
