import QueryLinker.Console.Literal.Lexer
import QueryLinker.Text.CharacterName

/-!
This module contains what can be wrong within a text: escapes that stand for nothing, and characters
that have no place in a sequence of bytes.
-/

namespace QueryLinker.Console.Literal

/--
The number of places that characters take: those beyond ASCII are counted as escapes of ten places,
and a backslash in front of one of them, or at the end, as an escape of six.
-/
def places : List Char → Nat
  | [] => 0
  | '\\' :: c :: cs => (if 128 ≤ c.toNat then 6 else 1) + places (c :: cs)
  | ['\\'] => 6
  | c :: cs => (if 128 ≤ c.toNat then 10 else 1) + places cs

def hexValue (cs : List Char) : Nat :=
  cs.foldl (fun n c => n * 16 + (Number.digitOf? 16 c.toLower).getD 0) 0

def maxCodePoint : Nat := 0x10ffff

def checkDigits (cause : EscapeCause) (size start : Nat) (cs : List Char) : Except Flaw Unit :=
  let digits := (cs.take size).takeWhile isHexDigit
  if digits.length < size then .error (.badEscape cause start (start + 2 + digits.length))
  else if maxCodePoint < hexValue digits then
    .error (.badEscape .noCharacter start (start + 2 + size))
  else .ok ()

def checkName (start : Nat) (cs : List Char) : Except Flaw Unit :=
  match cs with
  | '\x7b' :: cs =>
    let name := cs.takeWhile (· != '\x7d')
    let stop := start + 3 + places name
    if name.isEmpty || name.length = cs.length then .error (.badEscape .noName start stop)
    else if Text.isCharacterName name then .ok ()
    else .error (.badEscape .unknownName start (stop + 1))
  | _ => .error (.badEscape .noName start (start + 2))

def checkEscapes (start : Nat) : List Char → Except Flaw Unit
  | [] => .ok ()
  | '\\' :: c :: cs =>
    if 128 ≤ c.toNat then checkEscapes (start + 16) cs
    else do
      match c with
      | 'x' => checkDigits .twoDigits 2 start cs
      | 'u' => checkDigits .fourDigits 4 start cs
      | 'U' => checkDigits .eightDigits 8 start cs
      | 'N' => checkName start cs
      | _ => .ok ()
      checkEscapes (start + 2) cs
  | c :: cs => checkEscapes (start + places [c]) cs

def checkByteEscapes (start : Nat) : List Char → Except Flaw Unit
  | [] => .ok ()
  | '\\' :: c :: cs =>
    if c == 'x' && ((cs.take 2).takeWhile isHexDigit).length < 2 then
      .error (.badByteEscape start)
    else checkByteEscapes (start + 2) cs
  | _ :: cs => checkByteEscapes (start + 1) cs

def QuotedText.check (t : QuotedText) : Except Flaw Unit :=
  if t.isBytes then
    if t.content.any fun c => 128 ≤ c.toNat then .error .foreignByte
    else if t.isRaw then .ok ()
    else checkByteEscapes 0 t.content
  else if t.isRaw then .ok ()
  else checkEscapes 0 t.content

end QueryLinker.Console.Literal
