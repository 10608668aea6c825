import QueryLinker.Json.Basic
import QueryLinker.Number.Integer

/-!
This module contains the reader of JSON texts. It accepts the numbers `NaN`, `Infinity` and
`-Infinity`, takes the last of several members with one key, and says of a text that is no JSON what
was expected where.
-/

namespace QueryLinker.Json

inductive Flaw where
  | byteOrderMark
  | noValue
  | noPropertyName
  | noColon
  | noComma
  | openString
  | controlCharacter
  | badEscape
  | badUnicodeEscape
  | extraData
  | integerTooLong (digits : Nat)
  | arrayTooDeep
  | objectTooDeep
deriving DecidableEq, Repr

namespace Flaw

def message : Flaw → String
  | .byteOrderMark => "Unexpected UTF-8 BOM (decode using utf-8-sig)"
  | .noValue => "Expecting value"
  | .noPropertyName => "Expecting property name enclosed in double quotes"
  | .noColon => "Expecting ':' delimiter"
  | .noComma => "Expecting ',' delimiter"
  | .openString => "Unterminated string starting at"
  | .controlCharacter => "Invalid control character at"
  | .badEscape => "Invalid \\escape"
  | .badUnicodeEscape => "Invalid \\uXXXX escape"
  | .extraData => "Extra data"
  | .integerTooLong digits => Number.IntegerFlaw.message (.tooLong digits)
  | .arrayTooDeep =>
    "maximum recursion depth exceeded while decoding a JSON array from a unicode string"
  | .objectTooDeep =>
    "maximum recursion depth exceeded while decoding a JSON object from a unicode string"

end Flaw

structure ReadError where
  flaw : Flaw
  offset : Nat
deriving DecidableEq, Repr

namespace ReadError

def isLimit (e : ReadError) : Bool :=
  match e.flaw with
  | .integerTooLong _ => true
  | .arrayTooDeep => true
  | .objectTooDeep => true
  | _ => false

def message (e : ReadError) (text : String) : String :=
  if e.isLimit then e.flaw.message
  else
    let before := text.toList.take e.offset
    let line := before.count '\n' + 1
    let column := (before.reverse.takeWhile (· != '\n')).length + 1
    e.flaw.message ++ ": line " ++ toString line ++ " column " ++ toString column ++
      " (char " ++ toString e.offset ++ ")"

end ReadError

structure Reading (α : Type) where
  value : α
  rest : List Char
  offset : Nat

def isJsonBlank (c : Char) : Bool :=
  c == ' ' || c == '\t' || c == '\n' || c == '\r'

def skipBlanks : List Char → Nat → List Char × Nat
  | c :: cs, offset => if isJsonBlank c then skipBlanks cs (offset + 1) else (c :: cs, offset)
  | [], offset => ([], offset)

def hexValue? (c : Char) : Option Nat :=
  if '0' ≤ c && c ≤ '9' then some (c.toNat - 48)
  else if 'a' ≤ c && c ≤ 'f' then some (c.toNat - 87)
  else if 'A' ≤ c && c ≤ 'F' then some (c.toNat - 55)
  else none

def unit? (a b c d : Char) : Option Nat := do
  let a ← hexValue? a
  let b ← hexValue? b
  let c ← hexValue? c
  let d ← hexValue? d
  return a * 4096 + b * 256 + c * 16 + d

def simpleEscape? (c : Char) : Option Char :=
  if c == '"' then some '"'
  else if c == '\\' then some '\\'
  else if c == '/' then some '/'
  else if c == 'b' then some '\x08'
  else if c == 'f' then some '\x0c'
  else if c == 'n' then some '\n'
  else if c == 'r' then some '\r'
  else if c == 't' then some '\t'
  else none

def readString (start : Nat) (acc : List Letter) :
    List Char → Nat → Except ReadError (Reading LooseText)
  | [], _ => .error ⟨.openString, start⟩
  | '"' :: cs, offset => .ok ⟨⟨acc.reverse⟩, cs, offset + 1⟩
  | ['\\'], _ => .error ⟨.openString, start⟩
  | '\\' :: 'u' :: a :: b :: c :: d :: '\\' :: 'u' :: e :: f :: g :: h :: i :: cs, offset =>
    match unit? a b c d with
    | none => .error ⟨.badUnicodeEscape, offset + 1⟩
    | some n =>
      if Text.isLeadingSurrogate n then
        match unit? e f g h with
        | none => .error ⟨.badUnicodeEscape, offset + 7⟩
        | some m =>
          if Text.isTrailingSurrogate m then
            readString start (.char (Text.charOfPair n m) :: acc) (i :: cs) (offset + 12)
          else
            readString start (Letter.ofUnit n :: acc)
              ('\\' :: 'u' :: e :: f :: g :: h :: i :: cs) (offset + 6)
      else
        readString start (Letter.ofUnit n :: acc)
          ('\\' :: 'u' :: e :: f :: g :: h :: i :: cs) (offset + 6)
  | '\\' :: 'u' :: a :: b :: c :: d :: e :: cs, offset =>
    match unit? a b c d with
    | none => .error ⟨.badUnicodeEscape, offset + 1⟩
    | some n => readString start (Letter.ofUnit n :: acc) (e :: cs) (offset + 6)
  | '\\' :: 'u' :: _, offset => .error ⟨.badUnicodeEscape, offset + 1⟩
  | '\\' :: c :: cs, offset =>
    match simpleEscape? c with
    | some e => readString start (.char e :: acc) cs (offset + 2)
    | none => .error ⟨.badEscape, offset⟩
  | c :: cs, offset =>
    if c.toNat < 0x20 then .error ⟨.controlCharacter, offset⟩
    else readString start (.char c :: acc) cs (offset + 1)

def digitsValue (cs : List Char) : Nat :=
  cs.foldl (fun n c => n * 10 + (c.toNat - 48)) 0

def exponentPart? : List Char → Option (Int × List Char)
  | cs =>
    let signed (negative : Bool) (cs : List Char) : Option (Int × List Char) :=
      match cs.takeWhile Char.isDigit with
      | [] => none
      | ds =>
        let n : Int := digitsValue ds
        some (if negative then -n else n, cs.dropWhile Char.isDigit)
    match cs with
    | '-' :: cs => signed true cs
    | '+' :: cs => signed false cs
    | cs => signed false cs

def splitMinus : List Char → Bool × List Char
  | '-' :: cs => (true, cs)
  | cs => (false, cs)

def wholePart? : List Char → Option (List Char)
  | '0' :: _ => some ['0']
  | cs =>
    match cs.takeWhile Char.isDigit with
    | [] => none
    | ds => some ds

def fractionPart : List Char → List Char × List Char
  -- A point without a digit behind it is no part of the number.
  | '.' :: d :: ds =>
    if d.isDigit then ((d :: ds).takeWhile Char.isDigit, (d :: ds).dropWhile Char.isDigit)
    else ([], '.' :: d :: ds)
  | cs => ([], cs)

def exponent? : List Char → Option (Int × List Char)
  | 'e' :: cs => exponentPart? cs
  | 'E' :: cs => exponentPart? cs
  | _ => none

/--
Read a number that starts at `start`. A point counts only in front of a digit, and an exponent only
with digits; otherwise the number ends before them.
-/
def readNumber (start : Nat) (text : List Char) : Except ReadError (Reading Json) :=
  let (negative, cs) := splitMinus text
  match wholePart? cs with
  | none => .error ⟨.noValue, start⟩
  | some whole =>
    let (fraction, rest) := fractionPart (cs.drop whole.length)
    let finish (value : Json) (rest : List Char) : Except ReadError (Reading Json) :=
      .ok ⟨value, rest, start + (text.length - rest.length)⟩
    match fraction, exponent? rest with
    | [], none =>
      if whole.length > Number.maxIntegerDigits then
        .error ⟨.integerTooLong whole.length, start⟩
      else
        let n : Int := digitsValue whole
        finish (.int (if negative then -n else n)) rest
    | fraction, exponent? =>
      let (exponent, rest) := exponent?.getD (0, rest)
      let digits := digitsValue (whole ++ fraction)
      finish (.real (.ofDecimal negative digits (exponent - fraction.length))) rest

mutual

def readValue (fuel room : Nat) (cs : List Char) (offset : Nat) :
    Except ReadError (Reading Json) :=
  match fuel with
  | 0 => .error ⟨.noValue, offset⟩
  | fuel + 1 =>
    match cs with
    | '"' :: cs => do
      let s ← readString offset [] cs (offset + 1)
      return ⟨.str s.value, s.rest, s.offset⟩
    | '{' :: cs =>
      if room = 0 then .error ⟨.objectTooDeep, offset⟩
      else
        match skipBlanks cs (offset + 1) with
        | ('}' :: cs, offset) => .ok ⟨.obj [], cs, offset + 1⟩
        | (cs, offset) => readMembers fuel (room - 1) [] cs offset
    | '[' :: cs =>
      if room = 0 then .error ⟨.arrayTooDeep, offset⟩
      else
        match skipBlanks cs (offset + 1) with
        | (']' :: cs, offset) => .ok ⟨.arr [], cs, offset + 1⟩
        | (cs, offset) => readItems fuel (room - 1) [] cs offset
    | 'n' :: 'u' :: 'l' :: 'l' :: cs => .ok ⟨.null, cs, offset + 4⟩
    | 't' :: 'r' :: 'u' :: 'e' :: cs => .ok ⟨.bool true, cs, offset + 4⟩
    | 'f' :: 'a' :: 'l' :: 's' :: 'e' :: cs => .ok ⟨.bool false, cs, offset + 5⟩
    | 'N' :: 'a' :: 'N' :: cs => .ok ⟨.real .nan, cs, offset + 3⟩
    | 'I' :: 'n' :: 'f' :: 'i' :: 'n' :: 'i' :: 't' :: 'y' :: cs =>
      .ok ⟨.real (.infinite false), cs, offset + 8⟩
    | '-' :: 'I' :: 'n' :: 'f' :: 'i' :: 'n' :: 'i' :: 't' :: 'y' :: cs =>
      .ok ⟨.real (.infinite true), cs, offset + 9⟩
    | cs => readNumber offset cs
termination_by structural fuel

def readItems (fuel room : Nat) (acc : List Json) (cs : List Char) (offset : Nat) :
    Except ReadError (Reading Json) :=
  match fuel with
  | 0 => .error ⟨.noValue, offset⟩
  | fuel + 1 => do
    let item ← readValue fuel room cs offset
    match skipBlanks item.rest item.offset with
    | (']' :: cs, offset) => return ⟨.arr (item.value :: acc).reverse, cs, offset + 1⟩
    | (',' :: cs, offset) =>
      let (cs, offset) := skipBlanks cs (offset + 1)
      readItems fuel room (item.value :: acc) cs offset
    | (_, offset) => throw ⟨.noComma, offset⟩
termination_by structural fuel

def readMembers (fuel room : Nat) (acc : List (LooseText × Json)) (cs : List Char) (offset : Nat) :
    Except ReadError (Reading Json) :=
  match fuel with
  | 0 => .error ⟨.noPropertyName, offset⟩
  | fuel + 1 =>
    match cs with
    | '"' :: cs => do
      let key ← readString offset [] cs (offset + 1)
      match skipBlanks key.rest key.offset with
      | (':' :: cs, offset) =>
        let (cs, offset) := skipBlanks cs (offset + 1)
        let value ← readValue fuel room cs offset
        let acc := setMember key.value value.value acc
        match skipBlanks value.rest value.offset with
        | ('}' :: cs, offset) => return ⟨.obj acc, cs, offset + 1⟩
        | (',' :: cs, offset) =>
          let (cs, offset) := skipBlanks cs (offset + 1)
          readMembers fuel room acc cs offset
        | (_, offset) => throw ⟨.noComma, offset⟩
      | (_, offset) => throw ⟨.noColon, offset⟩
    | _ => .error ⟨.noPropertyName, offset⟩
termination_by structural fuel

end

def read (text : String) (room : Nat := text.length) : Except ReadError Json :=
  match text.toList with
  | '\ufeff' :: _ => .error ⟨.byteOrderMark, 0⟩
  | cs => do
    let (cs, offset) := skipBlanks cs 0
    let value ← readValue (cs.length + 1) room cs offset
    match skipBlanks value.rest value.offset with
    | ([], _) => return value.value
    | (_, offset) => throw ⟨.extraData, offset⟩

end QueryLinker.Json
