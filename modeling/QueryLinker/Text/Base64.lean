/-!
This module contains the reading of bytes that are written with 64 digits. Four digits stand for
three bytes; signs in the place of missing digits fill up the last four. Characters that are no
digits do not count.
-/

namespace QueryLinker.Text.Base64

inductive Flaw where
  | padding
  | loneDigit (count : Nat)
deriving DecidableEq, Repr

def digits : List Char :=
  "ABCDEFGHIJKLMNOPQRSTUVWXYZabcdefghijklmnopqrstuvwxyz0123456789+/".toList

def value? (c : Char) : Option Nat :=
  digits.findIdx? (· == c)

def byte? (count left value : Nat) : Option UInt8 :=
  match count with
  | 1 => some (left * 4 + value / 16).toUInt8
  | 2 => some (left % 16 * 16 + value / 4).toUInt8
  | 3 => some (left % 4 * 64 + value).toUInt8
  | _ => none

def decodeFrom (count left pads total : Nat) : List Char → Except Flaw (List UInt8)
  | [] =>
    match count with
    | 0 => .ok []
    | 1 => .error (.loneDigit total)
    | _ => .error .padding
  | '=' :: cs =>
    -- Nothing counts behind the sign that fills up four digits.
    if 2 ≤ count && 4 ≤ count + pads + 1 then .ok []
    else decodeFrom count left (if 2 ≤ count then pads + 1 else pads) total cs
  | c :: cs =>
    match value? c with
    | none => decodeFrom count left pads total cs
    | some value => do
      let bytes ← decodeFrom ((count + 1) % 4) value 0 (total + 1) cs
      return (byte? count left value).toList ++ bytes

def decode (cs : List Char) : Except Flaw (List UInt8) :=
  decodeFrom 0 0 0 0 cs

end QueryLinker.Text.Base64
