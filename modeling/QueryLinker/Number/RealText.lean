import QueryLinker.Number.Integer
import QueryLinker.Number.Real

/-!
This module contains the reading of floating point numbers. There may be blanks around a number and
a sign in front of it; then follow digits of any script, with a point among them or at either end,
and an exponent, or the words for infinity and for no number.
-/

namespace QueryLinker.Number

def lowerLetter (c : Char) : Char :=
  if 'A' ≤ c && c ≤ 'Z' then Char.ofNat (c.toNat + 32) else c

def leadingDigits (cs : List Char) : List Nat × List Char :=
  let isDigit (c : Char) : Bool := (Text.digitValue? c).isSome
  ((cs.takeWhile isDigit).filterMap Text.digitValue?, cs.dropWhile isDigit)

def exponent? : List Char → Option Int
  | [] => some 0
  | e :: cs => do
    let (negative, cs) := splitSign cs
    let (ds, rest) := leadingDigits cs
    if lowerLetter e != 'e' || ds.isEmpty || !rest.isEmpty then none
    else
      let n := Int.ofNat (ofDigits 10 ds)
      some (if negative then -n else n)

def unsignedReal? (negative : Bool) (cs : List Char) : Option Real := do
  let word := String.ofList (cs.map lowerLetter)
  if word == "inf" || word == "infinity" then return .infinite negative
  if word == "nan" then return .nan
  let (whole, rest) := leadingDigits cs
  let (fraction, rest) :=
    match rest with
    | '.' :: rest => leadingDigits rest
    | rest => ([], rest)
  if whole.isEmpty && fraction.isEmpty then none
  else
    let exponent ← exponent? rest
    return .ofDecimal negative (ofDigits 10 (whole ++ fraction)) (exponent - fraction.length)

def real? (text : String) : Option Real :=
  let (negative, cs) := splitSign (trimNumber text.toList)
  unsignedReal? negative cs

end QueryLinker.Number
