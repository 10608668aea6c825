import QueryLinker.Number.Integer

/-!
This module contains the natural order of names: stretches of digits compare as numbers, so that
`field2` stands before `field10`, and all else compares character by character. Names with a stretch
that is too long for a number cannot be put in order.
-/

namespace QueryLinker.Text

inductive Stretch where
  | other (text : String)
  | number (value : Nat) (text : String)
deriving DecidableEq, Repr

namespace Stretch

def compare : Stretch → Stretch → Ordering
  | .other a, .other b => compareOfLessAndEq a b
  | .number m a, .number n b => (compareOfLessAndEq m n).then (compareOfLessAndEq a b)
  | .other _, .number _ _ => .lt
  | .number _ _, .other _ => .gt

end Stretch

def stretches (s : String) : List Stretch :=
  go false [] s.toList
where
  close (inNumber : Bool) (current : List Char) : Stretch :=
    let text := String.ofList current.reverse
    if inNumber then .number (text.toNat?.getD 0) text else .other text
  go (inNumber : Bool) (current : List Char) : List Char → List Stretch
    | [] => if inNumber then [close true current, .other ""] else [close false current]
    | c :: cs =>
      if c.isDigit == inNumber then
        go inNumber (c :: current) cs
      else
        close inNumber current :: go c.isDigit [c] cs

def compareStretches : List Stretch → List Stretch → Ordering
  | [], [] => .eq
  | [], _ :: _ => .lt
  | _ :: _, [] => .gt
  | a :: as, b :: bs => (a.compare b).then (compareStretches as bs)

def naturalCompare (a b : String) : Ordering :=
  compareStretches (stretches a) (stretches b)

def Stretch.flaw? : Stretch → Option Number.IntegerFlaw
  | .other _ => none
  | .number _ text =>
    if Number.maxIntegerDigits < text.length then some (.tooLong text.length) else none

def checkNatural (names : List String) : Except Number.IntegerFlaw Unit :=
  match (names.flatMap stretches).findSome? Stretch.flaw? with
  | some flaw => .error flaw
  | none => .ok ()

end QueryLinker.Text
