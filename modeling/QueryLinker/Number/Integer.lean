import QueryLinker.Text.Alphanumeric
import QueryLinker.Text.Blank
import QueryLinker.Text.Quoted

/-!
This module contains the whole numbers that texts stand for. There may be blanks around a number, a
sign in front of it, a prefix that names its base, and single underscores between its digits, which
may be those of any script.
-/

namespace QueryLinker.Number

inductive IntegerFlaw where
  | noNumber (text : String) (base : Nat)
  | tooLong (digits : Nat)
deriving DecidableEq, Repr

def maxIntegerDigits : Nat := 4300

def maxShownSize : Nat := 200

def IntegerFlaw.message : IntegerFlaw → String
  | .noNumber text base =>
    "invalid literal for int() with base " ++ toString base ++ ": " ++
      String.ofList ((Text.quoted text).toList.take maxShownSize)
  | .tooLong digits =>
    "Exceeds the limit (" ++ toString maxIntegerDigits ++
      " digits) for integer string conversion: value has " ++ toString digits ++
      " digits; use sys.set_int_max_str_digits() to increase the limit"

def isNumberBlank (c : Char) : Bool :=
  Text.isBlank c && !(0x1c ≤ c.toNat && c.toNat ≤ 0x1f)

def trimNumber (cs : List Char) : List Char :=
  ((cs.dropWhile isNumberBlank).reverse.dropWhile isNumberBlank).reverse

def digitOf? (base : Nat) (c : Char) : Option Nat :=
  let value? :=
    if 'a' ≤ c && c ≤ 'f' then some (c.toNat - 'a'.toNat + 10)
    else if 'A' ≤ c && c ≤ 'F' then some (c.toNat - 'A'.toNat + 10)
    else Text.digitValue? c
  value?.filter (· < base)

def splitSign : List Char → Bool × List Char
  | '-' :: cs => (true, cs)
  | '+' :: cs => (false, cs)
  | cs => (false, cs)

def dropBase (base : Nat) (cs : List Char) : List Char :=
  let letters :=
    if base = 2 then ['b', 'B'] else if base = 8 then ['o', 'O']
    else if base = 16 then ['x', 'X'] else []
  match cs with
  | '0' :: c :: rest =>
    if letters.contains c then (if rest.head? == some '_' then rest.drop 1 else rest) else cs
  | cs => cs

def areSeparators : List Char → Bool
  | [] => true
  | '_' :: cs => cs.head?.any (· != '_') && areSeparators cs
  | _ :: cs => areSeparators cs

def digits? (base : Nat) (cs : List Char) : Option (List Nat × List Char) :=
  let isPart (c : Char) : Bool := c == '_' || (digitOf? base c).isSome
  let part := cs.takeWhile isPart
  if part.head?.any (· != '_') && areSeparators part then
    some (part.filterMap (digitOf? base), cs.dropWhile isPart)
  else none

def ofDigits (base : Nat) (ds : List Nat) : Nat :=
  ds.foldl (fun n d => n * base + d) 0

def integer (base : Nat) (text : String) : Except IntegerFlaw Int :=
  let (negative, cs) := splitSign (trimNumber text.toList)
  match digits? base (dropBase base cs) with
  | none => .error (.noNumber text base)
  | some (ds, rest) =>
    if base = 10 && maxIntegerDigits < ds.length then .error (.tooLong ds.length)
    else if !rest.isEmpty then .error (.noNumber text base)
    else
      let n := ofDigits base ds
      .ok (if negative then -Int.ofNat n else Int.ofNat n)

end QueryLinker.Number
