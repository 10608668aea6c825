/-!
This module contains the logic to find, for a decimal number, the floating point number of 64 bits
nearest to it, and for such a number the shortest decimal that is read back as it. All of it is
exact arithmetic on natural numbers.
-/

namespace QueryLinker.Number

structure Binary64 where
  mantissa : Nat
  exponent : Int
deriving DecidableEq, Repr

structure Decimal where
  digits : Nat
  exponent : Int
deriving DecidableEq, Repr

def roundHalfEven (num den : Nat) : Nat :=
  let quotient := num / den
  let remainder := num % den
  if 2 * remainder < den then quotient
  else if 2 * remainder > den then quotient + 1
  else quotient + quotient % 2

def scale (base n : Nat) (e : Int) : Nat :=
  n * Nat.pow base e.toNat

def compareScaled (a : Nat) (p : Int) (b : Nat) (q : Int) : Ordering :=
  compare (scale 2 (scale 10 a p) (-q)) (scale 10 (scale 2 b q) (-p))

def digitCount (n : Nat) : Nat :=
  (Nat.toDigits 10 n).length

namespace Binary64

/-- The least exponent: below the numbers that have it, mantissas get shorter. -/
def minExponent : Int := -1074

def maxExponent : Int := 971

def leastMantissa : Nat := Nat.pow 2 52

def nearest (num den : Nat) : Option Binary64 :=
  let guess : Int := (num.log2 : Int) - (den.log2 : Int) - 52
  let belowGuess := scale 2 num (-guess) < scale 2 (leastMantissa * den) guess
  let exponent := max minExponent (if belowGuess then guess - 1 else guess)
  let mantissa := roundHalfEven (scale 2 num (-exponent)) (scale 2 den exponent)
  let rounded : Binary64 :=
    if mantissa = 2 * leastMantissa then ⟨leastMantissa, exponent + 1⟩ else ⟨mantissa, exponent⟩
  if rounded.exponent > maxExponent then none else some rounded

/--
A decimal lies among the reals that are rounded to `x`. The ends count if the mantissa is even.
-/
def covers (x : Binary64) (d : Decimal) : Bool :=
  let below := if x.mantissa = leastMantissa && x.exponent > minExponent then 1 else 2
  let low := compareScaled d.digits d.exponent (4 * x.mantissa - below) (x.exponent - 2)
  let high := compareScaled d.digits d.exponent (4 * x.mantissa + 2) (x.exponent - 2)
  if x.mantissa % 2 = 0 then low.isGE && high.isLE else low.isGT && high.isLT

def leadingPower (x : Binary64) : Int :=
  let num := scale 2 x.mantissa x.exponent
  let den := scale 2 1 (-x.exponent)
  let guess : Int := (digitCount num : Int) - (digitCount den : Int)
  if (compareScaled 1 guess x.mantissa x.exponent).isLE then guess else guess - 1

def withDigits (x : Binary64) (count : Nat) : Option Decimal :=
  let power := x.leadingPower - count + 1
  let floor :=
    scale 10 (scale 2 x.mantissa x.exponent) (-power) /
      scale 10 (scale 2 1 (-x.exponent)) power
  let lower : Decimal := ⟨floor, power⟩
  let upper : Decimal := ⟨floor + 1, power⟩
  match x.covers lower, x.covers upper with
  | false, false => none
  | true, false => some lower
  | false, true => some upper
  | true, true =>
    match compareScaled (2 * floor + 1) power (2 * x.mantissa) x.exponent with
    | .gt => some lower
    | .lt => some upper
    | .eq => some (if floor % 2 = 0 then lower else upper)

def maxDigits : Nat := 17

def shortest (x : Binary64) : Decimal :=
  ((List.range maxDigits).findSome? fun i => x.withDigits (i + 1)).getD ⟨x.mantissa, 0⟩

end Binary64

def Decimal.stripZeros (d : Decimal) : Decimal :=
  go (digitCount d.digits) d
where
  go : Nat → Decimal → Decimal
    | 0, d => d
    | fuel + 1, d =>
      if d.digits = 0 then ⟨0, 0⟩
      else if d.digits % 10 = 0 then go fuel ⟨d.digits / 10, d.exponent + 1⟩
      else d

end QueryLinker.Number
