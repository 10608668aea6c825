import QueryLinker.Number.Real

/-!
This module contains sums and products of floating point numbers: each is the number nearest to the
exact one. All of it is exact arithmetic on integers that is rounded once.
-/

namespace QueryLinker.Number

structure Dyadic where
  numerator : Int
  exponent : Int

namespace Real

def dyadic (negative : Bool) (d : Decimal) : Dyadic :=
  match Binary64.nearest (scale 10 d.digits d.exponent) (scale 10 1 (-d.exponent)) with
  | none => ⟨0, 0⟩
  | some x => ⟨if negative then -Int.ofNat x.mantissa else Int.ofNat x.mantissa, x.exponent⟩

def ofDyadic (zero : Bool) (x : Dyadic) : Real :=
  let n := x.numerator.natAbs
  let negative := decide (x.numerator < 0)
  if n = 0 then .finite zero ⟨0, 0⟩
  else
    match Binary64.nearest (scale 2 n x.exponent) (scale 2 1 (-x.exponent)) with
    | none => .infinite negative
    | some y =>
      if y.mantissa = 0 then .finite negative ⟨0, 0⟩
      else .finite negative y.shortest.stripZeros

def ofInt? (n : Int) : Option Real :=
  match ofDyadic false ⟨n, 0⟩ with
  | .infinite _ => none
  | x => some x

def isNegative : Real → Bool
  | .nan => false
  | .infinite negative => negative
  | .finite negative _ => negative

def neg : Real → Real
  | .nan => .nan
  | .infinite negative => .infinite !negative
  | .finite negative d => .finite (!negative) d

def mul (x y : Real) : Real :=
  let negative := x.isNegative != y.isNegative
  match x, y with
  | .nan, _ => .nan
  | _, .nan => .nan
  | .infinite _, y => if y.isZero then .nan else .infinite negative
  | x, .infinite _ => if x.isZero then .nan else .infinite negative
  | .finite m d, .finite n e =>
    let a := dyadic m d
    let b := dyadic n e
    ofDyadic negative ⟨a.numerator * b.numerator, a.exponent + b.exponent⟩

def add : Real → Real → Real
  | .nan, _ => .nan
  | _, .nan => .nan
  | .infinite m, .infinite n => if m == n then .infinite m else .nan
  | .infinite m, _ => .infinite m
  | _, .infinite n => .infinite n
  | .finite m d, .finite n e =>
    let a := dyadic m d
    let b := dyadic n e
    let exponent := min a.exponent b.exponent
    let aligned (x : Dyadic) : Int :=
      x.numerator * Int.ofNat (scale 2 1 (x.exponent - exponent))
    -- A sum of zeros is negative only if both are.
    ofDyadic (m && n) ⟨aligned a + aligned b, exponent⟩

def isInt (n : Int) : Real → Bool
  | .finite negative d =>
    let x := dyadic negative d
    x.numerator * Int.ofNat (scale 2 1 x.exponent) == n * Int.ofNat (scale 2 1 (-x.exponent))
  | _ => false

def same (x y : Real) : Bool :=
  x == y || (x.isZero && y.isZero)

end Real

end QueryLinker.Number
