import QueryLinker.Number.Binary64

/-!
This module contains floating point numbers as their shortest decimals, and the text they are
written as.
-/

namespace QueryLinker.Number

inductive Real where
  | nan
  | infinite (negative : Bool)
  | finite (negative : Bool) (value : Decimal)
deriving DecidableEq, Repr

structure RealLayout where
  leastPoint : Int
  greatestPoint : Int
  exponentDigits : Nat
  nan : String
  infinity : String

namespace Real

def jsonLayout : RealLayout := ⟨-3, 16, 2, "NaN", "Infinity"⟩

def messageLayout : RealLayout := ⟨-3, 16, 2, "nan", "inf"⟩

def ofDecimal (negative : Bool) (digits : Nat) (exponent : Int) : Real :=
  let point : Int := (digitCount digits : Int) + exponent
  if digits = 0 || point < -400 then .finite negative ⟨0, 0⟩
  else if point > 400 then .infinite negative
  else
    match Binary64.nearest (scale 10 digits exponent) (scale 10 1 (-exponent)) with
    | none => .infinite negative
    | some x =>
      if x.mantissa = 0 then .finite negative ⟨0, 0⟩
      else .finite negative x.shortest.stripZeros

def exponentText (width : Nat) (e : Int) : String :=
  let digits := Nat.toDigits 10 e.natAbs
  String.ofList ((if e < 0 then '-' else '+') ::
    (List.replicate (width - digits.length) '0' ++ digits))

def decimalText (layout : RealLayout) (d : Decimal) : String :=
  let digits := Nat.toDigits 10 d.digits
  let point : Int := if d.digits = 0 then 1 else (digits.length : Int) + d.exponent
  if layout.leastPoint ≤ point && point ≤ layout.greatestPoint then
    if point ≤ 0 then
      "0." ++ String.ofList (List.replicate (-point).toNat '0' ++ digits)
    else
      let whole := point.toNat
      if digits.length ≤ whole then
        String.ofList (digits ++ List.replicate (whole - digits.length) '0') ++ ".0"
      else
        String.ofList (digits.take whole) ++ "." ++ String.ofList (digits.drop whole)
  else
    let mantissa :=
      match digits with
      | d :: e :: es => String.ofList (d :: '.' :: e :: es)
      | ds => String.ofList ds
    mantissa ++ "e" ++ exponentText layout.exponentDigits (point - 1)

def toText (layout : RealLayout) : Real → String
  | .nan => layout.nan
  | .infinite negative => (if negative then "-" else "") ++ layout.infinity
  | .finite negative d => (if negative then "-" else "") ++ decimalText layout d

def isZero : Real → Bool
  | .finite _ d => d.digits == 0
  | _ => false

end Real

end QueryLinker.Number
