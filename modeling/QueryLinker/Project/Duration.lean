import QueryLinker.Yaml.Value

/-!
This module contains spans of time that are given as a number of hours. They are counted in whole
microseconds; a fraction of an hour is rounded to the nearest one.
-/

namespace QueryLinker.Duration

open Number

/--
The microseconds of the hours `digits * 10 ^ exponent`, taken as a floating point number: those of
the whole hours are exact, those of the rest are rounded like any product, and a half goes to the
even microsecond.
-/
def microsOfDecimal (d : Decimal) : Nat :=
  let hour := Timestamp.microsPerHour.toNat
  match Binary64.nearest (scale 10 d.digits d.exponent) (scale 10 1 (-d.exponent)) with
  | none => 0
  | some x =>
    let num := scale 2 x.mantissa x.exponent
    let den := scale 2 1 (-x.exponent)
    match Binary64.nearest (num % den * hour) den with
    | none => 0
    | some rest =>
      let part := scale 2 1 (-rest.exponent)
      roundHalfEven (num / den * hour * part + scale 2 rest.mantissa rest.exponent) part

inductive Flaw where
  | noNumber (value : Yaml.Value)
  | notANumber
  | infinite
  | tooLong (days : Int)
deriving Repr

def maxDays : Nat := 999999999

def maxToldDays : Nat := 2147483647

def Flaw.message : Flaw → String
  | .noNumber value => "unsupported type for timedelta hours component: " ++ value.sortText
  | .notANumber => "cannot convert float NaN to integer"
  | .infinite => "cannot convert float infinity to integer"
  | .tooLong days =>
    if days ≤ maxToldDays && -(maxToldDays + 1 : Int) ≤ days then
      "days=" ++ toString days ++ "; must have magnitude <= " ++ toString maxDays
    else "Python int too large to convert to C int"

def checkDays (micros : Int) : Except Flaw Int :=
  let days := Int.fdiv micros Timestamp.microsPerDay
  if days.natAbs ≤ maxDays then .ok micros else .error (.tooLong days)

def microsOfHours : Yaml.Value → Except Flaw Int
  | .bool b => checkDays (if b then Timestamp.microsPerHour else 0)
  | .int n => checkDays (n * Timestamp.microsPerHour)
  | .real (.finite negative d) =>
    let n : Int := Int.ofNat (microsOfDecimal d)
    checkDays (if negative then -n else n)
  | .real .nan => .error .notANumber
  | .real (.infinite _) => .error .infinite
  | value => .error (.noNumber value)

end QueryLinker.Duration
