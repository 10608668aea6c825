import QueryLinker.Text.Lines
import QueryLinker.Time.Written
import QueryLinker.Yaml.Node

/-!
This module contains the types of plain scalars: the spelling of a scalar without quotes tells
whether it is null, a truth value, a number, a time or a text. A line break at the very end does not
count.
-/

namespace QueryLinker.Yaml.Scalar

def truthSpellings : List String :=
  ["yes", "Yes", "YES", "no", "No", "NO", "true", "True", "TRUE", "false", "False", "FALSE", "on",
   "On", "ON", "off", "Off", "OFF"]

def nullSpellings : List String :=
  ["~", "null", "Null", "NULL"]

def signSpellings : List String :=
  ["!", "&", "*"]

def dropSign : List Char → List Char
  | '-' :: cs => cs
  | '+' :: cs => cs
  | cs => cs

def areDigits (isDigit : Char → Bool) (cs : List Char) : Bool :=
  !cs.isEmpty && cs.all fun c => isDigit c || c == '_'

def areNumber (cs : List Char) : Bool :=
  cs.head?.any Char.isDigit && areDigits Char.isDigit cs

def isBit (c : Char) : Bool :=
  c == '0' || c == '1'

def isOctal (c : Char) : Bool :=
  '0' ≤ c && c ≤ '7'

def isHexDigit (c : Char) : Bool :=
  c.isDigit || ('a' ≤ c && c ≤ 'f') || ('A' ≤ c && c ≤ 'F')

def isSixtieth : List Char → Bool
  | [a] => a.isDigit
  | [a, b] => '0' ≤ a && a ≤ '5' && b.isDigit
  | _ => false

def isInt (cs : List Char) : Bool :=
  match dropSign cs with
  | ['0'] => true
  | '0' :: 'b' :: bits => areDigits isBit bits
  | '0' :: 'x' :: digits => areDigits isHexDigit digits
  | '0' :: digits => areDigits isOctal digits
  | cs =>
    match Text.splitAt ':' cs with
    | first :: others => areNumber first && others.all isSixtieth
    | [] => false

def isExponent : List Char → Bool
  | [] => true
  | e :: sign :: digits =>
    (e == 'e' || e == 'E') && (sign == '+' || sign == '-') && !digits.isEmpty &&
      digits.all Char.isDigit
  | _ => false

def isReal (cs : List Char) : Bool :=
  let unsigned := dropSign cs
  let whole := unsigned.takeWhile (· != '.')
  match unsigned.dropWhile (· != '.') with
  | '.' :: rest =>
    let fraction := rest.takeWhile fun c => c.isDigit || c == '_'
    let after := rest.drop fraction.length
    if whole.isEmpty then
      let signed := unsigned.length != cs.length
      let word := String.ofList rest
      ["inf", "Inf", "INF"].contains word ||
        (!signed && (["nan", "NaN", "NAN"].contains word ||
          (areNumber fraction && isExponent after)))
    else
      match Text.splitAt ':' whole with
      | [digits] => areNumber digits && isExponent after
      | first :: others => areNumber first && others.all isSixtieth && after.isEmpty
      | [] => false
  | _ => false

def isTime (cs : List Char) : Bool :=
  match WrittenTime.read? cs with
  | some t => t.clock?.isSome || t.isPadded
  | none => false

def tagOfSpelling (cs : List Char) : Tag :=
  let s := String.ofList cs
  if truthSpellings.contains s then .bool
  else if isReal cs then .real
  else if isInt cs then .int
  else if s == "<<" then .merge
  else if nullSpellings.contains s then .null
  else if isTime cs then .time
  else if s == "=" then .standIn
  else if signSpellings.contains s then .other (Tag.standardStart ++ "yaml")
  else .text

def dropBreak (cs : List Char) : List Char :=
  if cs.getLast? == some '\n' then cs.dropLast else cs

def tag (text : String) : Tag :=
  if text.isEmpty then .null else tagOfSpelling (dropBreak text.toList)

end QueryLinker.Yaml.Scalar
