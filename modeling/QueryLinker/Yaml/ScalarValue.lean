import QueryLinker.Number.RealText
import QueryLinker.Text.LetterCase
import QueryLinker.Yaml.Flaw
import QueryLinker.Yaml.Scalar
import QueryLinker.Yaml.Value

/-!
This module contains the values of scalars. A type that a tag names takes more spellings than those
that tell the type of a plain scalar.
-/

namespace QueryLinker.Yaml.Scalar

def counted (text : String) : List Char :=
  text.toList.filter (· != '_')

def signed : List Char → Except ScalarFlaw (Bool × List Char)
  | [] => .error .emptyNumber
  | '-' :: cs => .ok (true, cs)
  | '+' :: cs => .ok (false, cs)
  | cs => .ok (false, cs)

def integer (base : Nat) (cs : List Char) : Except ScalarFlaw Int :=
  (Number.integer base (String.ofList cs)).mapError .integer

def unsignedInt : List Char → Except ScalarFlaw Int
  | [] => .error .emptyNumber
  | '0' :: 'b' :: cs => integer 2 cs
  | '0' :: 'x' :: cs => integer 16 cs
  | '0' :: cs => integer 8 ('0' :: cs)
  | cs => do
    let parts ← (Text.splitAt ':' cs).mapM (integer 10)
    return parts.foldl (fun n part => n * 60 + part) 0

def int (text : String) : Except ScalarFlaw Int := do
  let (negative, cs) ← signed (counted text)
  let n ← unsignedInt cs
  return if negative then -n else n

def plainReal (cs : List Char) : Except ScalarFlaw Number.Real :=
  let s := String.ofList cs
  match Number.real? s with
  | some x => .ok x
  | none => .error (.noReal s)

def sumOfParts (weight : Nat) (sum : Number.Real) :
    List Number.Real → Except ScalarFlaw Number.Real
  | [] => .ok sum
  | part :: parts =>
    match Number.Real.ofInt? weight with
    | none => .error .tooManyParts
    | some unit => sumOfParts (weight * 60) (sum.add (part.mul unit)) parts

def unsignedReal (cs : List Char) : Except ScalarFlaw Number.Real := do
  if cs == ".inf".toList then return .infinite false
  if cs == ".nan".toList then return .nan
  match Text.splitAt ':' cs with
  | [cs] => plainReal cs
  | parts => sumOfParts 1 (.finite false ⟨0, 0⟩) (← parts.mapM plainReal).reverse

def real (text : String) : Except ScalarFlaw Number.Real := do
  let (negative, cs) ← signed (Text.lowerList (counted text))
  let x ← unsignedReal cs
  return if negative then x.neg else x

def truthWords : List (String × Bool) :=
  [("yes", true), ("no", false), ("true", true), ("false", false), ("on", true), ("off", false)]

def truth (text : String) : Except ScalarFlaw Bool :=
  match truthWords.lookup (Text.lower text) with
  | some b => .ok b
  | none => .error (.noTruth (Text.lower text))

def time (text : String) : Except ScalarFlaw Value :=
  match WrittenTime.read? (dropBreak text.toList) with
  | none => .error .noTime
  | some t =>
    match t.clock? with
    | some c => ((WrittenTime.timestamp t.date c).mapError .time).map .time
    | none => (t.day.mapError .time).map .date

def isForeign (letter : Letter) : Bool :=
  128 ≤ letter.codePoint

def bytes (text : LooseText) : Except BytesFlaw (List UInt8) :=
  match text.letters.findIdx? isForeign with
  | some start =>
    let foreign := (text.letters.drop start).takeWhile isForeign
    .error (.foreign (foreign.headD (.char ' ')) start foreign.length)
  | none => (Text.Base64.decode text.text.toList).mapError .digits

end QueryLinker.Yaml.Scalar
