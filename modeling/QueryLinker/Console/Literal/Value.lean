import QueryLinker.Console.Literal.Reading

/-!
This module contains the values of literals: numbers, texts, a few constants, and tuples, sets and
mappings of literals. Of a value, no more matters than what may be made of it.
-/

namespace QueryLinker.Console.Literal

inductive ValueFlaw where
  | malformed
  | unpacked
  | unhashable (sort : String)
  | tooLarge
deriving DecidableEq, Repr

def ValueFlaw.message : ValueFlaw → String
  | .malformed => "malformed node or string"
  | .unpacked => "malformed node or string: None"
  | .unhashable sort => "unhashable type: '" ++ sort ++ "'"
  | .tooLarge => "int too large to convert to float"

inductive Value where
  | real (isSummand : Bool)
  | complex
  | other (unhashable? : Option String)
deriving DecidableEq, Repr

namespace Value

def unhashable? : Value → Option String
  | .other sort? => sort?
  | _ => none

def check (v : Value) : Except ValueFlaw Unit :=
  match v.unhashable? with
  | some sort => .error (.unhashable sort)
  | none => .ok ()

end Value

namespace Expr

def number? : Expr → Option Value
  | .number n => some (if n.imaginary then .complex else .real n.isReal)
  | _ => none

def signedNumber? : Expr → Option Value
  | .signed e => e.number?
  | e => e.number?

def sumValue (left right : Expr) : Except ValueFlaw Value :=
  match left.signedNumber?, right.number? with
  | some (.real isSummand), some .complex => if isSummand then .ok .complex else .error .tooLarge
  | _, _ => .error .malformed

mutual

def value : Expr → Except ValueFlaw Value
  | .constant _ => .ok (.other none)
  | .text => .ok (.other none)
  | .emptySet => .ok (.other (some "set"))
  | .tuple members => do return .other ((← values members).findSome? Value.unhashable?)
  | .set members => do
    checkElements members
    return .other (some "set")
  | .mapping members => do
    checkEntries members
    return .other (some "dict")
  | .sum left right => sumValue left right
  | e =>
    match e.signedNumber? with
    | some v => .ok v
    | none => .error .malformed

def values : List Expr → Except ValueFlaw (List Value)
  | [] => .ok []
  | e :: es => do return (← value e) :: (← values es)

def checkElements : List Expr → Except ValueFlaw Unit
  | [] => .ok ()
  | e :: es => do
    (← value e).check
    checkElements es

def checkEntries : List Expr → Except ValueFlaw Unit
  | [] => .ok ()
  | .entry k v :: es => do
    let key ← value k
    let _ ← value v
    key.check
    checkEntries es
  | _ :: _ => .error .unpacked

end

end Expr

end QueryLinker.Console.Literal
