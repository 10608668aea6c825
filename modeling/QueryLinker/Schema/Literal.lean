import QueryLinker.Graphql.Printer
import QueryLinker.Number.Integer
import QueryLinker.Schema.Failure
import QueryLinker.Schema.Standard
import QueryLinker.Text.Suggestion

/-!
This module contains literal values and the types they are of: what is wrong with a literal of a
scalar or an enum, and whether a literal can stand for a value of an input type.
-/

namespace QueryLinker.Schema

open Graphql

inductive LiteralFlaw where
  | stated (message : String)
  | unreadable (reason : String)
deriving DecidableEq, Repr

def int32Flaw? (text shown : String) : Option LiteralFlaw :=
  match Number.integer 10 text with
  | .error flaw => some (.unreadable flaw.message)
  | .ok n =>
    if -2147483648 ≤ n && n ≤ 2147483647 then none
    else some (.stated ("Int cannot represent non 32-bit signed integer value: " ++ shown))

def scalarFlaw? (scalar : String) (v : Value) : Option LiteralFlaw :=
  let shown := Printer.value v
  let wrong (what : String) : Option LiteralFlaw := some (.stated (what ++ ": " ++ shown))
  match scalar, v with
  | "Int", .int text _ => int32Flaw? text shown
  | "Int", _ => wrong "Int cannot represent non-integer value"
  | "Float", .int _ _ => none
  | "Float", .float _ _ => none
  | "Float", _ => wrong "Float cannot represent non numeric value"
  | "String", .string _ _ _ => none
  | "String", _ => wrong "String cannot represent a non string value"
  | "Boolean", .boolean _ _ => none
  | "Boolean", _ => wrong "Boolean cannot represent a non boolean value"
  | "ID", .string _ _ _ => none
  | "ID", .int _ _ => none
  | "ID", _ => wrong "ID cannot represent a non-string and non-integer value"
  | _, _ => none

def enumFlaw? (enum : String) (values : List String) (v : Value) : Option LiteralFlaw :=
  let shown := Printer.value v
  let wrong (message : String) : LiteralFlaw :=
    match Text.suggestionList shown values with
    | .ok names => .stated (message ++ Text.didYouMean names (some "the enum value"))
    | .error flaw => .unreadable flaw.message
  match v with
  | .enum name _ =>
    if values.contains name then none
    else some (wrong ("Value '" ++ shown ++ "' does not exist in '" ++ enum ++ "' enum."))
  | _ => some (wrong ("Enum '" ++ enum ++ "' cannot represent non-enum value: " ++ shown ++ "."))

inductive LiteralType where
  | scalar
  | enum (values : List String)
  | inputObject (fields : List InputValue)
  | output
deriving Repr

namespace LiteralType

def ofBody : TypeBody → LiteralType
  | .scalar => .scalar
  | .enum values => .enum values
  | .inputObject fields => .inputObject fields
  | _ => .output

end LiteralType

def literalField? (fields : List ObjectField) (name : String) : Option Value :=
  let found := fields.findRev? fun f => f.name.value == name
  match found.map ObjectField.value with
  | some (.var _) => none
  | value? => value?

def allPass {ε α : Type} (test : α → Except ε Bool) : List α → Except ε Bool
  | [] => .ok true
  | x :: xs => do if ← test x then allPass test xs else return false

def maxLiteralDepth : Nat := 1000

/--
Whether a literal stands for a value of a type. Fields that are left out need a default or may be
null; unknown fields do not matter. Nothing stands in for a variable, so it counts as left out.
-/
def accepts (typeOf : String → Except Failure LiteralType) (fuel : Nat) (type : TypeExpr)
    (v : Value) : Except Failure Bool :=
  match fuel with
  | 0 => .ok true
  | fuel + 1 =>
    match type, v with
    | _, .var _ => .ok false
    | .nonNull _, .null _ => .ok false
    | .nonNull type, v => accepts typeOf fuel type v
    | _, .null _ => .ok true
    | .list item, .list items _ =>
      allPass (fun (v : Value) =>
        match v with
        | .var _ => .ok !item.isNonNull
        | v => accepts typeOf fuel item v) items
    | .list item, v => accepts typeOf fuel item v
    | .named name, v => do
      match ← typeOf name with
      | .scalar => return (scalarFlaw? name v).isNone
      | .enum values => return (enumFlaw? name values v).isNone
      | .output => throw (.invalid ("Unexpected input type: " ++ name ++ "."))
      | .inputObject fields =>
        match v with
        | .object given _ =>
          allPass (fun f =>
            match literalField? given f.name with
            | some v => accepts typeOf fuel f.type v
            | none => .ok !f.isRequired) fields
        | _ => return false

def isDefault (typeOf : String → Except Failure LiteralType) (type : TypeExpr)
    (default? : Option Value) : Except Failure Bool :=
  match default? with
  | some v => accepts typeOf maxLiteralDepth type v
  | none => .ok false

end QueryLinker.Schema
