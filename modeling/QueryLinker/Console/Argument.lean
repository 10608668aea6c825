import QueryLinker.Console.Literal.Value
import QueryLinker.Text.Quoted

/-!
This module contains the arguments that a tag hands to what it names: a literal, or several ones in
the brackets of a call.
-/

namespace QueryLinker.Console

inductive ArgumentFlaw where
  | unreadable (arguments : String) (flaw : Literal.Flaw)
  | noValue (flaw : Literal.ValueFlaw)
deriving DecidableEq, Repr

def ArgumentFlaw.message (given : String) : ArgumentFlaw → String
  | .unreadable arguments flaw =>
    "error parsing " ++ Text.quoted arguments ++ " in " ++ Text.quoted given ++ "; " ++ flaw.message
  | .noValue flaw => "error parsing " ++ Text.quoted given ++ "; " ++ flaw.message

namespace Argument

def call? (cs : List Char) : Option (List Char) :=
  let name := cs.takeWhile fun c => Text.isWordChar c || c == '.'
  match cs.drop name.length with
  | [] => some ['(', ')']
  | '(' :: rest =>
    if rest.getLast? == some ')' && !rest.contains '\n' then some ('(' :: rest) else none
  | _ => none

def ofText (cs : List Char) : List Char :=
  (call? cs).getD cs

def check (cs : List Char) : Except ArgumentFlaw Unit :=
  let arguments := ofText cs
  match Literal.readExpr arguments with
  | .error flaw => .error (.unreadable (String.ofList arguments) flaw)
  | .ok e =>
    match e.value with
    | .error flaw => .error (.noValue flaw)
    | .ok _ => .ok ()

end Argument

end QueryLinker.Console
