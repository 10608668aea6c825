import QueryLinker.Graphql.Error
import QueryLinker.Graphql.Parser
import QueryLinker.Number.Integer

/-!
This module contains the reasons why a schema cannot be built.
-/

namespace QueryLinker.Schema

inductive Failure where
  | unparsable (failure : Graphql.SyntaxFailure)
  | invalid (message : String)
  | broken (error : Graphql.Error)
  | missing (key : String)
  | noObject (message : String)
  | noDescription (message : String)
  | number (flaw : Number.IntegerFlaw)
  | unplaced
deriving Repr

namespace Failure

def display? : Failure → Option String
  | .unparsable e =>
    Graphql.Error.display? ⟨e.message, [some ⟨e.source, e.offset, e.offset⟩]⟩
  | .invalid message => some message
  | .broken error => error.display?
  | .missing key => some key
  | .noObject message => some message
  | .noDescription message => some message
  | .number flaw => some flaw.message
  | .unplaced => some "list index out of range"

def within (type part : String) (f : Failure) : Failure :=
  match f.display? with
  | none => .unplaced
  | some text =>
    let message := type ++ " " ++ part ++ " cannot be resolved. " ++ text
    match f with
    | .unparsable _ => .broken ⟨message, []⟩
    | .broken _ => .broken ⟨message, []⟩
    | _ => .invalid message

end Failure

def joinMessages (messages : List String) : String :=
  "\n\n".intercalate messages

end QueryLinker.Schema
