import QueryLinker.Link.Problem

/-!
This module contains the events of compiling: the problems that are reported and the decisions that
are logged, in the order in which they happen.
-/

namespace QueryLinker

inductive Event where
  | problem (p : Problem)
  | ignored (definition : Graphql.Definition) (file : String)
  | identical (fragment first : Fragment)
  | rejected (file : String) (errors : Nat)
  | collected (operations fragments : Nat)
  | unresolved (operation : Operation) (problems : Nat)
  | invalidated (operation : Operation) (errors : Nat)
  | compiled (queries documents : Nat)
deriving Repr

inductive LogRank where
  | debug
  | info
deriving DecidableEq, Repr

def LogRank.text : LogRank → String
  | .debug => "DEBUG"
  | .info => "INFO"

structure LogRecord where
  rank : LogRank
  part : String
  message : String
deriving DecidableEq, Repr

namespace Event

def problem? : Event → Option Problem
  | .problem p => some p
  | _ => none

def log : Event → LogRecord
  | .problem p => ⟨.debug, "errors", p.kind.text ++ " in " ++ p.file ++ ": " ++ p.message⟩
  | .ignored d file =>
    ⟨.debug, "definitions", "Ignoring " ++ d.kindText ++ " definition in " ++ file⟩
  | .identical fragment first =>
    ⟨.debug, "definitions", "Fragment " ++ fragment.name ++ " in " ++ fragment.site.file ++
      " is identical to the one in " ++ first.site.file⟩
  | .rejected file errors =>
    ⟨.info, "definitions", "Rejected " ++ file ++ ": " ++ toString errors ++
      " structural validation error(s)"⟩
  | .collected operations fragments =>
    ⟨.debug, "definitions", "Collected " ++ toString operations ++ " operation(s) and " ++
      toString fragments ++ " fragment(s)"⟩
  | .unresolved operation problems =>
    ⟨.info, "resolver", "Dropped " ++ operation.name ++ " in " ++ operation.site.file ++ ": " ++
      toString problems ++ " unresolved fragment spread(s)"⟩
  | .invalidated operation errors =>
    ⟨.info, "compiler", "Dropped " ++ operation.name ++ " in " ++ operation.site.file ++ ": " ++
      toString errors ++ " schema validation error(s)"⟩
  | .compiled queries documents =>
    ⟨.info, "compiler", "Compiled " ++ toString queries ++ " of " ++ toString documents ++
      " document(s)"⟩

def problems (events : List Event) : List Problem :=
  events.filterMap problem?

end Event

end QueryLinker
