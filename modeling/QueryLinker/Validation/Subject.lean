import QueryLinker.Graphql.Printer
import QueryLinker.Limits
import QueryLinker.Text.Suggestion
import QueryLinker.Validation.Rule

/-!
This module contains what rules ask about the document under validation: its fragments, which of
them an operation needs, and where it uses variables.
-/

namespace QueryLinker.Validation

open Graphql

structure Subject where
  document : Document
  schema : Schema
  definesSchema : Bool := false
  nesting : Nat := usualNesting

structure VariableUse where
  name : String
  loc? : Option Loc
  type? : Option Schema.TypeExpr
  hasDefault : Bool

def groupBy {α : Type} (key : α → String) (items : List α) : List (String × List α) :=
  (items.map key).eraseDups.map fun k => (k, items.filter fun x => key x == k)

def repeated {α : Type} (key : α → String) (items : List α) : List (String × List α) :=
  (groupBy key items).filter fun (_, xs) => 1 < xs.length

mutual

def setSpreads : SelectionSet → List FragmentSpread
  | .absent => []
  | .braces selections _ => ownSpreads selections ++ innerSpreads selections
termination_by structural set => set

def innerSpreads : List Selection → List FragmentSpread
  | [] => []
  | s :: ss => innerSpreads ss ++ selectionSpreads s
termination_by structural ss => ss

def selectionSpreads : Selection → List FragmentSpread
  | .field _ set => setSpreads set
  | .spread _ => []
  | .inline _ set => setSpreads set
termination_by structural s => s

def ownSpreads : List Selection → List FragmentSpread
  | [] => []
  | .spread f :: ss => f :: ownSpreads ss
  | .field _ _ :: ss => ownSpreads ss
  | .inline _ _ :: ss => ownSpreads ss
termination_by structural ss => ss

end

namespace Subject

def fragment? (s : Subject) (name : String) : Option FragmentDefinition :=
  s.document.fragments.findRev? fun f => f.name.value == name

def newFragments (s : Subject) (seen : List String) :
    List FragmentSpread → List FragmentDefinition × List String
  | [] => ([], seen)
  | f :: fs =>
    if seen.contains f.name.value then s.newFragments seen fs
    else
      let (found, seen) := s.newFragments (f.name.value :: seen) fs
      ((s.fragment? f.name.value).toList ++ found, seen)

def fragmentsFrom (s : Subject) (fuel : Nat) (seen : List String) (stack : List SelectionSet) :
    List FragmentDefinition :=
  match fuel, stack with
  | 0, _ => []
  | _, [] => []
  | fuel + 1, set :: stack =>
    let (found, seen) := s.newFragments seen (setSpreads set)
    found ++ s.fragmentsFrom fuel seen ((found.map (·.selectionSet)).reverse ++ stack)

def fragmentsOf (s : Subject) (o : OperationDefinition) : List FragmentDefinition :=
  s.fragmentsFrom (s.document.fragments.length + 1) [] [o.selectionSet]

def variableUse? (e : Event) : Option VariableUse :=
  match e.leaving, e.node with
  | false, .value (.var v) => some ⟨v.name.value, v.loc?, e.types.inputType?, e.types.hasDefault⟩
  | _, _ => none

def usesIn (s : Subject) (d : Definition) : List VariableUse :=
  (definitionEvents s.schema { node := .document s.document } d).filterMap variableUse?

def usesOf (s : Subject) (o : OperationDefinition) : List VariableUse :=
  s.usesIn (.operation o) ++ (s.fragmentsOf o).flatMap fun f => s.usesIn (.fragment f)

def knownDirectives (s : Subject) : List Schema.Directive :=
  if s.definesSchema then Schema.standardDirectives else s.schema.directives

def directiveDefinitions (s : Subject) : List DirectiveDefinition :=
  s.document.definitions.filterMap fun
    | .directive d => some d
    | _ => none

def typeDefinitions (s : Subject) : List TypeDefinition :=
  s.document.definitions.filterMap fun
    | .type d => some d
    | _ => none

def directiveDefinition? (s : Subject) (name : String) : Option DirectiveDefinition :=
  s.directiveDefinitions.findRev? fun d => d.name.value == name

end Subject

def suggestion (input : String) (options : List String) : Except Halt String :=
  ((Text.suggestionList input options).mapError .number).map fun names =>
    Text.didYouMean names none

def errorAt (loc? : Option Loc) (message : String) : Graphql.Error :=
  ⟨message, [loc?]⟩

def quoteName (name : String) : String :=
  "'" ++ name ++ "'"

end QueryLinker.Validation
