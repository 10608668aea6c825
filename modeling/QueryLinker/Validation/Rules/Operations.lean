import QueryLinker.Validation.Subject

/-!
This module contains the rules about operations: a document to be executed defines nothing but
operations and fragments, operations have different names, and one without name stands alone.
-/

namespace QueryLinker.Validation.Rules

open Graphql

def executableDefinitions : Rule :=
  .ofState () fun _ e =>
    match e.node with
    | .document d =>
      let errors := d.definitions.filterMap fun definition =>
        if definition.isOperation || definition.isFragment then none
        else
          let what := match definition.name? with | some n => quoteName n.value | none => "schema"
          some (errorAt definition.loc? ("The " ++ what ++ " definition is not executable."))
      { state := (), errors := if e.leaving then [] else errors, skip := true }
    | _ => { state := () }

def noteName (message : String → String) (seen : List (String × Option Loc)) (name : Name) :
    List (String × Option Loc) × List Graphql.Error :=
  match seen.lookup name.value with
  | some first => (seen, [⟨message name.value, [first, name.loc?]⟩])
  | none => (seen ++ [(name.value, name.loc?)], [])

def noteNames (message : String → String) (seen : List (String × Option Loc)) :
    List Name → List (String × Option Loc) × List Graphql.Error
  | [] => (seen, [])
  | n :: ns =>
    let (seen, errors) := noteName message seen n
    let (seen, later) := noteNames message seen ns
    (seen, errors ++ later)

def uniqueOperationNames : Rule :=
  .ofState ([] : List (String × Option Loc)) fun seen e =>
    match e.leaving, e.node with
    | false, .operation o =>
      match o.name? with
      | some name =>
        let message (n : String) : String :=
          "There can be only one operation named " ++ quoteName n ++ "."
        let (state, errors) := noteName message seen name
        { state, errors, skip := true }
      | none => { state := seen, skip := true }
    | false, .fragment _ => { state := seen, skip := true }
    | _, _ => { state := seen }

def loneAnonymousOperation (s : Subject) : Rule :=
  .ofEntered fun e =>
    match e.node with
    | .operation o =>
      if o.name?.isNone && 1 < s.document.operations.length then
        [errorAt o.loc? "This anonymous operation must be the only defined operation."]
      else []
    | _ => []

end QueryLinker.Validation.Rules
