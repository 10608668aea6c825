import QueryLinker.Validation.Subject

/-!
This module contains the rules about arguments: they are known, have different names, and those that
are required are given.
-/

namespace QueryLinker.Validation.Rules

open Graphql

def directiveArguments? (s : Subject) (name : String) : Option (List String) :=
  match s.directiveDefinition? name with
  | some d => some (d.arguments.map (·.name.value))
  | none => (s.knownDirectives.findRev? (·.name == name)).map fun d => d.arguments.map (·.name)

def unknownDirectiveArguments (s : Subject) (d : Directive) : Reaction Unit :=
  let known? := directiveArguments? s d.name.value
  let unknown := d.arguments.filter fun a => known?.any fun known => !known.contains a.name.value
  let trials := unknown.map fun a =>
    (suggestion a.name.value (known?.getD [])).map fun question =>
      errorAt a.loc? ("Unknown argument " ++ quoteName a.name.value ++ " on directive " ++
        quoteName ("@" ++ d.name.value) ++ "." ++ question)
  .ofTrials trials true

def knownArgumentNamesOnDirectives (s : Subject) : Rule :=
  .ofState () fun _ e =>
    match e.node with
    | .directive d => if e.leaving then { state := () } else unknownDirectiveArguments s d
    | _ => { state := () }

def knownArgumentNames (s : Subject) : Rule :=
  .ofState () fun _ e =>
    match e.leaving, e.node, e.parent? with
    | false, .directive d, _ => unknownDirectiveArguments s d
    | false, .argument a, some (.field head _) =>
      match e.types.argument?, e.types.field?, e.types.parentType? with
      | none, some field, some parent =>
        let question := suggestion a.name.value (field.arguments.map (·.name))
        let trial := question.map fun question =>
          errorAt a.loc? ("Unknown argument " ++ quoteName a.name.value ++
            " on field " ++ quoteName (parent ++ "." ++ head.name.value) ++ "." ++ question)
        .ofTrials [trial] false
      | _, _, _ => { state := () }
    | _, _, _ => { state := () }

def uniqueArgumentNames : Rule :=
  let check (args : List Argument) : List Graphql.Error :=
    (repeated (·.name.value) args).map fun (name, args) =>
      ⟨"There can be only one argument named " ++ quoteName name ++ ".", args.map (·.name.loc?)⟩
  .ofEntered fun e =>
    match e.node with
    | .field head _ => check head.arguments
    | .directive d => check d.arguments
    | _ => []

def requiredDirectiveArguments (s : Subject) (name : String) : List (String × String) :=
  match s.directiveDefinition? name with
  | some d =>
    (d.arguments.filter fun a => a.default?.isNone && (Schema.TypeExpr.ofRef a.type).isNonNull).map
      fun a => (a.name.value, Printer.typeRef a.type)
  | none =>
    match s.knownDirectives.findRev? (·.name == name) with
    | some d => (d.arguments.filter (·.isRequired)).map fun a => (a.name, a.type.text)
    | none => []

def missingDirectiveArguments (s : Subject) (d : Directive) : List Graphql.Error :=
  let given := d.arguments.map (·.name.value)
  let missing := (requiredDirectiveArguments s d.name.value).filter fun (name, _) =>
    !given.contains name
  missing.map fun (name, type) =>
    errorAt d.loc? ("Directive " ++ quoteName ("@" ++ d.name.value) ++ " argument " ++
      quoteName name ++ " of type " ++ quoteName type ++ " is required, but it was not provided.")

def providedRequiredArgumentsOnDirectives (s : Subject) : Rule :=
  .ofState () fun _ e =>
    match e.leaving, e.node with
    | true, .directive d => { state := (), errors := missingDirectiveArguments s d }
    | _, _ => { state := () }

def providedRequiredArguments (s : Subject) : Rule :=
  .ofState () fun _ e =>
    match e.leaving, e.node, e.types.field? with
    | true, .directive d, _ => { state := (), errors := missingDirectiveArguments s d }
    | true, .field head _, some field =>
      let given := head.arguments.map (·.name.value)
      let missing := field.arguments.filter fun a => a.isRequired && !given.contains a.name
      { state := ()
        errors := missing.map fun a =>
          errorAt head.loc? ("Field " ++ quoteName head.name.value ++ " argument " ++
            quoteName a.name ++ " of type " ++ quoteName a.type.text ++
            " is required, but it was not provided.") }
    | _, _, _ => { state := () }

end QueryLinker.Validation.Rules
