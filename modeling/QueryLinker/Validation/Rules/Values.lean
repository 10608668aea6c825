import QueryLinker.Schema.Literal
import QueryLinker.Validation.Rules.Operations

/-!
This module contains the rules about values: they are of the types that are expected, and the fields
of an object value have different names.
-/

namespace QueryLinker.Validation.Rules

open Graphql

def unexpectedValue (type : Schema.TypeExpr) (v : Value) (reason? : Option String) :
    Graphql.Error :=
  let ending := reason?.elim "." ("; " ++ ·)
  errorAt v.loc? ("Expected value of type " ++ quoteName type.text ++ ", found " ++
    Printer.value v ++ ending)

def literalError (type : Schema.TypeExpr) (v : Value) : Schema.LiteralFlaw → Graphql.Error
  | .stated message => errorAt v.loc? message
  | .unreadable reason => unexpectedValue type v (some reason)

def leafErrors (s : Schema) (e : Event) (v : Value) : List Graphql.Error :=
  match e.types.inputType? with
  | none => []
  | some type =>
    let name := type.baseName
    match s.body? name with
    | some .scalar => ((Schema.scalarFlaw? name v).map (literalError type v)).toList
    | some (.enum values) => ((Schema.enumFlaw? name values v).map (literalError type v)).toList
    | _ => [unexpectedValue type v none]

def inputFields? (s : Schema) (type? : Option Schema.TypeExpr) :
    Option (String × List Schema.InputValue) :=
  type?.bind fun type =>
    match s.body? type.baseName with
    | some (.inputObject fields) => some (type.baseName, fields)
    | _ => none

def valuesOfCorrectType (s : Subject) : Rule :=
  let leaf (e : Event) (v : Value) (skip : Bool) : Reaction Unit :=
    { state := (), errors := leafErrors s.schema e v, skip }
  .ofState () fun _ e =>
    match e.leaving, e.node with
    | true, _ => { state := () }
    | false, .value (.list items loc?) =>
      if (e.types.parentInputType?.map (·.nullable)).any (·.isList) then { state := () }
      else leaf e (.list items loc?) true
    | false, .value (.object fields loc?) =>
      match inputFields? s.schema e.types.inputType? with
      | none => leaf e (.object fields loc?) true
      | some (type, declared) =>
        let missing := declared.filter fun d =>
          d.isRequired && (fields.all fun f => f.name.value != d.name)
        { state := ()
          errors := missing.map fun d =>
            errorAt loc? ("Field " ++ quoteName (type ++ "." ++ d.name) ++ " of required type " ++
              quoteName d.type.text ++ " was not provided.") }
    | false, .objectField f =>
      match e.types.inputType?, inputFields? s.schema e.types.parentInputType? with
      | none, some (type, declared) =>
        let question := suggestion f.name.value (declared.map (·.name))
        let trial := question.map fun question =>
          errorAt f.loc? ("Field " ++ quoteName f.name.value ++ " is not defined by type " ++
            quoteName type ++ "." ++ question)
        .ofTrials [trial] false
      | _, _ => { state := () }
    | false, .value (.null loc?) =>
      match e.types.inputType? with
      | some (.nonNull type) =>
        { state := (), errors := [unexpectedValue (.nonNull type) (.null loc?) none] }
      | _ => { state := () }
    | false, .value (.var _) => { state := () }
    | false, .value v => leaf e v false
    | false, _ => { state := () }

def uniqueInputFieldNames : Rule :=
  let message (n : String) : String :=
    "There can be only one input field named " ++ quoteName n ++ "."
  .ofState ([] : List (List (String × Option Loc))) fun stack e =>
    match e.leaving, e.node with
    | false, .value (.object _ _) => { state := [] :: stack }
    | true, .value (.object _ _) => { state := stack.tail }
    | false, .objectField f =>
      let (seen, errors) := noteName message (stack.headD []) f.name
      { state := seen :: stack.tail, errors }
    | _, _ => { state := stack }

end QueryLinker.Validation.Rules
