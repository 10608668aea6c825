import QueryLinker.Validation.Subject

/-!
This module contains the rules about directives: they are known, stand where they may stand, and
stand there once unless they are repeatable.
-/

namespace QueryLinker.Validation.Rules

open Graphql

def placeOf : Node → Option String
  | .operation o =>
    some (match o.kind with
      | .query => "QUERY"
      | .mutation => "MUTATION"
      | .subscription => "SUBSCRIPTION")
  | .field _ _ => some "FIELD"
  | .spread _ => some "FRAGMENT_SPREAD"
  | .inline _ _ => some "INLINE_FRAGMENT"
  | .fragment _ => some "FRAGMENT_DEFINITION"
  | .variableDefinition _ => some "VARIABLE_DEFINITION"
  | .schemaDefinition _ => some "SCHEMA"
  | .schemaExtension _ => some "SCHEMA"
  | .typeDefinition d => placeOfType d.body
  | .typeExtension d => placeOfType d.body
  | .fieldDefinition _ => some "FIELD_DEFINITION"
  | .enumValueDefinition _ => some "ENUM_VALUE"
  | .inputValueDefinition _ inputField =>
    some (if inputField then "INPUT_FIELD_DEFINITION" else "ARGUMENT_DEFINITION")
  | _ => none
where
  placeOfType : TypeBody → Option String
    | .scalar => some "SCALAR"
    | .object _ _ => some "OBJECT"
    | .interface _ _ => some "INTERFACE"
    | .union _ => some "UNION"
    | .enum _ => some "ENUM"
    | .inputObject _ => some "INPUT_OBJECT"

def placeText (place : String) : String :=
  String.ofList (place.toList.map fun c => if c == '_' then ' ' else c.toLower)

def placesOf (s : Subject) (name : String) : List String :=
  match s.directiveDefinition? name with
  | some d => d.locations.map (·.value)
  | none =>
    match s.knownDirectives.findRev? (·.name == name) with
    | some d => d.locations
    | none => []

def knownDirectives (s : Subject) : Rule :=
  .ofEntered fun e =>
    match e.node with
    | .directive d =>
      let name := quoteName ("@" ++ d.name.value)
      match placesOf s d.name.value with
      | [] => [errorAt d.loc? ("Unknown directive " ++ name ++ ".")]
      | places =>
        match e.parent?.bind placeOf with
        | some place =>
          if places.contains place then []
          else
            [errorAt d.loc? ("Directive " ++ name ++ " may not be used on " ++ placeText place ++
              ".")]
        | none => []
    | _ => []

def directivesOn : Node → List Directive
  | .operation d => d.directives
  | .fragment d => d.directives
  | .variableDefinition d => d.directives
  | .field head _ => head.directives
  | .spread f => f.directives
  | .inline head _ => head.directives
  | .schemaDefinition d => d.directives
  | .typeDefinition d => d.directives
  | .schemaExtension d => d.directives
  | .typeExtension d => d.directives
  | .fieldDefinition d => d.directives
  | .inputValueDefinition d _ => d.directives
  | .enumValueDefinition d => d.directives
  | _ => []

def isUnique (s : Subject) (name : String) : Bool :=
  match s.directiveDefinition? name with
  | some d => !d.repeatable
  | none => (s.knownDirectives.findRev? (·.name == name)).any fun d => !d.repeatable

structure SeenDirectives where
  onSchema : List (String × Directive) := []
  onTypes : List (String × List (String × Directive)) := []

def noteDirectives (s : Subject) (seen : List (String × Directive)) :
    List Directive → List (String × Directive) × List Graphql.Error
  | [] => (seen, [])
  | d :: ds =>
    let name := d.name.value
    if !isUnique s name then noteDirectives s seen ds
    else
      match seen.lookup name with
      | some first =>
        let (seen, errors) := noteDirectives s seen ds
        (seen, ⟨"The directive " ++ quoteName ("@" ++ name) ++
          " can only be used once at this location.", [first.loc?, d.loc?]⟩ :: errors)
      | none => noteDirectives s ((name, d) :: seen) ds

def uniqueDirectivesPerLocation (s : Subject) : Rule :=
  let ofType (seen : SeenDirectives) (d : TypeDefinition) : Reaction SeenDirectives :=
    let before := (seen.onTypes.lookup d.name.value).getD []
    let (now, errors) := noteDirectives s before d.directives
    { state := { seen with onTypes := (d.name.value, now) :: seen.onTypes }, errors }
  let ofSchema (seen : SeenDirectives) (d : SchemaDefinition) : Reaction SeenDirectives :=
    let (now, errors) := noteDirectives s seen.onSchema d.directives
    { state := { seen with onSchema := now }, errors }
  .ofState ({} : SeenDirectives) fun seen e =>
    match e.leaving, e.node with
    | true, _ => { state := seen }
    | false, .schemaDefinition d => ofSchema seen d
    | false, .schemaExtension d => ofSchema seen d
    | false, .typeDefinition d => ofType seen d
    | false, .typeExtension d => ofType seen d
    | false, node =>
      { state := seen, errors := (noteDirectives s [] (directivesOn node)).2 }

end QueryLinker.Validation.Rules
