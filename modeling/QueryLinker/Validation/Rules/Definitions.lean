import QueryLinker.Validation.Rules.Arguments
import QueryLinker.Validation.Rules.Directives
import QueryLinker.Validation.Rules.Operations
import QueryLinker.Validation.Rules.Types
import QueryLinker.Validation.Rules.Values

/-!
This module contains the rules about documents that define a schema: what is defined has different
names, and extensions fit what they extend.
-/

namespace QueryLinker.Validation.Rules

open Graphql

inductive Entered where
  | schema (d : SchemaDefinition)
  | type (d : TypeDefinition)
  | directive (d : DirectiveDefinition)
  | other

def Entered.ofEvent (e : Event) : Entered :=
  match e.leaving, e.node with
  | false, .schemaDefinition d => .schema d
  | false, .schemaExtension d => .schema d
  | false, .typeDefinition d => .type d
  | false, .typeExtension d => .type d
  | false, .directiveDefinition d => .directive d
  | _, _ => .other

def loneSchemaDefinition : Rule :=
  .ofState 0 fun (count : Nat) e =>
    match e.leaving, e.node with
    | false, .schemaDefinition d =>
      { state := count + 1
        errors :=
          if 0 < count then [errorAt d.loc? "Must provide only one schema definition."] else [] }
    | _, _ => { state := count }

def noteRoots (seen : List (OperationKind × Option Loc)) :
    List RootDefinition → List (OperationKind × Option Loc) × List Graphql.Error
  | [] => (seen, [])
  | r :: rs =>
    match seen.lookup r.kind with
    | some first =>
      let (seen, errors) := noteRoots seen rs
      (seen, ⟨"There can be only one " ++ r.kind.text ++ " type in schema.", [first, r.loc?]⟩ ::
        errors)
    | none => noteRoots (seen ++ [(r.kind, r.loc?)]) rs

def uniqueOperationTypes : Rule :=
  .ofState ([] : List (OperationKind × Option Loc)) fun seen e =>
    match Entered.ofEvent e with
    | .schema d =>
      let (state, errors) := noteRoots seen d.roots
      { state, errors, skip := true }
    | _ => { state := seen }

def uniqueTypeNames : Rule :=
  .ofState ([] : List (String × Option Loc)) fun seen e =>
    match e.leaving, e.node with
    | false, .typeDefinition d =>
      let message (n : String) : String := "There can be only one type named " ++ quoteName n ++ "."
      let (state, errors) := noteName message seen d.name
      { state, errors, skip := true }
    | _, _ => { state := seen }

abbrev SeenParts := List (String × List (String × Option Loc))

def noteParts (message : String → String) (seen : SeenParts) (type : String) (names : List Name) :
    Reaction SeenParts :=
  let (now, errors) := noteNames message ((seen.lookup type).getD []) names
  { state := (type, now) :: seen, errors, skip := true }

def uniqueEnumValueNames : Rule :=
  .ofState ([] : SeenParts) fun seen e =>
    match Entered.ofEvent e with
    | .type d =>
      match d.body with
      | .enum values =>
        let type := d.name.value
        let message (n : String) : String :=
          "Enum value " ++ quoteName (type ++ "." ++ n) ++ " can only be defined once."
        noteParts message seen type (values.map (·.name))
      | _ => { state := seen }
    | _ => { state := seen }

def uniqueFieldDefinitionNames : Rule :=
  let note (seen : SeenParts) (type : String) (names : List Name) : Reaction SeenParts :=
    let message (n : String) : String :=
      "Field " ++ quoteName (type ++ "." ++ n) ++ " can only be defined once."
    noteParts message seen type names
  .ofState ([] : SeenParts) fun seen e =>
    match Entered.ofEvent e with
    | .type d =>
      match d.body with
      | .object _ fields => note seen d.name.value (fields.map (·.name))
      | .interface _ fields => note seen d.name.value (fields.map (·.name))
      | .inputObject fields => note seen d.name.value (fields.map (·.name))
      | _ => { state := seen }
    | _ => { state := seen }

def uniqueArgumentDefinitionNames : Rule :=
  let check (parent : String) (args : List InputValueDefinition) : List Graphql.Error :=
    (repeated (·.name.value) args).map fun (name, args) =>
      ⟨"Argument " ++ quoteName (parent ++ "(" ++ name ++ ":)") ++ " can only be defined once.",
        args.map (·.name.loc?)⟩
  let checkFields (type : String) (fields : List FieldDefinition) : Reaction Unit :=
    { state := ()
      errors := fields.flatMap fun f => check (type ++ "." ++ f.name.value) f.arguments
      skip := true }
  .ofState () fun _ e =>
    match Entered.ofEvent e with
    | .directive d =>
      { state := (), errors := check ("@" ++ d.name.value) d.arguments, skip := true }
    | .type d =>
      match d.body with
      | .object _ fields => checkFields d.name.value fields
      | .interface _ fields => checkFields d.name.value fields
      | _ => { state := () }
    | _ => { state := () }

def uniqueDirectiveNames : Rule :=
  .ofState ([] : List (String × Option Loc)) fun seen e =>
    match Entered.ofEvent e with
    | .directive d =>
      let message (n : String) : String :=
        "There can be only one directive named " ++ quoteName ("@" ++ n) ++ "."
      let (state, errors) := noteName message seen d.name
      { state, errors, skip := true }
    | _ => { state := seen }

def sameSort : TypeBody → TypeBody → Bool
  | .scalar, .scalar => true
  | .object _ _, .object _ _ => true
  | .interface _ _, .interface _ _ => true
  | .union _, .union _ => true
  | .enum _, .enum _ => true
  | .inputObject _, .inputObject _ => true
  | _, _ => false

def sortText : TypeBody → String
  | .scalar => "scalar"
  | .object _ _ => "object"
  | .interface _ _ => "interface"
  | .union _ => "union"
  | .enum _ => "enum"
  | .inputObject _ => "input object"

def possibleTypeExtensions (s : Subject) : Rule :=
  .ofTried fun e => do
    match e.node with
    | .typeExtension d =>
      let name := d.name.value
      match s.typeDefinitions.findRev? fun t => t.name.value == name with
      | some t =>
        if sameSort t.body d.body then return []
        return [⟨"Cannot extend non-" ++ sortText d.body ++ " type " ++ quoteName name ++ ".",
          [t.loc?, d.loc?]⟩]
      | none =>
        let question ← suggestion name (s.typeDefinitions.map (·.name.value))
        return [errorAt d.name.loc? ("Cannot extend type " ++ quoteName name ++
          " because it is not defined." ++ question)]
    | _ => return []

def definitionRules (s : Subject) : List Rule :=
  [loneSchemaDefinition, uniqueOperationTypes, uniqueTypeNames, uniqueEnumValueNames,
   uniqueFieldDefinitionNames, uniqueArgumentDefinitionNames, uniqueDirectiveNames,
   knownTypeNames s, knownDirectives s, uniqueDirectivesPerLocation s, possibleTypeExtensions s,
   knownArgumentNamesOnDirectives s, uniqueArgumentNames, uniqueInputFieldNames,
   providedRequiredArgumentsOnDirectives s]

end QueryLinker.Validation.Rules
