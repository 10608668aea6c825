import QueryLinker.Validation.Subject

/-!
This module contains the rules about the types that a document names: they are known, fragments are
on types with fields, and variables have types of values that can be given.
-/

namespace QueryLinker.Validation.Rules

open Graphql

def standardNames : List String :=
  Schema.standardTypes.map (·.name)

def knownTypeNames (s : Subject) : Rule :=
  let schemaNames := if s.definesSchema then [] else s.schema.typeNames
  let known := schemaNames ++ s.typeDefinitions.map (·.name.value)
  .ofTried fun e => do
    match e.node with
    | .namedType t =>
      let name := t.name.value
      if known.contains name || (e.inSystem && standardNames.contains name) then return []
      let options := if e.inSystem then standardNames ++ known else known
      let question ← suggestion name options
      return [errorAt t.loc? ("Unknown type " ++ quoteName name ++ "." ++ question)]
    | _ => return []

def fragmentsOnCompositeTypes (s : Subject) : Rule :=
  let isOther (t : NamedType) : Bool :=
    (s.schema.body? t.name.value).any fun body => !body.isComposite
  .ofEntered fun e =>
    match e.node with
    | .inline head _ =>
      match head.typeCondition? with
      | some t =>
        if isOther t then
          [errorAt t.loc? ("Fragment cannot condition on non composite type " ++
            quoteName t.name.value ++ ".")]
        else []
      | none => []
    | .fragment f =>
      if isOther f.typeCondition then
        [errorAt f.typeCondition.loc? ("Fragment " ++ quoteName f.name.value ++
          " cannot condition on non composite type " ++ quoteName f.typeCondition.name.value ++
          ".")]
      else []
    | _ => []

def typeRefLoc? : TypeRef → Option Loc
  | .named t => t.loc?
  | .list _ loc? => loc?
  | .nonNull _ loc? => loc?

def variablesAreInputTypes (s : Subject) : Rule :=
  .ofEntered fun e =>
    match e.node with
    | .variableDefinition d =>
      match s.schema.ofRef? d.type with
      | some type =>
        if s.schema.isBase (·.isInput) type then []
        else
          [errorAt (typeRefLoc? d.type) ("Variable " ++ quoteName ("$" ++ d.var.name.value) ++
            " cannot be non-input type " ++ quoteName type.text ++ ".")]
      | none => []
    | _ => []

end QueryLinker.Validation.Rules
