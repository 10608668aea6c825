import QueryLinker.Insertion
import QueryLinker.Validation.Subject

/-!
This module contains the rules about fields: they exist on their types, and they have selections
exactly if their types have fields.
-/

namespace QueryLinker.Validation.Rules

open Graphql

def scalarLeafs (s : Subject) : Rule :=
  .ofEntered fun e =>
    match e.node, e.types.type? with
    | .field head set, some type =>
      let name := head.name.value
      if s.schema.isBase (·.isLeaf) type then
        if set.isPresent then
          [errorAt set.loc? ("Field " ++ quoteName name ++
            " must not have a selection since type " ++ quoteName type.text ++
            " has no subfields.")]
        else []
      else if set.isPresent then []
      else
        [errorAt head.loc? ("Field " ++ quoteName name ++ " of type " ++ quoteName type.text ++
          " must have a selection of subfields. Did you mean " ++
          quoteName (name ++ " \x7b ... \x7d") ++ "?")]
    | _, _ => []

def typesWithField (s : Schema) (type field : String) : List String :=
  (s.possibleTypes type).flatMap fun object =>
    match s.type? object with
    | some t =>
      if (t.field? field).isSome then
        object :: t.body.interfaces.filter fun i =>
          (s.type? i).any fun t => (t.field? field).isSome
      else []
    | none => []

/--
Whether `a` is suggested before `b`: by number of uses, supertypes first, then by name. This is no
order: a type may come before its supertype by way of a third type.
-/
def suggestedBefore (s : Schema) (uses : List String) (a b : String) : Except Halt Bool := do
  let usesA := uses.count a
  let usesB := uses.count b
  if usesA != usesB then return usesB < usesA
  if s.isType (·.isInterface) a && s.isSubType a b then return true
  if s.isType (·.isInterface) b && s.isSubType b a then return false
  (Text.checkNatural [a, b]).mapError .number
  return (Text.naturalCompare a b).isLT

def suggestedTypes (s : Schema) (type field : String) : Except Halt (List String) :=
  if s.isType (·.isAbstract) type then
    let uses := typesWithField s type field
    Insertion.sort (suggestedBefore s uses) uses.eraseDups
  else .ok []

def fieldsOnCorrectType (s : Subject) : Rule :=
  .ofTried fun e => do
    match e.node, e.types.parentType?, e.types.field? with
    | .field head _, some type, none =>
      let name := head.name.value
      let types ← suggestedTypes s.schema type name
      let question ←
        if types.isEmpty then
          suggestion name (((s.schema.body? type).map (·.fields)).getD [] |>.map (·.name))
        else pure (Text.didYouMean types (some "to use an inline fragment on"))
      return [errorAt head.loc? ("Cannot query field " ++ quoteName name ++ " on type " ++
        quoteName type ++ "." ++ question)]
    | _, _, _ => return []

end QueryLinker.Validation.Rules
