import QueryLinker.Schema.Failure
import QueryLinker.Schema.Standard
import QueryLinker.Text.Quoted

/-!
This module contains drafts of schemas, in which parts of types may have failed, and how a schema is
put together from a draft: the first failure counts, and the standard types that are referred to are
added behind the first type that needs them.
-/

namespace QueryLinker.Schema

/--
The parts of a type, each as far as it could be worked out. A failure of fields names the type
already, while one of interfaces or members does not.
-/
inductive DraftBody where
  | scalar
  | object (interfaces : Except Failure (List String)) (fields : Except Failure (List Field))
  | interface (interfaces : Except Failure (List String)) (fields : Except Failure (List Field))
  | union (members : Except Failure (List String))
  | enum (values : List String)
  | inputObject (fields : Except Failure (List InputValue))

namespace DraftBody

def ofBody : TypeBody → DraftBody
  | .scalar => .scalar
  | .object interfaces fields => .object (.ok interfaces) (.ok fields)
  | .interface interfaces fields => .interface (.ok interfaces) (.ok fields)
  | .union members => .union (.ok members)
  | .enum values => .enum values
  | .inputObject fields => .inputObject (.ok fields)

def outline : DraftBody → TypeBody
  | .scalar => .scalar
  | .object _ _ => .object [] []
  | .interface _ _ => .interface [] []
  | .union _ => .union []
  | .enum values => .enum values
  | .inputObject _ => .inputObject []

end DraftBody

structure TypeDraft where
  name : String
  body : DraftBody

structure Draft where
  types : List TypeDraft
  directives : List Directive
  query? : Option String := none
  mutation? : Option String := none
  subscription? : Option String := none

namespace Draft

def type? (d : Draft) (name : String) : Option TypeDraft :=
  d.types.find? (·.name == name)

def isSort (d : Draft) (sort : TypeBody → Bool) (name : String) : Bool :=
  match d.type? name with
  | some t => sort t.body.outline
  | none => (standardType? name).any fun t => sort t.body

def checkSort (d : Draft) (type part sort : String) (holds : TypeBody → Bool)
    (names : List String) : Except Failure (List String) :=
  if names.all (d.isSort holds) then .ok names
  else
    .error (.invalid (type ++ " " ++ part ++ " must be specified as a collection of GraphQL" ++
      sort ++ "Type instances."))

def partOf {α : Type} (type part : String) (r : Except Failure α) : Except Failure α :=
  r.mapError (Failure.within type part)

def finishInterfaces (d : Draft) (type : String) (r : Except Failure (List String)) :
    Except Failure (List String) := do
  d.checkSort type "interfaces" "Interface" (·.isInterface) (← partOf type "interfaces" r)

def finishType (d : Draft) (t : TypeDraft) : Except Failure TypeDecl :=
  match t.body with
  | .scalar => return ⟨t.name, .scalar⟩
  | .object interfaces fields => do
    let interfaces ← d.finishInterfaces t.name interfaces
    return ⟨t.name, .object interfaces (← fields)⟩
  | .interface interfaces fields => do
    let interfaces ← d.finishInterfaces t.name interfaces
    return ⟨t.name, .interface interfaces (← fields)⟩
  | .union members => do
    let members ← partOf t.name "types" members
    return ⟨t.name, .union (← d.checkSort t.name "types" "Object" (·.isObject) members)⟩
  | .enum values => return ⟨t.name, .enum values⟩
  | .inputObject fields => return ⟨t.name, .inputObject (← fields)⟩

end Draft

namespace TypeBody

def references : TypeBody → List String
  | .scalar => []
  | .object interfaces fields => interfaces ++ fields.flatMap ofField
  | .interface interfaces fields => interfaces ++ fields.flatMap ofField
  | .union members => members
  | .enum _ => []
  | .inputObject fields => fields.map (·.type.baseName)
where
  ofField (f : Field) : List String :=
    f.type.baseName :: f.arguments.map (·.type.baseName)

end TypeBody

/--
Add a standard type and those that it refers to, unless it is given elsewhere or there already.
Every step adds one, so their number bounds the depth.
-/
def addStandard (given : List String) : Nat → List TypeDecl → String → List TypeDecl
  | 0, found, _ => found
  | fuel + 1, found, name =>
    if given.contains name || found.any (·.name == name) then found
    else
      match standardType? name with
      | none => found
      | some t => t.body.references.foldl (addStandard given fuel) (found ++ [t])

def addStandards (given : List String) (found : List TypeDecl) (names : List String) :
    List TypeDecl :=
  names.foldl (addStandard given (standardTypes.length + 1)) found

namespace Draft

def finishTypes (d : Draft) : Except Failure (List TypeDecl) :=
  let given := d.types.map (·.name)
  d.types.foldlM
    (fun found t => do
      let t ← d.finishType t
      return addStandards given (found ++ [t]) t.body.references)
    []

def finish (d : Draft) : Except Failure Schema := do
  let found ← d.finishTypes
  let later :=
    d.query?.toList ++ d.mutation?.toList ++ d.subscription?.toList ++
      (d.directives.flatMap fun r => r.arguments.map (·.type.baseName)) ++ ["__Schema"]
  return { types := addStandards (d.types.map (·.name)) found later, directives := d.directives
           query? := d.query?, mutation? := d.mutation?, subscription? := d.subscription? }

end Draft

end QueryLinker.Schema
