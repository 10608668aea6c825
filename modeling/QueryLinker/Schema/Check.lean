import QueryLinker.Schema.Standard
import QueryLinker.Text.Quoted

/-!
This module contains the check of a schema as a whole: there are roots, names are not reserved,
types have fields, interfaces are implemented, and no input object needs itself.
-/

namespace QueryLinker.Schema

def nameFlaws (name : String) : List String :=
  if name.startsWith "__" then
    ["Name " ++ Text.quoted name ++
      " must not begin with '__', which is reserved by GraphQL introspection."]
  else []

def rootFlaws (s : Schema) (title : String) (required : Bool) (root? : Option String) :
    List String :=
  match root? with
  | none => if required then [title ++ " root type must be provided."] else []
  | some name =>
    if s.isType (·.isObject) name then []
    else
      [title ++ " root type must be Object type" ++ (if required then "" else " if provided") ++
        ", it cannot be " ++ name ++ "."]

def argumentFlaws (s : Schema) (place : String → String) (args : List InputValue) : List String :=
  args.flatMap fun a =>
    nameFlaws a.name ++
      (if s.isBase (·.isInput) a.type then []
       else
        ["The type of " ++ place a.name ++ " must be Input Type but got: " ++ a.type.text ++
          "."]) ++
      (if a.isRequired && a.deprecated then
        ["Required argument " ++ place a.name ++ " cannot be deprecated."]
       else [])

def directiveFlaws (s : Schema) (d : Directive) : List String :=
  nameFlaws d.name ++
    argumentFlaws s (fun a => "@" ++ d.name ++ "(" ++ a ++ ":)") d.arguments

def fieldFlaws (s : Schema) (type : String) (fields : List Field) : List String :=
  (if fields.isEmpty then ["Type " ++ type ++ " must define one or more fields."] else []) ++
    fields.flatMap fun f =>
      nameFlaws f.name ++
        (if s.isBase (·.isOutput) f.type then []
         else
          ["The type of " ++ type ++ "." ++ f.name ++ " must be Output Type but got: " ++
            f.type.text ++ "."]) ++
        argumentFlaws s (fun a => type ++ "." ++ f.name ++ "(" ++ a ++ ":)") f.arguments

def ancestorFlaws (type : String) (interfaces : List String) (interface : TypeDecl) :
    List String :=
  (interface.body.interfaces.filter fun i => !interfaces.contains i).map fun i =>
    if i == type then
      "Type " ++ type ++ " cannot implement " ++ interface.name ++
        " because it would create a circular reference."
    else
      "Type " ++ type ++ " must implement " ++ i ++ " because it is implemented by " ++
        interface.name ++ "."

def implementedArgumentFlaws (type interface : String) (declared expected : Field) :
    List String :=
  let name := expected.name
  (expected.arguments.flatMap fun a =>
    match findInput? declared.arguments a.name with
    | none =>
      ["Interface field argument " ++ interface ++ "." ++ name ++ "(" ++ a.name ++
        ":) expected but " ++ type ++ "." ++ name ++ " does not provide it."]
    | some b =>
      if a.type == b.type then []
      else
        ["Interface field argument " ++ interface ++ "." ++ name ++ "(" ++ a.name ++
          ":) expects type " ++ a.type.text ++ " but " ++ type ++ "." ++ name ++ "(" ++ a.name ++
          ":) is type " ++ b.type.text ++ "."]) ++
  declared.arguments.flatMap fun b =>
    if (findInput? expected.arguments b.name).isNone && b.isRequired then
      ["Object field " ++ type ++ "." ++ name ++ " includes required argument " ++ b.name ++
        " that is missing from the Interface field " ++ interface ++ "." ++ name ++ "."]
    else []

def implementationFlaws (s : Schema) (type : TypeDecl) (interface : TypeDecl) : List String :=
  interface.body.fields.flatMap fun expected =>
    let name := expected.name
    match type.field? name with
    | none =>
      ["Interface field " ++ interface.name ++ "." ++ name ++ " expected but " ++ type.name ++
        " does not provide it."]
    | some declared =>
      (if s.isSubTypeExpr declared.type expected.type then []
       else
        ["Interface field " ++ interface.name ++ "." ++ name ++ " expects type " ++
          expected.type.text ++ " but " ++ type.name ++ "." ++ name ++ " is type " ++
          declared.type.text ++ "."]) ++
      implementedArgumentFlaws type.name interface.name declared expected

def interfaceFlaws (s : Schema) (type : TypeDecl) (before : List String) (i : String) :
    List String :=
  match s.type? i with
  | none => []
  | some interface =>
    if !interface.body.isInterface then
      ["Type " ++ type.name ++ " must only implement Interface types, it cannot implement " ++ i ++
        "."]
    else
      (if i == type.name then
        ["Type " ++ type.name ++
          " cannot implement itself because it would create a circular reference."]
      else []) ++
      (if before.contains i then ["Type " ++ type.name ++ " can only implement " ++ i ++ " once."]
      else
        ancestorFlaws type.name type.body.interfaces interface ++
          implementationFlaws s type interface)

def interfacesFlaws (s : Schema) (type : TypeDecl) (before : List String) :
    List String → List String
  | [] => []
  | i :: is => interfaceFlaws s type before i ++ interfacesFlaws s type (i :: before) is

def memberFlaws (s : Schema) (union : String) (before : List String) : List String → List String
  | [] => []
  | m :: ms =>
    let flaws :=
      if !s.isType (·.isObject) m then
        ["Union type " ++ union ++ " can only include Object types, it cannot include " ++ m ++ "."]
      else if before.contains m then
        ["Union type " ++ union ++ " can only include type " ++ m ++ " once."]
      else []
    flaws ++ memberFlaws s union (m :: before) ms

def inputFieldFlaws (s : Schema) (type : String) (fields : List InputValue) : List String :=
  (if fields.isEmpty then ["Input Object type " ++ type ++ " must define one or more fields."]
   else []) ++
    fields.flatMap fun f =>
      nameFlaws f.name ++
        (if s.isBase (·.isInput) f.type then []
         else
          ["The type of " ++ type ++ "." ++ f.name ++ " must be Input Type but got: " ++
            f.type.text ++ "."]) ++
        (if f.isRequired && f.deprecated then
          ["Required input field " ++ type ++ "." ++ f.name ++ " cannot be deprecated."]
         else [])

def neededObjects (s : Schema) (type : String) : List (String × String) :=
  match s.body? type with
  | some (.inputObject fields) =>
    fields.filterMap fun f =>
      match f.type with
      | .nonNull (.named name) =>
        if s.isType (·.isInputObject) name then some (f.name, name) else none
      | _ => none
  | _ => []

structure NeedSearch where
  visited : List String := []
  flaws : List String := []

def needFlaw (type : String) (way : List String) : String :=
  "Cannot reference Input Object '" ++ type ++
    "' within itself through a series of non-null fields: '" ++ ".".intercalate way ++ "'."

mutual

/--
Search the input objects that a type needs. The way to it is given by the types on it, each with the
field that leaves it, the last one first. No way is longer than the number of types, `fuel`.
-/
def searchNeeds (s : Schema) (fuel : Nat) (way : List (String × String)) (search : NeedSearch)
    (type : String) : NeedSearch :=
  match fuel with
  | 0 => search
  | fuel + 1 =>
    if search.visited.contains type then search
    else
      searchFields s fuel way type { search with visited := type :: search.visited }
        (neededObjects s type)

def searchFields (s : Schema) (fuel : Nat) (way : List (String × String)) (type : String)
    (search : NeedSearch) : List (String × String) → NeedSearch
  | [] => search
  | (field, target) :: fields =>
    let way' := (type, field) :: way
    let search :=
      if way'.any fun step => step.1 == target then
        let back := (way'.takeWhile fun step => step.1 != target).map (·.2)
        let start := ((way'.dropWhile fun step => step.1 != target).take 1).map (·.2)
        { search with flaws := search.flaws ++ [needFlaw target (start ++ back.reverse)] }
      else searchNeeds s fuel way' search target
    searchFields s fuel way type search fields

end

def typeFlaws (s : Schema) (t : TypeDecl) : List String :=
  (if isIntrospectionName t.name then [] else nameFlaws t.name) ++
    match t.body with
    | .scalar => []
    | .object interfaces fields => fieldFlaws s t.name fields ++ interfacesFlaws s t [] interfaces
    | .interface interfaces fields =>
      fieldFlaws s t.name fields ++ interfacesFlaws s t [] interfaces
    | .union members =>
      (if members.isEmpty then
        ["Union type " ++ t.name ++ " must define one or more member types."]
       else []) ++ memberFlaws s t.name [] members
    | .enum values =>
      (if values.isEmpty then ["Enum type " ++ t.name ++ " must define one or more values."]
       else []) ++ values.flatMap nameFlaws
    | .inputObject fields => inputFieldFlaws s t.name fields

def typesFlaws (s : Schema) (visited : List String) : List TypeDecl → List String
  | [] => []
  | t :: ts =>
    let search : NeedSearch :=
      if t.body.isInputObject then searchNeeds s (s.types.length + 1) [] { visited } t.name
      else { visited }
    typeFlaws s t ++ search.flaws ++ typesFlaws s search.visited ts

def flaws (s : Schema) : List String :=
  rootFlaws s "Query" true s.query? ++ rootFlaws s "Mutation" false s.mutation? ++
    rootFlaws s "Subscription" false s.subscription? ++
    s.directives.flatMap (directiveFlaws s) ++ typesFlaws s [] s.types

end QueryLinker.Schema
