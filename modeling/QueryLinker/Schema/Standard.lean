import QueryLinker.Schema.Basic

/-!
This module contains what every schema has: the standard scalars and directives, and the types that
describe a schema to its users.
-/

namespace QueryLinker.Schema

def standardScalars : List String :=
  ["String", "Int", "Float", "Boolean", "ID"]

private def plain (name : String) : TypeExpr :=
  .named name

private def required (name : String) : TypeExpr :=
  .nonNull (.named name)

private def listOf (name : String) : TypeExpr :=
  .list (required name)

private def output (name : String) (type : TypeExpr) : Field :=
  { name, type }

private def filtered (name : String) (type : TypeExpr) : Field :=
  { name, type,
    arguments := [{ name := "includeDeprecated", type := plain "Boolean", hasDefault := true }] }

def executableLocations : List String :=
  ["QUERY", "MUTATION", "SUBSCRIPTION", "FIELD", "FRAGMENT_DEFINITION", "FRAGMENT_SPREAD",
   "INLINE_FRAGMENT", "VARIABLE_DEFINITION"]

def systemLocations : List String :=
  ["SCHEMA", "SCALAR", "OBJECT", "FIELD_DEFINITION", "ARGUMENT_DEFINITION", "INTERFACE", "UNION",
   "ENUM", "ENUM_VALUE", "INPUT_OBJECT", "INPUT_FIELD_DEFINITION"]

def introspectionTypes : List TypeDecl :=
  [⟨"__Schema", .object []
     [output "description" (plain "String"),
      output "types" (.nonNull (listOf "__Type")),
      output "queryType" (required "__Type"),
      output "mutationType" (plain "__Type"),
      output "subscriptionType" (plain "__Type"),
      output "directives" (.nonNull (listOf "__Directive"))]⟩,
   ⟨"__Directive", .object []
     [output "name" (required "String"),
      output "description" (plain "String"),
      output "isRepeatable" (required "Boolean"),
      output "locations" (.nonNull (listOf "__DirectiveLocation")),
      filtered "args" (.nonNull (listOf "__InputValue"))]⟩,
   ⟨"__DirectiveLocation", .enum (executableLocations ++ systemLocations)⟩,
   ⟨"__Type", .object []
     [output "kind" (required "__TypeKind"),
      output "name" (plain "String"),
      output "description" (plain "String"),
      output "specifiedByURL" (plain "String"),
      filtered "fields" (listOf "__Field"),
      output "interfaces" (listOf "__Type"),
      output "possibleTypes" (listOf "__Type"),
      filtered "enumValues" (listOf "__EnumValue"),
      filtered "inputFields" (listOf "__InputValue"),
      output "ofType" (plain "__Type")]⟩,
   ⟨"__Field", .object []
     [output "name" (required "String"),
      output "description" (plain "String"),
      filtered "args" (.nonNull (listOf "__InputValue")),
      output "type" (required "__Type"),
      output "isDeprecated" (required "Boolean"),
      output "deprecationReason" (plain "String")]⟩,
   ⟨"__InputValue", .object []
     [output "name" (required "String"),
      output "description" (plain "String"),
      output "type" (required "__Type"),
      output "defaultValue" (plain "String"),
      output "isDeprecated" (required "Boolean"),
      output "deprecationReason" (plain "String")]⟩,
   ⟨"__EnumValue", .object []
     [output "name" (required "String"),
      output "description" (plain "String"),
      output "isDeprecated" (required "Boolean"),
      output "deprecationReason" (plain "String")]⟩,
   ⟨"__TypeKind", .enum
     ["SCALAR", "OBJECT", "INTERFACE", "UNION", "ENUM", "INPUT_OBJECT", "LIST", "NON_NULL"]⟩]

def isIntrospectionName (name : String) : Bool :=
  introspectionTypes.any (·.name == name)

def standardTypes : List TypeDecl :=
  standardScalars.map (fun name => ⟨name, .scalar⟩) ++ introspectionTypes

def standardType? (name : String) : Option TypeDecl :=
  standardTypes.find? (·.name == name)

private def condition : InputValue :=
  { name := "if", type := required "Boolean" }

private def selectionLocations : List String :=
  ["FIELD", "FRAGMENT_SPREAD", "INLINE_FRAGMENT"]

def includeDirective : Directive :=
  { name := "include", arguments := [condition], locations := selectionLocations }

def skipDirective : Directive :=
  { name := "skip", arguments := [condition], locations := selectionLocations }

def deprecatedDirective : Directive :=
  { name := "deprecated"
    arguments := [{ name := "reason", type := plain "String", hasDefault := true }]
    locations :=
      ["FIELD_DEFINITION", "ARGUMENT_DEFINITION", "INPUT_FIELD_DEFINITION", "ENUM_VALUE"] }

def specifiedByDirective : Directive :=
  { name := "specifiedBy", arguments := [{ name := "url", type := required "String" }]
    locations := ["SCALAR"] }

def standardDirectives : List Directive :=
  [includeDirective, skipDirective, deprecatedDirective, specifiedByDirective]

def schemaField : Field :=
  output "__schema" (required "__Schema")

def typeField : Field :=
  { name := "__type", type := plain "__Type"
    arguments := [{ name := "name", type := required "String" }] }

def typenameField : Field :=
  output "__typename" (required "String")

def fieldOn? (s : Schema) (parent name : String) : Option Field :=
  if name == "__schema" && s.query? == some parent then some schemaField
  else if name == "__type" && s.query? == some parent then some typeField
  else if name == "__typename" && s.isType (·.isComposite) parent then some typenameField
  else (s.type? parent).bind fun t => t.field? name

end QueryLinker.Schema
