import QueryLinker.Schema.Standard

/-!
This module contains the traversal of documents. It is a list of events: every node is entered, then
come the events of what is inside it, then it is left. Each event knows the types that hold at its
node according to the schema.
-/

namespace QueryLinker.Validation

open Graphql

inductive Node where
  | document (d : Document)
  | operation (d : OperationDefinition)
  | fragment (d : FragmentDefinition)
  | variableDefinition (d : VariableDefinition)
  | selectionSet (set : SelectionSet)
  | field (head : FieldHead) (set : SelectionSet)
  | spread (s : FragmentSpread)
  | inline (head : InlineHead) (set : SelectionSet)
  | argument (a : Argument)
  | directive (d : Directive)
  | value (v : Value)
  | objectField (f : ObjectField)
  | namedType (t : NamedType)
  | schemaDefinition (d : SchemaDefinition)
  | typeDefinition (d : TypeDefinition)
  | directiveDefinition (d : DirectiveDefinition)
  | schemaExtension (d : SchemaDefinition)
  | typeExtension (d : TypeDefinition)
  | rootDefinition (d : RootDefinition)
  | fieldDefinition (d : FieldDefinition)
  | inputValueDefinition (d : InputValueDefinition) (inputField : Bool)
  | enumValueDefinition (d : EnumValueDefinition)

structure TypeContext where
  parentType? : Option String := none
  type? : Option Schema.TypeExpr := none
  field? : Option Schema.Field := none
  directive? : Option Schema.Directive := none
  argument? : Option Schema.InputValue := none
  inputTypes : List (Option Schema.TypeExpr) := []
  hasDefault : Bool := false

namespace TypeContext

def inputType? (c : TypeContext) : Option Schema.TypeExpr :=
  c.inputTypes.headD none

def parentInputType? (c : TypeContext) : Option Schema.TypeExpr :=
  c.inputTypes.tail.headD none

def ofSort (s : Schema) (sort : Schema.TypeBody → Bool) (type? : Option Schema.TypeExpr) :
    Option Schema.TypeExpr :=
  type?.filter (s.isBase sort)

def enterSelectionSet (s : Schema) (c : TypeContext) : TypeContext :=
  { c with parentType? := (c.type?.map (·.baseName)).filter (s.isType (·.isComposite)) }

def enterField (s : Schema) (head : FieldHead) (c : TypeContext) : TypeContext :=
  let field? := c.parentType?.bind fun parent => s.fieldOn? parent head.name.value
  { c with field?, type? := ofSort s (·.isOutput) (field?.map (·.type)) }

def enterDirective (s : Schema) (d : Directive) (c : TypeContext) : TypeContext :=
  { c with directive? := s.directive? d.name.value }

def enterOperation (s : Schema) (d : OperationDefinition) (c : TypeContext) : TypeContext :=
  { c with type? := ((s.root? d.kind).filter (s.isType (·.isObject))).map .named }

def enterFragment (s : Schema) (condition? : Option NamedType) (c : TypeContext) : TypeContext :=
  let type? :=
    match condition? with
    | some t => s.ofRef? (.named t)
    | none => c.type?.map fun t => .named t.baseName
  { c with type? := ofSort s (·.isOutput) type? }

def pushInput (type? : Option Schema.TypeExpr) (hasDefault : Bool) (c : TypeContext) :
    TypeContext :=
  { c with inputTypes := type? :: c.inputTypes, hasDefault }

def enterVariableDefinition (s : Schema) (d : VariableDefinition) (c : TypeContext) :
    TypeContext :=
  { c with inputTypes := ofSort s (·.isInput) (s.ofRef? d.type) :: c.inputTypes }

def enterArgument (s : Schema) (a : Argument) (c : TypeContext) : TypeContext :=
  let declared? : Option (List Schema.InputValue) :=
    match c.directive? with
    | some d => some d.arguments
    | none => c.field?.map fun f => f.arguments
  let argument? := declared?.bind fun args => Schema.findInput? args a.name.value
  { c.pushInput (ofSort s (·.isInput) (argument?.map (·.type))) (argument?.any (·.hasDefault)) with
    argument? }

def enterList (s : Schema) (c : TypeContext) : TypeContext :=
  let item? := c.inputType?.map fun t =>
    match t.nullable with
    | .list item => item
    | t => t
  c.pushInput (ofSort s (·.isInput) item?) false

def enterObjectField (s : Schema) (f : ObjectField) (c : TypeContext) : TypeContext :=
  let declared? :=
    match c.inputType?.bind fun t => s.body? t.baseName with
    | some (.inputObject fields) => Schema.findInput? fields f.name.value
    | _ => none
  c.pushInput (ofSort s (·.isInput) (declared?.map (·.type))) (declared?.any (·.hasDefault))

end TypeContext

structure Event where
  node : Node
  leaving : Bool := false
  parent? : Option Node := none
  inSystem : Bool := false
  types : TypeContext := {}

namespace Event

def around (e : Event) (inner : List Event) : List Event :=
  e :: (inner ++ [{ e with leaving := true }])

def inside (e : Event) (node : Node) (types : TypeContext) : Event :=
  { e with node, parent? := some e.node, types }

end Event

mutual

def valueEvents (s : Schema) (e : Event) : Value → List Event
  | .list items loc? =>
    let e := e.inside (.value (.list items loc?)) (e.types.enterList s)
    e.around (itemEvents s e items)
  | .object fields loc? =>
    let e := e.inside (.value (.object fields loc?)) e.types
    e.around (objectFieldsEvents s e fields)
  | v => (e.inside (.value v) e.types).around []
termination_by structural v => v

def itemEvents (s : Schema) (e : Event) : List Value → List Event
  | [] => []
  | v :: vs => valueEvents s e v ++ itemEvents s e vs
termination_by structural vs => vs

def objectFieldsEvents (s : Schema) (e : Event) : List ObjectField → List Event
  | [] => []
  | f :: fs => objectFieldEvents s e f ++ objectFieldsEvents s e fs
termination_by structural fs => fs

def objectFieldEvents (s : Schema) (e : Event) : ObjectField → List Event
  | .mk name v loc? =>
    let field : ObjectField := .mk name v loc?
    let e := e.inside (.objectField field) (e.types.enterObjectField s field)
    e.around (valueEvents s e v)
termination_by structural f => f

end

def argumentEvents (s : Schema) (e : Event) (a : Argument) : List Event :=
  let e := e.inside (.argument a) (e.types.enterArgument s a)
  e.around (valueEvents s e a.value)

def directiveEvents (s : Schema) (e : Event) (d : Directive) : List Event :=
  let e := e.inside (.directive d) (e.types.enterDirective s d)
  e.around (d.arguments.flatMap (argumentEvents s e))

def directivesEvents (s : Schema) (e : Event) (ds : List Directive) : List Event :=
  ds.flatMap (directiveEvents s e)

def namedTypeEvents (e : Event) (t : NamedType) : List Event :=
  (e.inside (.namedType t) e.types).around []

def typeRefEvents (e : Event) : TypeRef → List Event
  | .named t => namedTypeEvents e t
  | .list item _ => typeRefEvents e item
  | .nonNull type _ => typeRefEvents e type

def variableDefinitionEvents (s : Schema) (e : Event) (d : VariableDefinition) : List Event :=
  let e := e.inside (.variableDefinition d) (e.types.enterVariableDefinition s d)
  e.around
    (typeRefEvents e d.type ++ (d.default?.toList.flatMap (valueEvents s e)) ++
      directivesEvents s e d.directives)

mutual

def selectionEvents (s : Schema) (e : Event) : Selection → List Event
  | .field head set =>
    let e := e.inside (.field head set) (e.types.enterField s head)
    e.around
      (head.arguments.flatMap (argumentEvents s e) ++ directivesEvents s e head.directives ++
        selectionSetEvents s e set)
  | .spread f =>
    let e := e.inside (.spread f) e.types
    e.around (directivesEvents s e f.directives)
  | .inline head set =>
    let e := e.inside (.inline head set) (e.types.enterFragment s head.typeCondition?)
    e.around
      (head.typeCondition?.toList.flatMap (namedTypeEvents e) ++
        directivesEvents s e head.directives ++ selectionSetEvents s e set)
termination_by structural x => x

def selectionsEvents (s : Schema) (e : Event) : List Selection → List Event
  | [] => []
  | x :: xs => selectionEvents s e x ++ selectionsEvents s e xs
termination_by structural xs => xs

def selectionSetEvents (s : Schema) (e : Event) : SelectionSet → List Event
  | .absent => []
  | .braces selections loc? =>
    let e := e.inside (.selectionSet (.braces selections loc?)) (e.types.enterSelectionSet s)
    e.around (selectionsEvents s e selections)
termination_by structural set => set

end

def operationEvents (s : Schema) (e : Event) (d : OperationDefinition) : List Event :=
  let e := e.inside (.operation d) (e.types.enterOperation s d)
  e.around
    (d.variableDefinitions.flatMap (variableDefinitionEvents s e) ++
      directivesEvents s e d.directives ++ selectionSetEvents s e d.selectionSet)

def fragmentEvents (s : Schema) (e : Event) (d : FragmentDefinition) : List Event :=
  let e := e.inside (.fragment d) (e.types.enterFragment s (some d.typeCondition))
  e.around
    (namedTypeEvents e d.typeCondition ++ directivesEvents s e d.directives ++
      selectionSetEvents s e d.selectionSet)

def inputValueEvents (s : Schema) (e : Event) (inputField : Bool) (d : InputValueDefinition) :
    List Event :=
  let e := e.inside (.inputValueDefinition d inputField) e.types
  e.around
    (typeRefEvents e d.type ++ (d.default?.toList.flatMap (valueEvents s e)) ++
      directivesEvents s e d.directives)

def fieldDefinitionEvents (s : Schema) (e : Event) (d : FieldDefinition) : List Event :=
  let e := e.inside (.fieldDefinition d) e.types
  e.around
    (d.arguments.flatMap (inputValueEvents s e false) ++ typeRefEvents e d.type ++
      directivesEvents s e d.directives)

def enumValueEvents (s : Schema) (e : Event) (d : EnumValueDefinition) : List Event :=
  let e := e.inside (.enumValueDefinition d) e.types
  e.around (directivesEvents s e d.directives)

def rootDefinitionEvents (e : Event) (d : RootDefinition) : List Event :=
  let e := e.inside (.rootDefinition d) e.types
  e.around (namedTypeEvents e d.type)

def typeDefinitionEvents (s : Schema) (e : Event) (extension : Bool) (d : TypeDefinition) :
    List Event :=
  let ds := directivesEvents s e d.directives
  match d.body with
  | .scalar => ds
  | .object interfaces fields =>
    interfaces.flatMap (namedTypeEvents e) ++ ds ++ fields.flatMap (fieldDefinitionEvents s e)
  | .interface interfaces fields =>
    interfaces.flatMap (namedTypeEvents e) ++ ds ++ fields.flatMap (fieldDefinitionEvents s e)
  | .union members => ds ++ members.flatMap (namedTypeEvents e)
  | .enum values => ds ++ values.flatMap (enumValueEvents s e)
  | .inputObject fields => ds ++ fields.flatMap (inputValueEvents s e (!extension))

def definitionEvents (s : Schema) (e : Event) : Definition → List Event
  | .operation d => operationEvents s e d
  | .fragment d => fragmentEvents s e d
  | .schema d =>
    let e := { e.inside (.schemaDefinition d) e.types with inSystem := true }
    e.around (directivesEvents s e d.directives ++ d.roots.flatMap (rootDefinitionEvents e))
  | .type d =>
    let e := { e.inside (.typeDefinition d) e.types with inSystem := true }
    e.around (typeDefinitionEvents s e false d)
  | .directive d =>
    let e := { e.inside (.directiveDefinition d) e.types with inSystem := true }
    e.around (d.arguments.flatMap (inputValueEvents s e false))
  | .schemaExtension d =>
    let e := { e.inside (.schemaExtension d) e.types with inSystem := true }
    e.around (directivesEvents s e d.directives ++ d.roots.flatMap (rootDefinitionEvents e))
  | .typeExtension d =>
    let e := { e.inside (.typeExtension d) e.types with inSystem := true }
    e.around (typeDefinitionEvents s e true d)

def events (s : Schema) (d : Document) : List Event :=
  let e : Event := { node := .document d }
  e.around (d.definitions.flatMap (definitionEvents s e))

end QueryLinker.Validation
