import QueryLinker.Schema.Draft
import QueryLinker.Schema.Literal
import QueryLinker.Validation.Rules.Definitions

/-!
This module contains how a schema is built from a text of definitions. The text is checked against
the rules for definitions; then extensions are added to what they extend, and the types are put
together.
-/

namespace QueryLinker.Schema

open Graphql

structure Definitions where
  types : List TypeDefinition := []
  typeExtensions : List TypeDefinition := []
  directives : List DirectiveDefinition := []
  schema? : Option SchemaDefinition := none
  schemaExtensions : List SchemaDefinition := []

namespace Definitions

def add (ds : Definitions) : Definition → Definitions
  | .type d => { ds with types := ds.types ++ [d] }
  | .typeExtension d => { ds with typeExtensions := ds.typeExtensions ++ [d] }
  | .directive d => { ds with directives := ds.directives ++ [d] }
  | .schema d => { ds with schema? := some d }
  | .schemaExtension d => { ds with schemaExtensions := ds.schemaExtensions ++ [d] }
  | .operation _ => ds
  | .fragment _ => ds

def ofDocument (d : Document) : Definitions :=
  d.definitions.foldl add {}

def isEmpty (ds : Definitions) : Bool :=
  ds.types.isEmpty && ds.typeExtensions.isEmpty && ds.directives.isEmpty && ds.schema?.isNone &&
    ds.schemaExtensions.isEmpty

end Definitions

def extendBody : Graphql.TypeBody → Graphql.TypeBody → Graphql.TypeBody
  | .object is fs, .object is' fs' => .object (is ++ is') (fs ++ fs')
  | .interface is fs, .interface is' fs' => .interface (is ++ is') (fs ++ fs')
  | .union ms, .union ms' => .union (ms ++ ms')
  | .enum vs, .enum vs' => .enum (vs ++ vs')
  | .inputObject fs, .inputObject fs' => .inputObject (fs ++ fs')
  | body, _ => body

def Definitions.bodies (ds : Definitions) : List (TypeDefinition × Graphql.TypeBody) :=
  ds.types.map fun d =>
    let extensions := ds.typeExtensions.filter fun e => e.name.value == d.name.value
    (d, extensions.foldl (fun body e => extendBody body e.body) d.body)

def standardLiteral? (name : String) : Option LiteralType :=
  (standardType? name).map fun t => .ofBody t.body

def standardLiteral (name : String) : Except Failure LiteralType :=
  .ok ((standardLiteral? name).getD .output)

/--
What is given for an argument of a directive that stands at some place; none if the directive does
not stand there or the argument is left out. What is given has to be a value of the argument's type.
-/
def directiveArgument? (directive : Directive) (argument : InputValue)
    (directives : List Graphql.Directive) : Except Failure (Option Value) := do
  let fail (loc? : Option Loc) (message : String) : Except Failure (Option Value) :=
    .error (.broken ⟨"Argument '" ++ argument.name ++ "' " ++ message, [loc?]⟩)
  match directives.find? fun d => d.name.value == directive.name with
  | none => return none
  | some d =>
    match d.arguments.findRev? fun a => a.name.value == argument.name with
    | none =>
      if argument.isRequired then
        fail d.loc? ("of required type '" ++ argument.type.text ++ "' was not provided.")
      else return none
    | some a =>
      if a.value.isNull && argument.type.isNonNull then
        fail a.value.loc? ("of non-null type '" ++ argument.type.text ++ "' must not be null.")
      else if ← accepts standardLiteral maxLiteralDepth argument.type a.value then
        return some a.value
      else fail a.value.loc? ("has invalid value " ++ Printer.value a.value ++ ".")

def isDeprecated (directives : List Graphql.Directive) : Except Failure Bool := do
  let stands := directives.any fun d => d.name.value == deprecatedDirective.name
  let given ← deprecatedDirective.arguments.mapM fun a =>
    directiveArgument? deprecatedDirective a directives
  -- A reason that is null takes it back.
  return stands && !given.any fun v? => v?.any (·.isNull)

def checkSpecifiedBy (directives : List Graphql.Directive) : Except Failure Unit := do
  let _ ← specifiedByDirective.arguments.mapM fun a =>
    directiveArgument? specifiedByDirective a directives

structure Scope where
  bodies : List (TypeDefinition × Graphql.TypeBody)

namespace Scope

def body? (s : Scope) (name : String) : Option Graphql.TypeBody :=
  (s.bodies.find? fun (d, _) => d.name.value == name).map (·.2)

def isInput (s : Scope) (name : String) : Bool :=
  match standardType? name, s.body? name with
  | some t, _ => t.body.isInput
  | none, some .scalar => true
  | none, some (.enum _) => true
  | none, some (.inputObject _) => true
  | _, _ => false

def isOutput (s : Scope) (name : String) : Bool :=
  match s.body? name with
  | some (.inputObject _) => (standardType? name).isSome
  | _ => true

def inputValue (s : Scope) (typeOf : String → Except Failure LiteralType) (notInput : String)
    (d : InputValueDefinition) : Except Failure InputValue := do
  let type := TypeExpr.ofRef d.type
  let hasDefault ← isDefault typeOf type d.default?
  let deprecated ← isDeprecated d.directives
  if !s.isInput type.baseName then throw (.invalid notInput)
  return { name := d.name.value, type, hasDefault, deprecated }

def inputFields (s : Scope) (typeOf : String → Except Failure LiteralType) (type : String)
    (fields : List InputValueDefinition) : Except Failure (List InputValue) :=
  Draft.partOf type "fields"
    (fields.mapM (s.inputValue typeOf "Input field type must be a GraphQL input type."))

/--
The literals of the types in scope. Defaults of input fields are literals in turn: a chain of them
that is longer than the number of types, which bounds `fuel`, has no end.
-/
def literalType (s : Scope) (fuel : Nat) (name : String) : Except Failure LiteralType :=
  match fuel with
  | 0 => .error (.invalid "maximum recursion depth exceeded")
  | fuel + 1 =>
    match standardLiteral? name, s.body? name with
    | some type, _ => .ok type
    | none, some .scalar => .ok .scalar
    | none, some (.enum values) => .ok (.enum (values.map (·.name.value)))
    | none, some (.inputObject fields) =>
      (s.inputFields (s.literalType fuel) name fields).map .inputObject
    | _, _ => .ok .output

def literal (s : Scope) (name : String) : Except Failure LiteralType :=
  s.literalType (s.bodies.length + 1) name

def arguments (s : Scope) (args : List InputValueDefinition) : Except Failure (List InputValue) :=
  args.mapM (s.inputValue s.literal "Argument type must be a GraphQL input type.")

def field (s : Scope) (d : FieldDefinition) : Except Failure Field := do
  let type := TypeExpr.ofRef d.type
  let arguments ← s.arguments d.arguments
  let _ ← isDeprecated d.directives
  if !s.isOutput type.baseName then throw (.invalid "Field type must be an output type.")
  return { name := d.name.value, arguments, type }

def fields (s : Scope) (type : String) (fields : List FieldDefinition) :
    Except Failure (List Field) :=
  Draft.partOf type "fields" (fields.mapM s.field)

def draft (s : Scope) (d : TypeDefinition) (body : Graphql.TypeBody) :
    Except Failure TypeDraft := do
  let name := d.name.value
  let named (types : List NamedType) : List String := types.map (·.name.value)
  match standardType? name with
  | some t => return ⟨name, .ofBody t.body⟩
  | none =>
    match body with
    | .scalar =>
      checkSpecifiedBy d.directives
      return ⟨name, .scalar⟩
    | .object is fs => return ⟨name, .object (.ok (named is)) (s.fields name fs)⟩
    | .interface is fs => return ⟨name, .interface (.ok (named is)) (s.fields name fs)⟩
    | .union ms => return ⟨name, .union (.ok (named ms))⟩
    | .enum vs =>
      let _ ← vs.mapM fun v => isDeprecated v.directives
      return ⟨name, .enum (vs.map (·.name.value))⟩
    | .inputObject fs => return ⟨name, .inputObject (s.inputFields s.literal name fs)⟩

def directive (s : Scope) (d : DirectiveDefinition) : Except Failure Directive := do
  return { name := d.name.value, arguments := ← s.arguments d.arguments
           locations := d.locations.map (·.value), repeatable := d.repeatable }

end Scope

namespace Definitions

def declaredRoot? (ds : Definitions) (kind : OperationKind) : Option String :=
  let roots := (ds.schema?.toList ++ ds.schemaExtensions).flatMap (·.roots)
  (roots.findRev? fun r => r.kind == kind).map (·.type.name.value)

def usualRoot : OperationKind → String
  | .query => "Query"
  | .mutation => "Mutation"
  | .subscription => "Subscription"

def root? (ds : Definitions) (kind : OperationKind) : Option String :=
  let usual := usualRoot kind
  if ds.schema?.isNone && ds.types.any fun d => d.name.value == usual then some usual
  else ds.declaredRoot? kind

def draft (ds : Definitions) : Except Failure Draft := do
  let scope : Scope := ⟨ds.bodies⟩
  let types ← scope.bodies.mapM fun (d, body) => scope.draft d body
  let own ← ds.directives.mapM scope.directive
  let missing := standardDirectives.filter fun d => !own.any (·.name == d.name)
  return { types, directives := own ++ missing, query? := ds.root? .query
           mutation? := ds.root? .mutation, subscription? := ds.root? .subscription }

end Definitions

def definitionErrors (d : Document) : Except Failure (List Graphql.Error) :=
  let schema : Schema := { types := [], directives := [] }
  let subject : Validation.Subject := { document := d, schema, definesSchema := true }
  let rules := Validation.Rules.definitionRules subject
  match Validation.validateAll rules (Validation.events schema d) with
  | .ok errors => .ok errors
  | .error (.number flaw) => .error (.number flaw)
  | .error _ => .ok []

def ofDocument (d : Document) : Except Failure Schema := do
  let errors ← definitionErrors d
  if errors.isEmpty then (← (Definitions.ofDocument d).draft).finish
  else throw (.invalid (joinMessages (errors.map (·.message))))

def ofText (text : LooseText) : Except Failure Schema := do
  match Graphql.parse (.ofText text) with
  | .error e => throw (.unparsable e)
  | .ok d => ofDocument d

end QueryLinker.Schema
