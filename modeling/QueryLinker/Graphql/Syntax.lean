import QueryLinker.Graphql.Source

/-!
This module contains the syntax trees of documents. Every node may know the stretch of text it was
parsed from. Equality of nodes compares structure and offsets.
-/

namespace QueryLinker.Graphql

structure Name where
  value : String
  loc? : Option Loc
deriving BEq, Repr, Inhabited

structure NamedType where
  name : Name
  loc? : Option Loc
deriving BEq, Repr, Inhabited

inductive TypeRef where
  | named (type : NamedType)
  | list (item : TypeRef) (loc? : Option Loc)
  | nonNull (type : TypeRef) (loc? : Option Loc)
deriving BEq, Repr, Inhabited

structure Variable where
  name : Name
  loc? : Option Loc
deriving BEq, Repr, Inhabited

mutual

inductive Value where
  | var (v : Variable)
  | int (text : String) (loc? : Option Loc)
  | float (text : String) (loc? : Option Loc)
  | string (value : String) (block : Bool) (loc? : Option Loc)
  | boolean (value : Bool) (loc? : Option Loc)
  | null (loc? : Option Loc)
  | enum (name : String) (loc? : Option Loc)
  | list (items : List Value) (loc? : Option Loc)
  | object (fields : List ObjectField) (loc? : Option Loc)
deriving Repr

inductive ObjectField where
  | mk (name : Name) (value : Value) (loc? : Option Loc)
deriving Repr

end

instance : Inhabited Value := ⟨.null none⟩

mutual

def Value.beq : Value → Value → Bool
  | .var v, .var w => v == w
  | .int s l, .int t m => s == t && l == m
  | .float s l, .float t m => s == t && l == m
  | .string s b l, .string t c m => s == t && b == c && l == m
  | .boolean b l, .boolean c m => b == c && l == m
  | .null l, .null m => l == m
  | .enum s l, .enum t m => s == t && l == m
  | .list vs l, .list ws m => beqValues vs ws && l == m
  | .object fs l, .object gs m => beqObjectFields fs gs && l == m
  | _, _ => false
termination_by structural v => v

def beqValues : List Value → List Value → Bool
  | [], [] => true
  | v :: vs, w :: ws => v.beq w && beqValues vs ws
  | _, _ => false
termination_by structural vs => vs

def ObjectField.beq : ObjectField → ObjectField → Bool
  | .mk n v l, .mk o w m => n == o && v.beq w && l == m
termination_by structural f => f

def beqObjectFields : List ObjectField → List ObjectField → Bool
  | [], [] => true
  | f :: fs, g :: gs => f.beq g && beqObjectFields fs gs
  | _, _ => false
termination_by structural fs => fs

end

instance : BEq Value := ⟨Value.beq⟩
instance : BEq ObjectField := ⟨ObjectField.beq⟩

namespace ObjectField

def name : ObjectField → Name
  | .mk name _ _ => name

def value : ObjectField → Value
  | .mk _ value _ => value

def loc? : ObjectField → Option Loc
  | .mk _ _ loc? => loc?

end ObjectField

namespace Value

def loc? : Value → Option Loc
  | .var v => v.loc?
  | .int _ loc? => loc?
  | .float _ loc? => loc?
  | .string _ _ loc? => loc?
  | .boolean _ loc? => loc?
  | .null loc? => loc?
  | .enum _ loc? => loc?
  | .list _ loc? => loc?
  | .object _ loc? => loc?

def isNull : Value → Bool
  | .null _ => true
  | _ => false

end Value

structure Argument where
  name : Name
  value : Value
  loc? : Option Loc
deriving BEq, Repr, Inhabited

structure Directive where
  name : Name
  arguments : List Argument
  loc? : Option Loc
deriving BEq, Repr, Inhabited

structure FieldHead where
  alias? : Option Name
  name : Name
  arguments : List Argument
  directives : List Directive
  loc? : Option Loc
deriving BEq, Repr, Inhabited

namespace FieldHead

def responseName (f : FieldHead) : String :=
  (f.alias?.getD f.name).value

end FieldHead

structure FragmentSpread where
  name : Name
  directives : List Directive
  loc? : Option Loc
deriving BEq, Repr, Inhabited

structure InlineHead where
  typeCondition? : Option NamedType
  directives : List Directive
  loc? : Option Loc
deriving BEq, Repr, Inhabited

mutual

inductive Selection where
  | field (head : FieldHead) (selectionSet : SelectionSet)
  | spread (s : FragmentSpread)
  | inline (head : InlineHead) (selectionSet : SelectionSet)
deriving Repr

inductive SelectionSet where
  | absent
  | braces (selections : List Selection) (loc? : Option Loc)
deriving Repr

end

instance : Inhabited SelectionSet := ⟨.absent⟩
instance : Inhabited Selection := ⟨.spread default⟩

mutual

def Selection.beq : Selection → Selection → Bool
  | .field h s, .field k t => h == k && s.beq t
  | .spread f, .spread g => f == g
  | .inline h s, .inline k t => h == k && s.beq t
  | _, _ => false
termination_by structural x => x

def SelectionSet.beq : SelectionSet → SelectionSet → Bool
  | .absent, .absent => true
  | .braces xs l, .braces ys m => beqSelections xs ys && l == m
  | _, _ => false
termination_by structural s => s

def beqSelections : List Selection → List Selection → Bool
  | [], [] => true
  | x :: xs, y :: ys => x.beq y && beqSelections xs ys
  | _, _ => false
termination_by structural xs => xs

end

instance : BEq Selection := ⟨Selection.beq⟩
instance : BEq SelectionSet := ⟨SelectionSet.beq⟩

namespace SelectionSet

def selections : SelectionSet → List Selection
  | .absent => []
  | .braces selections _ => selections

def loc? : SelectionSet → Option Loc
  | .absent => none
  | .braces _ loc? => loc?

def isPresent : SelectionSet → Bool
  | .absent => false
  | .braces _ _ => true

end SelectionSet

namespace Selection

def loc? : Selection → Option Loc
  | .field head _ => head.loc?
  | .spread s => s.loc?
  | .inline head _ => head.loc?

def children : Selection → List Selection
  | .field _ set => set.selections
  | .spread _ => []
  | .inline _ set => set.selections

end Selection

inductive OperationKind where
  | query
  | mutation
  | subscription
deriving DecidableEq, Repr, Inhabited

namespace OperationKind

def text : OperationKind → String
  | .query => "query"
  | .mutation => "mutation"
  | .subscription => "subscription"

def ofText? (s : String) : Option OperationKind :=
  [OperationKind.query, .mutation, .subscription].find? fun kind => kind.text == s

end OperationKind

structure VariableDefinition where
  var : Variable
  type : TypeRef
  default? : Option Value
  directives : List Directive
  loc? : Option Loc
deriving BEq, Repr, Inhabited

structure OperationDefinition where
  kind : OperationKind
  name? : Option Name
  variableDefinitions : List VariableDefinition
  directives : List Directive
  selectionSet : SelectionSet
  loc? : Option Loc
deriving BEq, Repr, Inhabited

structure FragmentDefinition where
  name : Name
  typeCondition : NamedType
  directives : List Directive
  selectionSet : SelectionSet
  loc? : Option Loc
deriving BEq, Repr, Inhabited

structure Description where
  value : String
  block : Bool
  loc? : Option Loc
deriving BEq, Repr, Inhabited

structure InputValueDefinition where
  description? : Option Description
  name : Name
  type : TypeRef
  default? : Option Value
  directives : List Directive
  loc? : Option Loc
deriving BEq, Repr, Inhabited

structure FieldDefinition where
  description? : Option Description
  name : Name
  arguments : List InputValueDefinition
  type : TypeRef
  directives : List Directive
  loc? : Option Loc
deriving BEq, Repr, Inhabited

structure EnumValueDefinition where
  description? : Option Description
  name : Name
  directives : List Directive
  loc? : Option Loc
deriving BEq, Repr, Inhabited

structure RootDefinition where
  kind : OperationKind
  type : NamedType
  loc? : Option Loc
deriving BEq, Repr, Inhabited

inductive TypeBody where
  | scalar
  | object (interfaces : List NamedType) (fields : List FieldDefinition)
  | interface (interfaces : List NamedType) (fields : List FieldDefinition)
  | union (members : List NamedType)
  | enum (values : List EnumValueDefinition)
  | inputObject (fields : List InputValueDefinition)
deriving BEq, Repr, Inhabited

namespace TypeBody

def keyword : TypeBody → String
  | .scalar => "scalar"
  | .object _ _ => "type"
  | .interface _ _ => "interface"
  | .union _ => "union"
  | .enum _ => "enum"
  | .inputObject _ => "input"

end TypeBody

structure TypeDefinition where
  description? : Option Description
  name : Name
  directives : List Directive
  body : TypeBody
  loc? : Option Loc
deriving BEq, Repr, Inhabited

structure SchemaDefinition where
  description? : Option Description
  directives : List Directive
  roots : List RootDefinition
  loc? : Option Loc
deriving BEq, Repr, Inhabited

structure DirectiveDefinition where
  description? : Option Description
  name : Name
  arguments : List InputValueDefinition
  repeatable : Bool
  locations : List Name
  loc? : Option Loc
deriving BEq, Repr, Inhabited

inductive Definition where
  | operation (d : OperationDefinition)
  | fragment (d : FragmentDefinition)
  | schema (d : SchemaDefinition)
  | type (d : TypeDefinition)
  | directive (d : DirectiveDefinition)
  | schemaExtension (d : SchemaDefinition)
  | typeExtension (d : TypeDefinition)
deriving BEq, Repr, Inhabited

namespace Definition

def loc? : Definition → Option Loc
  | .operation d => d.loc?
  | .fragment d => d.loc?
  | .schema d => d.loc?
  | .type d => d.loc?
  | .directive d => d.loc?
  | .schemaExtension d => d.loc?
  | .typeExtension d => d.loc?

def name? : Definition → Option Name
  | .operation d => d.name?
  | .fragment d => some d.name
  | .schema _ => none
  | .type d => some d.name
  | .directive d => some d.name
  | .schemaExtension _ => none
  | .typeExtension d => some d.name

def nameText (d : Definition) : String :=
  match d.name? with
  | some name => name.value
  | none => ""

def selectionSet : Definition → SelectionSet
  | .operation d => d.selectionSet
  | .fragment d => d.selectionSet
  | _ => .absent

def typeKindText (body : TypeBody) : String :=
  match body with
  | .scalar => "scalar_type"
  | .object _ _ => "object_type"
  | .interface _ _ => "interface_type"
  | .union _ => "union_type"
  | .enum _ => "enum_type"
  | .inputObject _ => "input_object_type"

def kindText : Definition → String
  | .operation _ => "operation_definition"
  | .fragment _ => "fragment_definition"
  | .schema _ => "schema_definition"
  | .type d => typeKindText d.body ++ "_definition"
  | .directive _ => "directive_definition"
  | .schemaExtension _ => "schema_extension"
  | .typeExtension d => typeKindText d.body ++ "_extension"

def isOperation : Definition → Bool
  | .operation _ => true
  | _ => false

def isFragment : Definition → Bool
  | .fragment _ => true
  | _ => false

end Definition

structure Document where
  definitions : List Definition
deriving BEq, Repr, Inhabited

namespace Document

def operations (d : Document) : List OperationDefinition :=
  d.definitions.filterMap fun
    | .operation o => some o
    | _ => none

def fragments (d : Document) : List FragmentDefinition :=
  d.definitions.filterMap fun
    | .fragment f => some f
    | _ => none

end Document

end QueryLinker.Graphql
