import QueryLinker.Graphql.Syntax

/-!
This module contains schemas: types, fields and directives as documents are checked against them.
Types refer to each other by name, so that cycles are no problem.
-/

namespace QueryLinker

namespace Schema

inductive TypeExpr where
  | named (name : String)
  | list (item : TypeExpr)
  | nonNull (type : TypeExpr)
deriving DecidableEq, Repr, Inhabited

namespace TypeExpr

def text : TypeExpr → String
  | .named name => name
  | .list item => "[" ++ item.text ++ "]"
  | .nonNull type => type.text ++ "!"

def baseName : TypeExpr → String
  | .named name => name
  | .list item => item.baseName
  | .nonNull type => type.baseName

def isNonNull : TypeExpr → Bool
  | .nonNull _ => true
  | _ => false

def isList : TypeExpr → Bool
  | .list _ => true
  | _ => false

def nullable : TypeExpr → TypeExpr
  | .nonNull type => type
  | type => type

def ofRef : Graphql.TypeRef → TypeExpr
  | .named t => .named t.name.value
  | .list item _ => .list (ofRef item)
  | .nonNull type _ => .nonNull (ofRef type)

end TypeExpr

structure InputValue where
  name : String
  type : TypeExpr
  hasDefault : Bool := false
  deprecated : Bool := false
deriving DecidableEq, Repr, Inhabited

namespace InputValue

def isRequired (v : InputValue) : Bool :=
  v.type.isNonNull && !v.hasDefault

end InputValue

def findInput? (values : List InputValue) (name : String) : Option InputValue :=
  values.find? (·.name == name)

structure Field where
  name : String
  arguments : List InputValue := []
  type : TypeExpr
deriving DecidableEq, Repr, Inhabited

inductive TypeBody where
  | scalar
  | object (interfaces : List String) (fields : List Field)
  | interface (interfaces : List String) (fields : List Field)
  | union (members : List String)
  | enum (values : List String)
  | inputObject (fields : List InputValue)
deriving DecidableEq, Repr, Inhabited

structure TypeDecl where
  name : String
  body : TypeBody
deriving DecidableEq, Repr, Inhabited

namespace TypeBody

def isObject : TypeBody → Bool
  | .object _ _ => true
  | _ => false

def isInterface : TypeBody → Bool
  | .interface _ _ => true
  | _ => false

def isInputObject : TypeBody → Bool
  | .inputObject _ => true
  | _ => false

def isAbstract : TypeBody → Bool
  | .interface _ _ => true
  | .union _ => true
  | _ => false

def isComposite : TypeBody → Bool
  | .object _ _ => true
  | body => body.isAbstract

def isLeaf : TypeBody → Bool
  | .scalar => true
  | .enum _ => true
  | _ => false

def isInput : TypeBody → Bool
  | .inputObject _ => true
  | body => body.isLeaf

def isOutput (body : TypeBody) : Bool :=
  !body.isInputObject

def interfaces : TypeBody → List String
  | .object interfaces _ => interfaces
  | .interface interfaces _ => interfaces
  | _ => []

def fields : TypeBody → List Field
  | .object _ fields => fields
  | .interface _ fields => fields
  | _ => []

end TypeBody

namespace TypeDecl

def field? (t : TypeDecl) (name : String) : Option Field :=
  t.body.fields.find? (·.name == name)

end TypeDecl

structure Directive where
  name : String
  arguments : List InputValue := []
  locations : List String
  repeatable : Bool := false
deriving DecidableEq, Repr, Inhabited

end Schema

open Schema in
structure Schema where
  types : List TypeDecl
  directives : List Directive
  query? : Option String := none
  mutation? : Option String := none
  subscription? : Option String := none
deriving DecidableEq, Repr, Inhabited

namespace Schema

def type? (s : Schema) (name : String) : Option TypeDecl :=
  s.types.find? (·.name == name)

def body? (s : Schema) (name : String) : Option TypeBody :=
  (s.type? name).map (·.body)

def directive? (s : Schema) (name : String) : Option Directive :=
  s.directives.find? (·.name == name)

def typeNames (s : Schema) : List String :=
  s.types.map (·.name)

def root? (s : Schema) : Graphql.OperationKind → Option String
  | .query => s.query?
  | .mutation => s.mutation?
  | .subscription => s.subscription?

def isType (s : Schema) (sort : TypeBody → Bool) (name : String) : Bool :=
  (s.type? name).any fun t => sort t.body

def isBase (s : Schema) (sort : TypeBody → Bool) (type : TypeExpr) : Bool :=
  s.isType sort type.baseName

def ofRef? (s : Schema) (ref : Graphql.TypeRef) : Option TypeExpr :=
  let type := TypeExpr.ofRef ref
  if (s.type? type.baseName).isSome then some type else none

def implementing (s : Schema) (interface : String) : List TypeDecl :=
  s.types.filter fun t => t.body.interfaces.contains interface

def possibleTypes (s : Schema) (name : String) : List String :=
  match s.body? name with
  | some (.union members) => members
  | some (.interface _ _) => ((s.implementing name).filter (·.body.isObject)).map (·.name)
  | _ => []

def isSubType (s : Schema) (abstract sub : String) : Bool :=
  match s.body? abstract with
  | some (.union members) => members.contains sub
  | some (.interface _ _) => (s.type? sub).any fun t => t.body.interfaces.contains abstract
  | _ => false

def isSubTypeExpr (s : Schema) : TypeExpr → TypeExpr → Bool
  | .nonNull sub, .nonNull super => s.isSubTypeExpr sub super
  | .nonNull sub, super => s.isSubTypeExpr sub super
  | .list sub, .list super => s.isSubTypeExpr sub super
  | .named sub, .named super =>
    sub == super ||
      (s.isType (·.isAbstract) super && s.isType (fun b => b.isInterface || b.isObject) sub &&
        s.isSubType super sub)
  | _, _ => false

def overlaps (s : Schema) (a b : String) : Bool :=
  a == b ||
    if s.isType (·.isAbstract) a then
      if s.isType (·.isAbstract) b then (s.possibleTypes a).any fun t => s.isSubType b t
      else s.isSubType a b
    else s.isType (·.isAbstract) b && s.isSubType b a

end Schema

end QueryLinker
