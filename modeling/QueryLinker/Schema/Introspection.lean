import QueryLinker.Json.Display
import QueryLinker.Schema.Build

/-!
This module contains how a schema is built from its description, which is what an endpoint answers
when it is asked for its types. A description is a JSON value whose members are looked at one by
one: the first that is missing or wrong counts.
-/

namespace QueryLinker.Schema

namespace Introspection

/-! Access to the members of a description. -/

def optional (key : String) (v : Json) : Except Failure Json :=
  match v with
  | .obj _ => .ok ((v.get? key).getD .null)
  | v => .error (.noObject ("'" ++ v.sortText ++ "' object has no attribute 'get'"))

def required (key : String) (v : Json) : Except Failure Json :=
  match v with
  | .obj _ =>
    match v.get? key with
    | some member => .ok member
    | none => .error (.missing (Text.quoted key))
  | .str _ => .error (.invalid "string indices must be integers, not 'str'")
  | .arr _ => .error (.invalid "list indices must be integers or slices, not str")
  | v => .error (.invalid ("'" ++ v.sortText ++ "' object is not subscriptable"))

def elements : Json → Except Failure (List Json)
  | .arr items => .ok items
  | .obj members => .ok (members.map fun (key, _) => .str key)
  | .str s => .ok (s.pieces.map .str)
  | v => .error (.invalid ("'" ++ v.sortText ++ "' object is not iterable"))

def shown (v : Json) : String :=
  Json.excerpt Json.excerptLimits.depth v

def listed (key what : String) (v : Json) : Except Failure Json := do
  match ← optional key v with
  | .null => throw (.invalid ("Introspection result missing " ++ what ++ ": " ++ shown v ++ "."))
  | member => return member

def nameOf : Json → Except Failure LooseText
  | .str s => .ok s
  | .null => .error (.invalid "Must provide name.")
  | _ => .error (.invalid "Expected name to be a string.")

def checkText (key message : String) (v : Json) : Except Failure Unit := do
  match ← optional key v with
  | .null => return ()
  | .str _ => return ()
  | _ => throw (.invalid message)

def checkKey : Json → Except Failure Unit
  | .arr items => .error (.invalid ("unhashable type: '" ++ (Json.arr items).sortText ++ "'"))
  | .obj members => .error (.invalid ("unhashable type: '" ++ (Json.obj members).sortText ++ "'"))
  | _ => .ok ()

/--
What is described, with its name. The name is looked at before the rest of the description, and that
something can be kept under it shows last.
-/
def named {α : Type} (build : Json → Except Failure α) (v : Json) : Except Failure (Json × α) := do
  let name ← required "name" v
  let result ← build v
  checkKey name
  return (name, result)

def isNameStart (c : Char) : Bool :=
  c.isAlpha || c == '_'

def isNameContinue (c : Char) : Bool :=
  isNameStart c || c.isDigit

def checkName (name : LooseText) : Except Failure String :=
  let broken (message : String) : Except Failure String := .error (.broken ⟨message, []⟩)
  match name.text.toList with
  | [] => broken "Expected name to be a non-empty string."
  | c :: cs =>
    if !cs.all isNameContinue then
      broken ("Names must only contain [_a-zA-Z0-9] but " ++ name.quoted ++ " does not.")
    else if !isNameStart c then
      broken ("Names must start with [_a-zA-Z] but " ++ name.quoted ++ " does not.")
    else .ok name.text

def collate {α ν : Type} [BEq ν] : List (ν × α) → List (ν × α)
  | [] => []
  | (name, a) :: rest =>
    let others := collate rest
    match others.lookup name with
    | some last => (name, last) :: others.filter fun (n, _) => n != name
    | none => (name, a) :: others

def textNamed {α : Type} (message : String) (items : List (Json × α)) :
    Except Failure (List (String × α)) := do
  let items ← items.mapM fun (name, a) =>
    match name with
    | .str name => Except.ok (name, a)
    | _ => .error (.invalid message)
  (collate items).mapM fun (name, a) => return (← checkName name, a)

def unmappedFields (type : String) : String :=
  type ++ " fields must be specified as a mapping with field names as keys."

/-! Types. -/

inductive Sketch where
  | standard (body : TypeBody)
  | scalar
  | object (description : Json)
  | interface (description : Json)
  | union (members : Json)
  | enum (values : List String)
  | inputObject (fields : Json)

namespace Sketch

def outline : Sketch → TypeBody
  | .standard body => body
  | .scalar => .scalar
  | .object _ => .object [] []
  | .interface _ => .interface [] []
  | .union _ => .union []
  | .enum values => .enum values
  | .inputObject _ => .inputObject []

end Sketch

def checkedName (v : Json) : Except Failure String := do
  checkName (← nameOf v)

def checkedHead (v : Json) : Except Failure String := do
  let name ← checkedName (← required "name" v)
  checkText "description" "The description must be a string." v
  return name

def checkEnumValue (v : Json) : Except Failure Unit := do
  checkText "description" "The description of the enum value must be a string." v
  checkText "deprecationReason" "The deprecation reason for the enum value must be a string." v

def enumValueName (v : Json) : Except Failure String := do
  let name ← checkedName v
  if ["true", "false", "null"].contains name then
    throw (.broken ⟨"Enum values cannot be named: " ++ name ++ ".", []⟩)
  return name

def ownSketch (v : Json) : Except Failure Sketch := do
  let incomplete : Except Failure Sketch :=
    .error (.invalid ("Invalid or incomplete introspection result. Ensure that a full " ++
      "introspection query is used in order to build a client schema: " ++ shown v ++ "."))
  let kind ←
    match v.get? "kind" with
    | none => return ← incomplete
    | some kind => pure kind
  match kind.string? with
  | some "SCALAR" =>
    let name ← checkedHead v
    let address ← optional "specifiedByURL" v
    checkText "specifiedByURL" (name ++ " must provide 'specified_by_url' as a string, but got: " ++
      shown address ++ ".") v
    return .scalar
  | some "OBJECT" =>
    let _ ← checkedHead v
    return .object v
  | some "INTERFACE" =>
    let _ ← checkedHead v
    return .interface v
  | some "UNION" =>
    let members ← listed "possibleTypes" "possibleTypes" v
    let _ ← checkedHead v
    return .union members
  | some "ENUM" =>
    let values ← (← elements (← listed "enumValues" "enumValues" v)).mapM (named checkEnumValue)
    let _ ← checkedHead v
    let names ← values.mapM fun (name, _) => enumValueName name
    return .enum ((collate (names.map fun name => (name, ()))).map (·.1))
  | some "INPUT_OBJECT" =>
    let fields ← listed "inputFields" "inputFields" v
    let _ ← checkedHead v
    return .inputObject fields
  | _ =>
    checkKey kind
    incomplete

def sketches (vs : List Json) : Except Failure (List (String × Sketch)) := do
  let sketches ← textNamed "Expected name to be a string." (← vs.mapM (named ownSketch))
  -- What is said of a standard type has to be right but does not count.
  return sketches.map fun (name, own) =>
    match standardType? name with
    | some t => (name, .standard t.body)
    | none => (name, own)

structure Catalog where
  sketches : List (String × Sketch)

namespace Catalog

def sketch? (c : Catalog) (name : String) : Option Sketch :=
  c.sketches.lookup name

def isBase (c : Catalog) (sort : TypeBody → Bool) (type : TypeExpr) : Bool :=
  (c.sketch? type.baseName).any fun s => sort s.outline

def namedType (c : Catalog) (ref : Json) : Except Failure TypeExpr := do
  let name ← optional "name" ref
  if !name.isPresent then throw (.invalid ("Unknown type reference: " ++ shown ref ++ "."))
  checkKey name
  let name := name.plainText
  if (c.sketch? name).isNone then
    throw (.invalid ("Invalid or incomplete schema, unknown type: " ++ name ++
      ". Ensure that a full introspection query is used in order to build a client schema."))
  return .named name

def type (c : Catalog) (ref : Json) : Except Failure TypeExpr := do
  let tooShallow : Except Failure TypeExpr :=
    .error (.invalid "Decorated type deeper than introspection query.")
  let inner : Except Failure TypeExpr :=
    match h : ref.get? "ofType" with
    | some item =>
      have := Json.sizeOf_lt_of_get? h
      if item.isPresent then c.type item else tooShallow
    | none => tooShallow
  let kind ← optional "kind" ref
  if kind == .ofString "LIST" then return .list (← inner)
  else if kind == .ofString "NON_NULL" then
    let type ← inner
    if type.isNonNull then
      throw (.invalid ("Expected " ++ type.text ++ " to be a GraphQL nullable type."))
    return .nonNull type
  else c.namedType ref
termination_by sizeOf ref

def typeOfSort (c : Catalog) (sort : String) (holds : TypeBody → Bool) (ref : Json) :
    Except Failure String := do
  match ← c.type ref with
  | .named name =>
    if c.isBase holds (.named name) then return name
    else throw (.invalid ("Expected " ++ name ++ " to be a GraphQL " ++ sort ++ " type."))
  | type => throw (.invalid ("Expected " ++ type.text ++ " to be a GraphQL " ++ sort ++ " type."))

def isBlankPiece (piece : String) : Bool :=
  ["", " ", "\t", ",", "\ufeff", "\n", "\r"].contains piece

def isNamePiece (piece : String) : Bool :=
  (decide ("a" ≤ piece) && decide (piece ≤ "z")) ||
    (decide ("A" ≤ piece) && decide (piece ≤ "Z")) || piece == "_"

def isDigitPiece (piece : String) : Bool :=
  decide ("0" ≤ piece) && decide (piece ≤ "9")

def unordered (other : Json) : Failure :=
  .invalid ("'<=' not supported between instances of 'str' and '" ++ other.sortText ++ "'")

def notWithinText (piece : Json) : Failure :=
  .invalid ("'in <string>' requires string as left operand, not " ++ piece.sortText)

def noLiteral : Failure :=
  .noObject "'list' object has no attribute 'splitlines'"

def checkEnd : List Json → Except Failure Unit
  | [] => .ok ()
  | .str piece :: rest => if isBlankPiece piece.text then checkEnd rest else .error noLiteral
  | piece :: _ => .error (notWithinText piece)

def checkNameEnd : List Json → Except Failure Unit
  | [] => .ok ()
  | .str piece :: rest =>
    if isNamePiece piece.text || isDigitPiece piece.text then checkNameEnd rest
    else checkEnd (.str piece :: rest)
  | piece :: _ => .error (unordered piece)

def checkNumberEnd : List Json → Except Failure Unit
  | [] => .ok ()
  | .str piece :: rest =>
    if isDigitPiece piece.text then checkNumberEnd rest
    else .error (notWithinText (.arr [.str piece]))
  | piece :: _ => .error (unordered piece)

def ofPieces : List Json → Except Failure (Option Graphql.Value)
  | [] => .error noLiteral
  | .str letters :: rest =>
    let piece := letters.text
    if isBlankPiece piece then ofPieces rest
    else if piece == "0" || piece == "-" then .error (unordered (.arr rest))
    else if isDigitPiece piece then (checkNumberEnd rest).map fun _ => none
    else if isNamePiece piece then (checkNameEnd rest).map fun _ => some (.enum "" none)
    else .error noLiteral
  | piece :: _ => .error (notWithinText piece)

def default? (v : Json) : Except Failure (Option Graphql.Value) :=
  match v with
  | .null => .ok none
  | .str text =>
    match Graphql.parseValue (.ofText text) with
    | .ok value => .ok (some value)
    | .error e => .error (.unparsable e)
  | .arr pieces => ofPieces pieces
  | .obj [] => .error (.invalid "unhashable type: 'slice'")
  | .obj _ => .error (.missing "0")
  | v => .error (.invalid ("object of type '" ++ v.sortText ++ "' has no len()"))

structure InputWording where
  part : String
  owner : String

def argumentWording : InputWording := ⟨"arguments", "Argument"⟩

def inputFieldWording : InputWording := ⟨"input fields", "Input field"⟩

def inputValue (c : Catalog) (typeOf : String → Except Failure LiteralType)
    (wording : InputWording) (v : Json) : Except Failure InputValue := do
  let type ← c.type (← required "type" v)
  if !c.isBase (·.isInput) type then
    throw (.invalid ("Introspection must provide input type for " ++ wording.part ++
      ", but received: " ++ type.text ++ "."))
  let hasDefault ← isDefault typeOf type (← default? (← optional "defaultValue" v))
  checkText "description" (wording.owner ++ " description must be a string.") v
  checkText "deprecationReason" (wording.owner ++ " deprecation reason must be a string.") v
  let reason ← optional "deprecationReason" v
  return { name := "", type, hasDefault, deprecated := reason != .null }

def inputFields (c : Catalog) (typeOf : String → Except Failure LiteralType) (type : String)
    (vs : Json) : Except Failure (List InputValue) := do
  let fields ← Draft.partOf type "fields" do
    (← elements vs).mapM (named (c.inputValue typeOf inputFieldWording))
  let fields ← textNamed (unmappedFields type) fields
  return fields.map fun (name, f) => { f with name }

def literalType (c : Catalog) (fuel : Nat) (name : String) : Except Failure LiteralType :=
  match fuel with
  | 0 => .error (.invalid "maximum recursion depth exceeded")
  | fuel + 1 =>
    match c.sketch? name with
    | some (.inputObject fields) =>
      (c.inputFields (c.literalType fuel) name fields).map .inputObject
    | some s => .ok (.ofBody s.outline)
    | none => .ok .output

def literal (c : Catalog) (name : String) : Except Failure LiteralType :=
  c.literalType (c.sketches.length + 1) name

def arguments (c : Catalog) (vs : List Json) : Except Failure (List (Json × InputValue)) :=
  vs.mapM (named (c.inputValue c.literal argumentWording))

def finishArguments (unmapped : String) (arguments : List (Json × InputValue)) :
    Except Failure (List InputValue) := do
  let arguments ← textNamed unmapped arguments
  return arguments.map fun (name, a) => { a with name }

def field (c : Catalog) (v : Json) : Except Failure Field := do
  let type ← c.type (← required "type" v)
  if !c.isBase (·.isOutput) type then
    throw (.invalid ("Introspection must provide output type for fields, but received: " ++
      type.text ++ "."))
  let arguments ← c.arguments (← elements (← listed "args" "field args" v))
  let arguments ← finishArguments "Field args must be a mapping with argument names as keys."
    arguments
  checkText "description" "The description must be a string." v
  checkText "deprecationReason" "The deprecation reason must be a string." v
  return { name := "", arguments, type }

def fields (c : Catalog) (type : String) (v : Json) : Except Failure (List Field) := do
  let fields ← Draft.partOf type "fields" do
    (← elements (← listed "fields" "fields" v)).mapM (named c.field)
  let fields ← textNamed (unmappedFields type) fields
  return fields.map fun (name, f) => { f with name }

def interfaces (c : Catalog) (isInterface : Bool) (v : Json) : Except Failure (List String) := do
  if isInterface && (← optional "interfaces" v) == .null then return []
  let items ← elements (← listed "interfaces" "interfaces" v)
  items.mapM (c.typeOfSort "Interface" (·.isInterface))

def draftBody (c : Catalog) (type : String) : Sketch → DraftBody
  | .standard body => .ofBody body
  | .scalar => .scalar
  | .object v => .object (c.interfaces false v) (c.fields type v)
  | .interface v => .interface (c.interfaces true v) (c.fields type v)
  | .union members =>
    .union do (← elements members).mapM (c.typeOfSort "Object" (·.isObject))
  | .enum values => .enum values
  | .inputObject fields => .inputObject (c.inputFields c.literal type fields)

def locations (directive : String) (vs : List Json) : Except Failure (List String) :=
  let known := executableLocations ++ systemLocations
  let places := vs.filterMap fun v =>
    v.string?.filter known.contains
  if places.length == vs.length then .ok places
  else
    .error (.invalid (directive ++
      " locations must be specified as a collection of DirectiveLocation enum values."))

def directive (c : Catalog) (v : Json) : Except Failure Directive := do
  let args ← listed "args" "directive args" v
  let places ← listed "locations" "directive locations" v
  let name ← required "name" v
  let repeatable := (v.get? "isRepeatable").getD (.bool false)
  let places ← elements places
  let arguments ← c.arguments (← elements args)
  let name ← checkedName name
  let locations ← locations name places
  let arguments ← finishArguments (name ++ " args must be a mapping with argument names as keys.")
    arguments
  match repeatable with
  | .bool repeatable =>
    checkText "description" (name ++ " description must be a string.") v
    return { name, arguments, locations, repeatable }
  | _ => throw (.invalid (name ++ " is_repeatable flag must be True or False."))

def root? (c : Catalog) (key : String) (v : Json) : Except Failure (Option String) := do
  match ← optional key v with
  | .null => return none
  | ref => return some (← c.typeOfSort "Object" (·.isObject) ref)

end Catalog

def draft (v : Json) : Except Failure Draft := do
  let sketches ← sketches (← elements (← required "types" v))
  let c : Catalog := ⟨sketches⟩
  let query? ← c.root? "queryType" v
  let mutation? ← c.root? "mutationType" v
  let subscription? ← c.root? "subscriptionType" v
  let described ← optional "directives" v
  let directives ←
    if described.isPresent then (← elements described).mapM c.directive else pure []
  checkText "description" "Schema description must be a string." v
  return { types := sketches.map fun (name, s) => ⟨name, c.draftBody name s⟩
           directives, query?, mutation?, subscription? }

def mentions? (key : String) : Json → Option Bool
  | .obj members => some (members.any fun (k, _) => k == key)
  | .arr items => some (items.contains (.ofString key))
  | .str s => some ((s.text.splitOn key).length != 1)
  | _ => none

def data (v : Json) : Except Failure Json := do
  let wrapped (v : Json) (key : String) : Except Failure Bool :=
    match mentions? key v with
    | some b => .ok b
    | none => .error (.noDescription ("argument of type '" ++ v.sortText ++ "' is not iterable"))
  if ← wrapped v "__schema" then return v
  else if ← wrapped v "data" then
    match v.get? "data" with
    | some inner => return if ← wrapped inner "__schema" then inner else v
    | none => throw (.noDescription "list indices must be integers or slices, not str")
  else return v

end Introspection

def ofDescription (v : Json) : Except Failure Schema := do
  let data ← Introspection.data v
  match data.get? "__schema" with
  | some (.obj members) => (← Introspection.draft (.obj members)).finish
  | _ =>
    throw (.invalid ("Invalid or incomplete introspection result. Ensure that you are passing " ++
      "the 'data' attribute of an introspection response and no 'errors' were returned " ++
      "alongside: " ++ Introspection.shown data ++ "."))

def ofJson : Json → Except Failure Schema
  | .str text => ofText text
  | v => ofDescription v

end QueryLinker.Schema
