import QueryLinker.Graphql.Lexer
import QueryLinker.Graphql.Syntax

/-!
This module contains the parser of documents. It walks along the tokens of a text, one ahead; a
failure of the lexer counts when the parser steps on it. No token begins more than four rules of the
grammar, one inside the other, so the number of tokens bounds the depth of the recursion and the
length of lists.
-/

namespace QueryLinker.Graphql

inductive SyntaxFlaw where
  | lexical (flaw : LexFlaw)
  | unexpected (found : String)
  | expected (what found : String)
  | misplacedDescription
  | reservedName (found : String)
  | variableInConstant (name : String)
deriving DecidableEq, Repr

namespace SyntaxFlaw

def message : SyntaxFlaw → String
  | .lexical flaw => flaw.message
  | .unexpected found => "Unexpected " ++ found ++ "."
  | .expected what found => "Expected " ++ what ++ ", found " ++ found ++ "."
  | .misplacedDescription =>
    "Unexpected description, descriptions are supported only on type definitions."
  | .reservedName found => found ++ " is reserved and cannot be used for an enum value."
  | .variableInConstant name => "Unexpected variable '$" ++ name ++ "' in constant value."

end SyntaxFlaw

structure SyntaxFailure where
  flaw : SyntaxFlaw
  source : Source
  offset : Nat
deriving DecidableEq, Repr

namespace SyntaxFailure

def message (e : SyntaxFailure) : String :=
  "Syntax Error: " ++ e.flaw.message

def position (e : SyntaxFailure) : Text.Position :=
  e.source.positionAt e.offset

def isCutEscape (e : SyntaxFailure) : Bool :=
  e.flaw == .lexical .cutEscape

end SyntaxFailure

structure Cursor where
  current : Token
  last : Token
  ahead : List Token
  failure? : Option LexFailure
  source : Source
  located : Bool

abbrev Parser := StateT Cursor (Except SyntaxFailure)

namespace Parser

def fail {α : Type} (flaw : SyntaxFlaw) (offset : Nat) : Parser α := do
  throw ⟨flaw, (← get).source, offset⟩

def current : Parser Token :=
  return (← get).current

def next : Parser Token := do
  let c ← get
  if c.current.kind == .endOfFile then return c.current
  match c.ahead, c.failure? with
  | t :: _, _ => return t
  -- A flaw of the lexer counts when the parser steps on it.
  | [], some e => fail (.lexical e.flaw) e.offset
  | [], none => return c.current

def advance : Parser Unit := do
  let t ← next
  modify fun c => { c with current := t, last := c.current, ahead := c.ahead.drop 1 }

def locFrom (start : Token) : Parser (Option Loc) := do
  let c ← get
  return if c.located then some ⟨c.source, start.start, c.last.stop⟩ else none

def unexpected {α : Type} (t : Token) : Parser α :=
  fail (.unexpected t.describe) t.start

def peek (kind : TokenKind) : Parser Bool :=
  return (← current).kind == kind

def expect (kind : TokenKind) : Parser Token := do
  let t ← current
  if t.kind == kind then
    advance
    return t
  else
    fail (.expected kind.describe t.describe) t.start

def skip (kind : TokenKind) : Parser Bool := do
  if ← peek kind then
    advance
    return true
  else
    return false

def isKeyword (word : String) (t : Token) : Bool :=
  t.kind == .name && t.value == word

def expectKeyword (word : String) : Parser Unit := do
  let t ← current
  if isKeyword word t then advance
  else fail (.expected ("'" ++ word ++ "'") t.describe) t.start

def skipKeyword (word : String) : Parser Bool := do
  if isKeyword word (← current) then
    advance
    return true
  else
    return false

def upTo {α : Type} (fuel : Nat) (close : TokenKind) (item : Parser α) : Parser (List α) := do
  match fuel with
  | 0 => unexpected (← current)
  | fuel + 1 =>
    if ← skip close then return []
    else
      let x ← item
      return x :: (← upTo fuel close item)

def many {α : Type} (fuel : Nat) (opening : TokenKind) (item : Parser α) (close : TokenKind) :
    Parser (List α) := do
  let _ ← expect opening
  let x ← item
  return x :: (← upTo fuel close item)

def optionalMany {α : Type} (fuel : Nat) (opening : TokenKind) (item : Parser α)
    (close : TokenKind) : Parser (List α) := do
  if ← peek opening then many fuel opening item close else return []

def delimited {α : Type} (fuel : Nat) (delimiter : TokenKind) (item : Parser α) :
    Parser (List α) := do
  let _ ← skip delimiter
  go fuel
where
  go (fuel : Nat) : Parser (List α) := do
    match fuel with
    | 0 => unexpected (← current)
    | fuel + 1 =>
      let x ← item
      if ← skip delimiter then return x :: (← go fuel) else return [x]

def name : Parser Name := do
  let t ← expect .name
  return ⟨t.value, ← locFrom t⟩

def namedType : Parser NamedType := do
  let start ← current
  let n ← name
  return ⟨n, ← locFrom start⟩

def typeRef (fuel : Nat) : Parser TypeRef := do
  match fuel with
  | 0 => unexpected (← current)
  | fuel + 1 =>
    let start ← current
    let type ←
      if ← skip .bracketL then
        let item ← typeRef fuel
        let _ ← expect .bracketR
        pure (TypeRef.list item (← locFrom start))
      else
        pure (TypeRef.named (← namedType))
    if ← skip .bang then return .nonNull type (← locFrom start) else return type

def var : Parser Variable := do
  let start ← current
  let _ ← expect .dollar
  let n ← name
  return ⟨n, ← locFrom start⟩

def variableValue (constant : Bool) : Parser Value := do
  if constant then
    let dollar ← expect .dollar
    let t ← current
    if t.kind == .name then fail (.variableInConstant t.value) dollar.start
    else unexpected dollar
  else
    return .var (← var)

def namedValue : Parser Value := do
  let t ← current
  advance
  let loc? ← locFrom t
  return match t.value with
    | "true" => .boolean true loc?
    | "false" => .boolean false loc?
    | "null" => .null loc?
    | n => .enum n loc?

mutual

def value (fuel : Nat) (constant : Bool) : Parser Value := do
  match fuel with
  | 0 => unexpected (← current)
  | fuel + 1 =>
    let t ← current
    match t.kind with
    | .bracketL =>
      advance
      let items ← upTo fuel .bracketR (value fuel constant)
      return .list items (← locFrom t)
    | .braceL =>
      advance
      let fields ← upTo fuel .braceR (objectField fuel constant)
      return .object fields (← locFrom t)
    | .int =>
      advance
      return .int t.value (← locFrom t)
    | .float =>
      advance
      return .float t.value (← locFrom t)
    | .string =>
      advance
      return .string t.value false (← locFrom t)
    | .blockString =>
      advance
      return .string t.value true (← locFrom t)
    | .name => namedValue
    | .dollar => variableValue constant
    | _ => unexpected t

def objectField (fuel : Nat) (constant : Bool) : Parser ObjectField := do
  match fuel with
  | 0 => unexpected (← current)
  | fuel + 1 =>
    let start ← current
    let n ← name
    let _ ← expect .colon
    let v ← value fuel constant
    return .mk n v (← locFrom start)

end

def argument (fuel : Nat) (constant : Bool) : Parser Argument := do
  let start ← current
  let n ← name
  let _ ← expect .colon
  let v ← value fuel constant
  return ⟨n, v, ← locFrom start⟩

def arguments (fuel : Nat) (constant : Bool) : Parser (List Argument) :=
  optionalMany fuel .parenL (argument fuel constant) .parenR

def directive (fuel : Nat) (constant : Bool) : Parser Directive := do
  let start ← current
  let _ ← expect .atSign
  let n ← name
  let args ← arguments fuel constant
  return ⟨n, args, ← locFrom start⟩

def directives (fuel : Nat) (constant : Bool) : Parser (List Directive) := do
  match fuel with
  | 0 => return []
  | fuel + 1 =>
    if ← peek .atSign then
      let d ← directive (fuel + 1) constant
      return d :: (← directives fuel constant)
    else
      return []

def fragmentName : Parser Name := do
  let t ← current
  if t.value == "on" then unexpected t else name

mutual

def selectionSet (fuel : Nat) : Parser SelectionSet := do
  match fuel with
  | 0 => unexpected (← current)
  | fuel + 1 =>
    let start ← current
    let selections ← many fuel .braceL (selection fuel) .braceR
    return .braces selections (← locFrom start)

def selection (fuel : Nat) : Parser Selection := do
  match fuel with
  | 0 => unexpected (← current)
  | fuel + 1 =>
    if ← peek .spread then spread fuel else field fuel

def field (fuel : Nat) : Parser Selection := do
  match fuel with
  | 0 => unexpected (← current)
  | fuel + 1 =>
    let start ← current
    let first ← name
    let (alias?, n) ←
      if ← skip .colon then pure (some first, ← name) else pure (none, first)
    let args ← arguments fuel false
    let ds ← directives fuel false
    let set ← if ← peek .braceL then selectionSet fuel else pure .absent
    return .field ⟨alias?, n, args, ds, ← locFrom start⟩ set

def spread (fuel : Nat) : Parser Selection := do
  match fuel with
  | 0 => unexpected (← current)
  | fuel + 1 =>
    let start ← current
    let _ ← expect .spread
    let conditional ← skipKeyword "on"
    if !conditional && (← peek .name) then
      let n ← fragmentName
      let ds ← directives fuel false
      return .spread ⟨n, ds, ← locFrom start⟩
    else
      let condition? ← if conditional then pure (some (← namedType)) else pure none
      let ds ← directives fuel false
      let set ← selectionSet fuel
      return .inline ⟨condition?, ds, ← locFrom start⟩ set

end

def operationKind : Parser OperationKind := do
  let t ← expect .name
  match OperationKind.ofText? t.value with
  | some kind => return kind
  | none => unexpected t

def variableDefinition (fuel : Nat) : Parser VariableDefinition := do
  let start ← current
  let v ← var
  let _ ← expect .colon
  let type ← typeRef fuel
  let initial? ← if ← skip .equals then pure (some (← value fuel true)) else pure none
  let ds ← directives fuel true
  return ⟨v, type, initial?, ds, ← locFrom start⟩

def operation (fuel : Nat) : Parser Definition := do
  let start ← current
  if ← peek .braceL then
    let set ← selectionSet fuel
    return .operation ⟨.query, none, [], [], set, ← locFrom start⟩
  else
    let kind ← operationKind
    let name? ← if ← peek .name then pure (some (← name)) else pure none
    let definitions ← optionalMany fuel .parenL (variableDefinition fuel) .parenR
    let ds ← directives fuel false
    let set ← selectionSet fuel
    return .operation ⟨kind, name?, definitions, ds, set, ← locFrom start⟩

def fragment (fuel : Nat) : Parser Definition := do
  let start ← current
  expectKeyword "fragment"
  let n ← fragmentName
  expectKeyword "on"
  let condition ← namedType
  let ds ← directives fuel false
  let set ← selectionSet fuel
  return .fragment ⟨n, condition, ds, set, ← locFrom start⟩

def isString (t : Token) : Bool :=
  t.kind == .string || t.kind == .blockString

def description? : Parser (Option Description) := do
  let t ← current
  if isString t then
    advance
    return some ⟨t.value, t.kind == .blockString, ← locFrom t⟩
  else
    return none

def inputValueDefinition (fuel : Nat) : Parser InputValueDefinition := do
  let start ← current
  let text? ← description?
  let n ← name
  let _ ← expect .colon
  let type ← typeRef fuel
  let initial? ← if ← skip .equals then pure (some (← value fuel true)) else pure none
  let ds ← directives fuel true
  return ⟨text?, n, type, initial?, ds, ← locFrom start⟩

def argumentDefinitions (fuel : Nat) : Parser (List InputValueDefinition) :=
  optionalMany fuel .parenL (inputValueDefinition fuel) .parenR

def fieldDefinition (fuel : Nat) : Parser FieldDefinition := do
  let start ← current
  let text? ← description?
  let n ← name
  let args ← argumentDefinitions fuel
  let _ ← expect .colon
  let type ← typeRef fuel
  let ds ← directives fuel true
  return ⟨text?, n, args, type, ds, ← locFrom start⟩

def enumValueName : Parser Name := do
  let t ← current
  if t.value == "true" || t.value == "false" || t.value == "null" then
    fail (.reservedName t.describe) t.start
  else
    name

def enumValueDefinition (fuel : Nat) : Parser EnumValueDefinition := do
  let start ← current
  let text? ← description?
  let n ← enumValueName
  let ds ← directives fuel true
  return ⟨text?, n, ds, ← locFrom start⟩

def rootDefinition : Parser RootDefinition := do
  let start ← current
  let kind ← operationKind
  let _ ← expect .colon
  let type ← namedType
  return ⟨kind, type, ← locFrom start⟩

def interfaces (fuel : Nat) : Parser (List NamedType) := do
  if ← skipKeyword "implements" then delimited fuel .amp namedType else return []

def fieldDefinitions (fuel : Nat) : Parser (List FieldDefinition) :=
  optionalMany fuel .braceL (fieldDefinition fuel) .braceR

def typeRest (fuel : Nat) (keyword : String) : Parser (List Directive × TypeBody) := do
  match keyword with
  | "scalar" => return (← directives fuel true, .scalar)
  | "type" =>
    let supers ← interfaces fuel
    let ds ← directives fuel true
    return (ds, .object supers (← fieldDefinitions fuel))
  | "interface" =>
    let supers ← interfaces fuel
    let ds ← directives fuel true
    return (ds, .interface supers (← fieldDefinitions fuel))
  | "union" =>
    let ds ← directives fuel true
    let members ← if ← skip .equals then delimited fuel .pipe namedType else pure []
    return (ds, .union members)
  | "enum" =>
    let ds ← directives fuel true
    return (ds, .enum (← optionalMany fuel .braceL (enumValueDefinition fuel) .braceR))
  | _ =>
    let ds ← directives fuel true
    return (ds, .inputObject (← optionalMany fuel .braceL (inputValueDefinition fuel) .braceR))

def typeDefinition (fuel : Nat) (keyword : String) : Parser Definition := do
  let start ← current
  let text? ← description?
  expectKeyword keyword
  let n ← name
  let (ds, body) ← typeRest fuel keyword
  return .type ⟨text?, n, ds, body, ← locFrom start⟩

def schemaDefinition (fuel : Nat) : Parser Definition := do
  let start ← current
  let text? ← description?
  expectKeyword "schema"
  let ds ← directives fuel true
  let roots ← many fuel .braceL rootDefinition .braceR
  return .schema ⟨text?, ds, roots, ← locFrom start⟩

def directiveLocations : List String :=
  ["QUERY", "MUTATION", "SUBSCRIPTION", "FIELD", "FRAGMENT_DEFINITION", "FRAGMENT_SPREAD",
   "INLINE_FRAGMENT", "VARIABLE_DEFINITION", "SCHEMA", "SCALAR", "OBJECT", "FIELD_DEFINITION",
   "ARGUMENT_DEFINITION", "INTERFACE", "UNION", "ENUM", "ENUM_VALUE", "INPUT_OBJECT",
   "INPUT_FIELD_DEFINITION"]

def directiveLocation : Parser Name := do
  let start ← current
  let n ← name
  if directiveLocations.contains n.value then return n else unexpected start

def directiveDefinition (fuel : Nat) : Parser Definition := do
  let start ← current
  let text? ← description?
  expectKeyword "directive"
  let _ ← expect .atSign
  let n ← name
  let args ← argumentDefinitions fuel
  let repeatable ← skipKeyword "repeatable"
  expectKeyword "on"
  let locations ← delimited fuel .pipe directiveLocation
  return .directive ⟨text?, n, args, repeatable, locations, ← locFrom start⟩

def schemaExtension (fuel : Nat) : Parser Definition := do
  let start ← current
  expectKeyword "extend"
  expectKeyword "schema"
  let ds ← directives fuel true
  let roots ← optionalMany fuel .braceL rootDefinition .braceR
  if ds.isEmpty && roots.isEmpty then unexpected (← current)
  return .schemaExtension ⟨none, ds, roots, ← locFrom start⟩

def isEmptyBody : TypeBody → Bool
  | .scalar => true
  | .object supers fields => supers.isEmpty && fields.isEmpty
  | .interface supers fields => supers.isEmpty && fields.isEmpty
  | .union members => members.isEmpty
  | .enum values => values.isEmpty
  | .inputObject fields => fields.isEmpty

def typeExtension (fuel : Nat) (keyword : String) : Parser Definition := do
  let start ← current
  expectKeyword "extend"
  expectKeyword keyword
  let n ← name
  let (ds, body) ← typeRest fuel keyword
  if ds.isEmpty && isEmptyBody body then unexpected (← current)
  return .typeExtension ⟨none, n, ds, body, ← locFrom start⟩

def typeKeywords : List String :=
  ["scalar", "type", "interface", "union", "enum", "input"]

def definition (fuel : Nat) : Parser Definition := do
  if ← peek .braceL then operation fuel
  else
    let described := isString (← current)
    let keyword ← if described then next else current
    if keyword.kind != .name then unexpected keyword
    else if keyword.value == "schema" then schemaDefinition fuel
    else if typeKeywords.contains keyword.value then typeDefinition fuel keyword.value
    else if keyword.value == "directive" then directiveDefinition fuel
    else if described then fail .misplacedDescription (← current).start
    else if (OperationKind.ofText? keyword.value).isSome then operation fuel
    else if keyword.value == "fragment" then fragment fuel
    else if keyword.value == "extend" then
      let extended ← next
      if extended.kind != .name then unexpected extended
      else if extended.value == "schema" then schemaExtension fuel
      else if typeKeywords.contains extended.value then typeExtension fuel extended.value
      else unexpected extended
    else unexpected keyword

def onlyValue (fuel : Nat) : Parser Value := do
  let _ ← expect .startOfFile
  let v ← value fuel false
  let _ ← expect .endOfFile
  return v

def document (fuel : Nat) : Parser Document :=
  return ⟨← many fuel .startOfFile (definition fuel) .endOfFile⟩

end Parser

def Parser.runOn {α : Type} (parser : Nat → Parser α) (located : Bool) (source : Source) :
    Except SyntaxFailure α := do
  let lexed := Lexer.lex source
  let start : Token := ⟨.startOfFile, "", 0, 0⟩
  let cursor : Cursor := ⟨start, start, lexed.tokens, lexed.failure?, source, located⟩
  let (result, _) ← (parser (4 * (lexed.tokens.length + 1))).run cursor
  return result

def parseWith (located : Bool) (source : Source) : Except SyntaxFailure Document :=
  Parser.runOn Parser.document located source

/--
Parse a text. The stack of the parser is taken as unlimited: there is no text whose selections,
values or types are nested too deep to be parsed.
-/
def parse (source : Source) : Except SyntaxFailure Document :=
  parseWith true source

def parseValue (source : Source) : Except SyntaxFailure Value :=
  Parser.runOn Parser.onlyValue true source

end QueryLinker.Graphql
