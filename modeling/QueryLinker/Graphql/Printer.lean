import QueryLinker.Graphql.BlockString
import QueryLinker.Graphql.Syntax

/-!
This module contains the printer of syntax trees. The printed text depends on the structure of a
tree alone, not on the text it was parsed from. Selections and the like are indented by two blanks.
-/

namespace QueryLinker.Graphql.Printer

def join (texts : List String) (separator : String) : String :=
  separator.intercalate (texts.filter fun s => !s.isEmpty)

def wrap (before text after : String) : String :=
  if text.isEmpty then "" else before ++ text ++ after

def indent (text : String) : String :=
  let indented := text.toList.flatMap fun c => if c == '\n' then ['\n', ' ', ' '] else [c]
  wrap "  " (String.ofList indented) ""

def block (texts : List String) : String :=
  wrap "\x7b\n" (indent (join texts "\n")) "\n\x7d"

def stringChar (c : Char) : List Char :=
  if c == '"' then ['\\', '"']
  else if c == '\\' then ['\\', '\\']
  else if c == '\x08' then ['\\', 'b']
  else if c == '\t' then ['\\', 't']
  else if c == '\n' then ['\\', 'n']
  else if c == '\x0c' then ['\\', 'f']
  else if c == '\r' then ['\\', 'r']
  else if c.toNat < 0x20 || (0x7f ≤ c.toNat && c.toNat < 0xa0) then
    let digits := (Nat.toDigits 16 c.toNat).map Char.toUpper
    '\\' :: 'u' :: List.replicate (4 - digits.length) '0' ++ digits
  else [c]

def string (s : String) : String :=
  String.ofList ('"' :: s.toList.flatMap stringChar ++ ['"'])

mutual

def value : Value → String
  | .var v => "$" ++ v.name.value
  | .int text _ => text
  | .float text _ => text
  | .string s isBlock _ => if isBlock then BlockString.print s else string s
  | .boolean b _ => if b then "true" else "false"
  | .null _ => "null"
  | .enum name _ => name
  | .list items _ => "[" ++ join (values items) ", " ++ "]"
  | .object fields _ => "\x7b" ++ join (objectFields fields) ", " ++ "\x7d"
termination_by structural v => v

def values : List Value → List String
  | [] => []
  | v :: vs => value v :: values vs
termination_by structural vs => vs

def objectFields : List ObjectField → List String
  | [] => []
  | f :: fs => objectField f :: objectFields fs
termination_by structural fs => fs

def objectField : ObjectField → String
  | .mk name v _ => name.value ++ ": " ++ value v
termination_by structural f => f

end

def typeRef : TypeRef → String
  | .named t => t.name.value
  | .list item _ => "[" ++ typeRef item ++ "]"
  | .nonNull t _ => typeRef t ++ "!"

def argument (a : Argument) : String :=
  a.name.value ++ ": " ++ value a.value

def arguments (args : List Argument) : String :=
  wrap "(" (join (args.map argument) ", ") ")"

def directive (d : Directive) : String :=
  "@" ++ d.name.value ++ arguments d.arguments

def directives (ds : List Directive) : String :=
  join (ds.map directive) " "

def maxLineSize : Nat := 80

def fieldLine (f : FieldHead) : String :=
  let start := (match f.alias? with | some a => wrap "" a.value ": " | none => "") ++ f.name.value
  let line := start ++ arguments f.arguments
  if maxLineSize < line.length then
    start ++ wrap "(\n" (indent (join (f.arguments.map argument) "\n")) "\n)"
  else line

mutual

def selection : Selection → String
  | .field f set => join [fieldLine f, directives f.directives, selectionSet set] " "
  | .spread s => "..." ++ s.name.value ++ wrap " " (directives s.directives) ""
  | .inline f set =>
    let condition :=
      match f.typeCondition? with
      | some t => wrap "on " t.name.value ""
      | none => ""
    join ["...", condition, directives f.directives, selectionSet set] " "
termination_by structural s => s

def selections : List Selection → List String
  | [] => []
  | s :: ss => selection s :: selections ss
termination_by structural ss => ss

def selectionSet : SelectionSet → String
  | .absent => ""
  | .braces ss _ => block (selections ss)
termination_by structural set => set

end

def variableDefinition (v : VariableDefinition) : String :=
  let initial := match v.default? with | some d => wrap " = " (value d) "" | none => ""
  "$" ++ v.var.name.value ++ ": " ++ typeRef v.type ++ initial ++
    wrap " " (directives v.directives) ""

def operation (o : OperationDefinition) : String :=
  let name := match o.name? with | some n => n.value | none => ""
  let definitions := wrap "(" (join (o.variableDefinitions.map variableDefinition) ", ") ")"
  let head := join [o.kind.text, join [name, definitions] "", directives o.directives] " "
  -- A query with nothing but selections is printed as they are.
  (if head == "query" then "" else head ++ " ") ++ selectionSet o.selectionSet

def fragment (f : FragmentDefinition) : String :=
  "fragment " ++ f.name.value ++ " on " ++ f.typeCondition.name.value ++ " " ++
    wrap "" (directives f.directives) " " ++ selectionSet f.selectionSet

def description : Option Description → String
  | some d => wrap "" (if d.block then BlockString.print d.value else string d.value) "\n"
  | none => ""

def inputValueDefinition (d : InputValueDefinition) : String :=
  let initial := match d.default? with | some v => wrap "= " (value v) "" | none => ""
  description d.description? ++
    join [d.name.value ++ ": " ++ typeRef d.type, initial, directives d.directives] " "

def argumentDefinitions (args : List InputValueDefinition) : String :=
  let texts := args.map inputValueDefinition
  if texts.any fun s => s.toList.contains '\n' then
    wrap "(\n" (indent (join texts "\n")) "\n)"
  else wrap "(" (join texts ", ") ")"

def fieldDefinition (d : FieldDefinition) : String :=
  description d.description? ++ d.name.value ++ argumentDefinitions d.arguments ++ ": " ++
    typeRef d.type ++ wrap " " (directives d.directives) ""

def enumValueDefinition (d : EnumValueDefinition) : String :=
  description d.description? ++ join [d.name.value, directives d.directives] " "

def rootDefinition (d : RootDefinition) : String :=
  d.kind.text ++ ": " ++ d.type.name.value

def implementations (interfaces : List NamedType) : String :=
  wrap "implements " (join (interfaces.map (·.name.value)) " & ") ""

def typeDefinition (d : TypeDefinition) : String :=
  let ds := directives d.directives
  let rest :=
    match d.body with
    | .scalar => [ds]
    | .object interfaces fields =>
      [implementations interfaces, ds, block (fields.map fieldDefinition)]
    | .interface interfaces fields =>
      [implementations interfaces, ds, block (fields.map fieldDefinition)]
    | .union types => [ds, wrap "= " (join (types.map (·.name.value)) " | ") ""]
    | .enum values => [ds, block (values.map enumValueDefinition)]
    | .inputObject fields => [ds, block (fields.map inputValueDefinition)]
  join (d.body.keyword :: d.name.value :: rest) " "

def schemaDefinition (d : SchemaDefinition) : String :=
  join ["schema", directives d.directives, block (d.roots.map rootDefinition)] " "

def directiveDefinition (d : DirectiveDefinition) : String :=
  description d.description? ++ "directive @" ++ d.name.value ++ argumentDefinitions d.arguments ++
    (if d.repeatable then " repeatable" else "") ++ " on " ++
    join (d.locations.map (·.value)) " | "

def definition : Definition → String
  | .operation o => operation o
  | .fragment f => fragment f
  | .schema d => description d.description? ++ schemaDefinition d
  | .type d => description d.description? ++ typeDefinition d
  | .directive d => directiveDefinition d
  | .schemaExtension d => "extend " ++ schemaDefinition d
  | .typeExtension d => "extend " ++ typeDefinition d

end Printer

def Definition.text (d : Definition) : String :=
  Printer.definition d

def Document.text (d : Document) : String :=
  Printer.join (d.definitions.map (·.text)) "\n\n"

end QueryLinker.Graphql
