import QueryLinker.Json.Basic
import QueryLinker.Text.Quoted

/-!
This module contains the display of JSON values inside messages and tables: `None`, `True` and
`False` for null and the truth values, texts in quotes, and the members of an object between braces.
-/

namespace QueryLinker.Json

def displayScalar : Json → String
  | .null => "None"
  | .bool b => if b then "True" else "False"
  | .int n => toString n
  | .real x => x.toText Number.Real.messageLayout
  | .str s => s.quoted
  | .arr _ => "[]"
  | .obj _ => "\x7b\x7d"

mutual

def display : Json → String
  | .arr (item :: items) => "[" ++ display item ++ displayItems items ++ "]"
  | .obj (member :: members) =>
    "\x7b" ++ displayMember member ++ displayMembers members ++ "\x7d"
  | value => displayScalar value
termination_by structural value => value

def displayItems : List Json → String
  | [] => ""
  | item :: items => ", " ++ display item ++ displayItems items
termination_by structural items => items

def displayMembers : List (LooseText × Json) → String
  | [] => ""
  | member :: members => ", " ++ displayMember member ++ displayMembers members
termination_by structural members => members

def displayMember : LooseText × Json → String
  | (key, value) => key.quoted ++ ": " ++ display value
termination_by structural member => member

end

def plainText : Json → String
  | .str s => s.text
  | value => value.display

def sortText : Json → String
  | .null => "NoneType"
  | .bool _ => "bool"
  | .int _ => "int"
  | .real _ => "float"
  | .str _ => "str"
  | .arr _ => "list"
  | .obj _ => "dict"

structure ExcerptLimits where
  depth : Nat
  textSize : Nat
  listSize : Nat

def excerptLimits : ExcerptLimits := ⟨3, 240, 10⟩

def excerptText (s : String) : String :=
  let size := excerptLimits.textSize
  if s.length > size then
    let first := (size - 3) / 2
    let last := size - 3 - first
    String.ofList (s.toList.take first) ++ "..." ++ String.ofList (s.toList.drop (s.length - last))
  else s

def excerptItems (items : List String) : List String :=
  let size := excerptLimits.listSize
  if items.length > size then
    let first := size / 2
    items.take first ++ ["..."] ++ items.drop (items.length - (first - 1))
  else items

def excerpt : Nat → Json → String
  | _, .null => "None"
  | _, .bool b => if b then "True" else "False"
  | _, .real x => x.toText Number.Real.messageLayout
  | _, .int n => excerptText (toString n)
  | _, .str s => excerptText s.quoted
  | _, .arr [] => "[]"
  | _, .obj [] => "\x7b\x7d"
  | 0, .arr _ => "[...]"
  | 0, .obj _ => "\x7b...\x7d"
  | depth + 1, .arr items =>
    "[" ++ ", ".intercalate (excerptItems (items.map (excerpt depth))) ++ "]"
  | depth + 1, .obj members =>
    let shown := members.map fun (key, value) =>
      excerptText key.quoted ++ ": " ++ excerpt depth value
    "\x7b" ++ ", ".intercalate (excerptItems shown) ++ "\x7d"

end QueryLinker.Json
