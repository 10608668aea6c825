import QueryLinker.Json.Basic
import QueryLinker.Number.Integer

/-!
This module contains the two texts that a JSON value is written as: indented by two blanks, with the
members in their order, for readers; and on one line, with the members sorted by key, for digests.
Both are plain ASCII: other characters are escaped, those beyond sixteen bits as surrogate pairs.

The text for readers is written piece by piece. Integers that are too long and values that are
nested too deep end the writing, and the pieces in front of them stay.
-/

namespace QueryLinker.Json

def hexDigit (n : Nat) : Char :=
  if n < 10 then Char.ofNat (48 + n) else Char.ofNat (87 + n)

def escapeUnit (n : Nat) : List Char :=
  ['\\', 'u', hexDigit (n / 4096 % 16), hexDigit (n / 256 % 16), hexDigit (n / 16 % 16),
    hexDigit (n % 16)]

def escapeChar (c : Char) : List Char :=
  if c == '"' then ['\\', '"']
  else if c == '\\' then ['\\', '\\']
  else if c == '\n' then ['\\', 'n']
  else if c == '\r' then ['\\', 'r']
  else if c == '\t' then ['\\', 't']
  else if c == '\x0c' then ['\\', 'f']
  else if c == '\x08' then ['\\', 'b']
  else if 0x20 ≤ c.toNat && c.toNat ≤ 0x7e then [c]
  else if c.toNat < 0x10000 then escapeUnit c.toNat
  else
    let n := c.toNat - 0x10000
    escapeUnit (0xd800 + n / 0x400) ++ escapeUnit (0xdc00 + n % 0x400)

def escapeLetter : Letter → List Char
  | .char c => escapeChar c
  | .half unit => escapeUnit unit

def stringText (s : LooseText) : List Char :=
  '"' :: s.letters.flatMap escapeLetter ++ ['"']

def lineStart (depth : Nat) : List Char :=
  '\n' :: List.replicate (2 * depth) ' '

def scalarText : Json → List Char
  | .null => "null".toList
  | .bool b => (if b then "true" else "false").toList
  | .int n => (toString n).toList
  | .real x => (x.toText Number.Real.jsonLayout).toList
  | .str s => stringText s
  | .arr _ => ['[', ']']
  | .obj _ => ['{', '}']

mutual

def indented (depth : Nat) : Json → List Char
  | .arr (item :: items) =>
    '[' :: lineStart (depth + 1) ++ indented (depth + 1) item ++
      indentedItems (depth + 1) items ++ lineStart depth ++ [']']
  | .obj (member :: members) =>
    '{' :: lineStart (depth + 1) ++ indentedMember (depth + 1) member ++
      indentedMembers (depth + 1) members ++ lineStart depth ++ ['}']
  | value => scalarText value
termination_by structural value => value

def indentedItems (depth : Nat) : List Json → List Char
  | [] => []
  | item :: items => ',' :: lineStart depth ++ indented depth item ++ indentedItems depth items
termination_by structural items => items

def indentedMembers (depth : Nat) : List (LooseText × Json) → List Char
  | [] => []
  | member :: members =>
    ',' :: lineStart depth ++ indentedMember depth member ++ indentedMembers depth members
termination_by structural members => members

def indentedMember (depth : Nat) : LooseText × Json → List Char
  | (key, value) => stringText key ++ [':', ' '] ++ indented depth value
termination_by structural member => member

end

mutual

def compact : Json → List Char
  | .arr (item :: items) => '[' :: compact item ++ compactItems items ++ [']']
  | .obj (member :: members) =>
    '{' :: compactMember member ++ compactMembers members ++ ['}']
  | value => scalarText value
termination_by structural value => value

def compactItems : List Json → List Char
  | [] => []
  | item :: items => ',' :: ' ' :: compact item ++ compactItems items
termination_by structural items => items

def compactMembers : List (LooseText × Json) → List Char
  | [] => []
  | member :: members => ',' :: ' ' :: compactMember member ++ compactMembers members
termination_by structural members => members

def compactMember : LooseText × Json → List Char
  | (key, value) => stringText key ++ [':', ' '] ++ compact value
termination_by structural member => member

end

def sortMembers (members : List (LooseText × Json)) : List (LooseText × Json) :=
  members.mergeSort fun a b => a.1.le b.1

mutual

def sorted : Json → Json
  | .arr items => .arr (sortedItems items)
  | .obj members => .obj (sortMembers (sortedMembers members))
  | value => value
termination_by structural value => value

def sortedItems : List Json → List Json
  | [] => []
  | item :: items => sorted item :: sortedItems items
termination_by structural items => items

def sortedMembers : List (LooseText × Json) → List (LooseText × Json)
  | [] => []
  | member :: members => sortedMember member :: sortedMembers members
termination_by structural members => members

def sortedMember : LooseText × Json → LooseText × Json
  | (key, value) => (key, sorted value)
termination_by structural member => member

end

def pretty (value : Json) : String :=
  String.ofList (indented 0 value)

inductive WriteFlaw where
  | integerTooLong
  | tooDeep
deriving DecidableEq, Repr

def WriteFlaw.message : WriteFlaw → String
  | .integerTooLong =>
    "Exceeds the limit (" ++ toString Number.maxIntegerDigits ++
      " digits) for integer string conversion; " ++
      "use sys.set_int_max_str_digits() to increase the limit"
  | .tooDeep => "maximum recursion depth exceeded"

structure Written where
  text : List Char := []
  flaw? : Option WriteFlaw := none
deriving DecidableEq, Repr

namespace Written

def ofText (text : List Char) : Written :=
  { text }

def ofFlaw (flaw : WriteFlaw) : Written :=
  { flaw? := some flaw }

def append (first second : Written) : Written :=
  match first.flaw? with
  | some _ => first
  | none => ⟨first.text ++ second.text, second.flaw?⟩

instance : Append Written := ⟨append⟩

end Written

def scalarFlaw? (nesting depth : Nat) : Json → Option WriteFlaw
  | .int n =>
    if Number.maxIntegerDigits < (Nat.toDigits 10 n.natAbs).length then some .integerTooLong
    else none
  -- To convert a number with a fraction is a call of its own.
  | .real _ => if depth < nesting then none else some .tooDeep
  | _ => none

def writtenScalar (nesting depth : Nat) (front : List Char) (value : Json) : Written :=
  match scalarFlaw? nesting depth value with
  | some flaw => .ofFlaw flaw
  | none => .ofText (front ++ scalarText value)

def writtenInside (nesting depth : Nat) (inside : Written) : Written :=
  if depth < nesting then inside else .ofFlaw .tooDeep

mutual

def written (nesting depth : Nat) (front : List Char) : Json → Written
  | .arr (item :: items) =>
    .ofText front ++ writtenInside nesting depth
      (written nesting (depth + 1) ('[' :: lineStart (depth + 1)) item ++
        writtenItems nesting (depth + 1) items ++ .ofText (lineStart depth ++ [']']))
  | .obj (member :: members) =>
    .ofText front ++ writtenInside nesting depth
      (.ofText ('{' :: lineStart (depth + 1)) ++ writtenMember nesting (depth + 1) member ++
        writtenMembers nesting (depth + 1) members ++ .ofText (lineStart depth ++ ['}']))
  | value => writtenScalar nesting depth front value
termination_by structural value => value

def writtenItems (nesting depth : Nat) : List Json → Written
  | [] => {}
  | item :: items =>
    written nesting depth (',' :: lineStart depth) item ++ writtenItems nesting depth items
termination_by structural items => items

def writtenMembers (nesting depth : Nat) : List (LooseText × Json) → Written
  | [] => {}
  | member :: members =>
    .ofText (',' :: lineStart depth) ++ writtenMember nesting depth member ++
      writtenMembers nesting depth members
termination_by structural members => members

def writtenMember (nesting depth : Nat) : LooseText × Json → Written
  | (key, value) =>
    .ofText (stringText key ++ [':', ' ']) ++ written nesting depth [] value
termination_by structural member => member

end

def text (nesting : Nat) (value : Json) : Except WriteFlaw String :=
  let w := written nesting 0 [] value
  match w.flaw? with
  | some flaw => .error flaw
  | none => .ok (String.ofList w.text)

def canonicalText (value : Json) : String :=
  String.ofList (compact (sorted value))

end QueryLinker.Json
