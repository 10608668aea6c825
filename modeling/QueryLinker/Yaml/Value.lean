import QueryLinker.Json.Display
import QueryLinker.Number.Arithmetic
import QueryLinker.Time.Timestamp

/-!
This module contains the values of YAML texts. Besides those of JSON there are bytes, days, points
in time, sets, pairs, and mappings with keys that are no texts. A collection may be a part of
itself.
-/

namespace QueryLinker.Yaml

inductive Value where
  | null
  | bool (b : Bool)
  | int (n : Int)
  | real (x : Number.Real)
  | text (s : LooseText)
  | bytes (bs : List UInt8)
  | date (d : Date)
  | time (t : Timestamp)
  | list (items : List Value)
  | pair (first second : Value)
  | set (items : List Value)
  | map (members : List (Value × Value))
  | enclosing (isList : Bool)
deriving BEq, Repr, Inhabited

namespace Value

mutual

def ofJson : Json → Value
  | .null => .null
  | .bool b => .bool b
  | .int n => .int n
  | .real x => .real x
  | .str s => .text s
  | .arr items => .list (ofItems items)
  | .obj members => .map (ofMembers members)
termination_by structural v => v

def ofItems : List Json → List Value
  | [] => []
  | item :: items => ofJson item :: ofItems items
termination_by structural items => items

def ofMembers : List (LooseText × Json) → List (Value × Value)
  | [] => []
  | member :: members => ofMember member :: ofMembers members
termination_by structural members => members

def ofMember : LooseText × Json → Value × Value
  | (key, v) => (.text key, ofJson v)
termination_by structural member => member

end

def texts (xs : List String) : Value :=
  .list (xs.map fun (x : String) => .text x)

def isPresent : Value → Bool
  | .null => false
  | .bool b => b
  | .int n => n != 0
  | .real x => !x.isZero
  | .text s => !s.isEmpty
  | .bytes bs => !bs.isEmpty
  | .list items => !items.isEmpty
  | .set items => !items.isEmpty
  | .map members => !members.isEmpty
  | _ => true

def elements? : Value → Option (List Value)
  | .text s => some (s.pieces.map .text)
  | .bytes bs => some (bs.map fun b => .int (Int.ofNat b.toNat))
  | .list items => some items
  | .pair first second => some [first, second]
  | .set items => some items
  | .map members => some (members.map (·.1))
  | _ => none

def int? : Value → Option Int
  | .bool b => some (if b then 1 else 0)
  | .int n => some n
  | _ => none

def sameKey : Value → Value → Bool
  | .text a, .text b => a == b
  | .bytes a, .bytes b => a == b
  | .null, .null => true
  | .date a, .date b => a == b
  | .time a, .time b =>
    match a.instant?, b.instant? with
    | some a, some b => a == b
    | none, none => a.clock == b.clock
    | _, _ => false
  -- Numbers and truth values are compared as numbers.
  | .real x, .real y => x.same y
  | .real x, v => v.int?.any fun n => x.isInt n
  | v, .real x => v.int?.any fun n => x.isInt n
  | v, w => v.int?.isSome && v.int? == w.int?

def putMember {α : Type} (key : Value) (a : α) : List (Value × α) → List (Value × α)
  | [] => [(key, a)]
  | (k, b) :: rest => if k.sameKey key then (k, a) :: rest else (k, b) :: putMember key a rest

def get? (key : String) : Value → Option Value
  | .map members => (members.find? fun (k, _) => k.sameKey (.text key)).map (·.2)
  | _ => none

def sortText : Value → String
  | .null => "NoneType"
  | .bool _ => "bool"
  | .int _ => "int"
  | .real _ => "float"
  | .text _ => "str"
  | .bytes _ => "bytes"
  | .date _ => "datetime.date"
  | .time _ => "datetime.datetime"
  | .list _ => "list"
  | .pair _ _ => "tuple"
  | .set _ => "set"
  | .map _ => "dict"
  | .enclosing isList => if isList then "list" else "dict"

def shortSortText : Value → String
  | .date _ => "date"
  | .time _ => "datetime"
  | v => v.sortText

def keyFlaw? : Value → Option Value
  | .pair first second => (keyFlaw? first).or (keyFlaw? second)
  | .list items => some (.list items)
  | .set items => some (.set items)
  | .map members => some (.map members)
  | .enclosing isList => some (.enclosing isList)
  | _ => none

/-! Display. -/

def byteText (quote : Char) (b : UInt8) : List Char :=
  let c := Char.ofNat b.toNat
  if c == quote || c == '\\' then ['\\', c]
  else if c == '\n' then ['\\', 'n']
  else if c == '\r' then ['\\', 'r']
  else if c == '\t' then ['\\', 't']
  else if 0x20 ≤ b && b < 0x7f then [c]
  else '\\' :: 'x' :: Text.hexDigits 2 b.toNat

def bytesText (bs : List UInt8) : String :=
  let holds (c : Char) : Bool := bs.any fun b => b.toNat == c.toNat
  let quote := if holds '\'' && !holds '"' then '"' else '\''
  String.ofList ('b' :: quote :: bs.flatMap (byteText quote) ++ [quote])

def dateText (d : Date) : String :=
  "datetime.date(" ++ ", ".intercalate ([d.year, d.month, d.day].map toString) ++ ")"

def zoneText (micros : Int) : String :=
  if micros = 0 then "datetime.timezone.utc"
  else "datetime.timezone(" ++ Timestamp.Flaw.spanText micros ++ ")"

def timeText (t : Timestamp) : String :=
  let parts := [t.year, t.month, t.day, t.hour, t.minute] ++
    (if t.second = 0 && t.micros = 0 then [] else [t.second]) ++
    (if t.micros = 0 then [] else [t.micros])
  "datetime.datetime(" ++
    ", ".intercalate (parts.map toString ++
      (t.offset?.map fun micros => "tzinfo=" ++ zoneText micros).toList) ++ ")"

def displayScalar : Value → String
  | .null => "None"
  | .bool b => if b then "True" else "False"
  | .int n => toString n
  | .real x => x.toText Number.Real.messageLayout
  | .text s => s.quoted
  | .bytes bs => bytesText bs
  | .date d => dateText d
  | .time t => timeText t
  | .enclosing true => "[...]"
  | .enclosing false => "\x7b...\x7d"
  | .set _ => "set()"
  | .map _ => "\x7b\x7d"
  | _ => "[]"

mutual

def display : Value → String
  | .list (item :: items) => "[" ++ display item ++ displayItems items ++ "]"
  | .pair first second => "(" ++ display first ++ ", " ++ display second ++ ")"
  | .set (item :: items) => "\x7b" ++ display item ++ displayItems items ++ "\x7d"
  | .map (member :: members) =>
    "\x7b" ++ displayMember member ++ displayMembers members ++ "\x7d"
  | v => displayScalar v
termination_by structural v => v

def displayItems : List Value → String
  | [] => ""
  | item :: items => ", " ++ display item ++ displayItems items
termination_by structural items => items

def displayMembers : List (Value × Value) → String
  | [] => ""
  | member :: members => ", " ++ displayMember member ++ displayMembers members
termination_by structural members => members

def displayMember : Value × Value → String
  | (key, v) => display key ++ ": " ++ display v
termination_by structural member => member

end

def plainText : Value → String
  | .text s => s.text
  | v => v.display

end Value

end QueryLinker.Yaml
