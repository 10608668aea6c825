import QueryLinker.Number.Real
import QueryLinker.Text.LooseText

/-!
This module contains JSON values. The members of an object keep the order in which they are written,
numbers without fraction and exponent are integers of any size, and all others are floating point
numbers. Texts may hold halves of surrogate pairs.
-/

namespace QueryLinker

inductive Json where
  | null
  | bool (b : Bool)
  | int (n : Int)
  | real (x : Number.Real)
  | str (s : LooseText)
  | arr (items : List Json)
  | obj (members : List (LooseText × Json))
deriving BEq, Repr, Inhabited

namespace Json

def get? (key : String) : Json → Option Json
  | .obj members => members.lookup (LooseText.ofString key)
  | _ => none

theorem sizeOf_lt_of_get? {v member : Json} {key : String} (h : v.get? key = some member) :
    sizeOf member < sizeOf v := by
  cases v with
  | obj members =>
    simp only [get?] at h
    induction members with
    | nil => simp at h
    | cons m ms ih =>
      obtain ⟨k, value⟩ := m
      simp only [List.lookup_cons] at h
      split at h
      · simp only [Option.some.injEq] at h
        subst h
        simp
        omega
      · have := ih h
        simp at this ⊢
        omega
  | _ => simp [get?] at h

def setMember (key : LooseText) (value : Json) :
    List (LooseText × Json) → List (LooseText × Json)
  | [] => [(key, value)]
  -- A key that is there keeps its place.
  | (k, v) :: rest => if k == key then (k, value) :: rest else (k, v) :: setMember key value rest

mutual

def levels : Json → Nat
  | .arr items => itemsLevels items + 1
  | .obj members => membersLevels members + 1
  | _ => 0
termination_by structural value => value

def itemsLevels : List Json → Nat
  | [] => 0
  | item :: items => max (levels item) (itemsLevels items)
termination_by structural items => items

def membersLevels : List (LooseText × Json) → Nat
  | [] => 0
  | member :: members => max (memberLevels member) (membersLevels members)
termination_by structural members => members

def memberLevels : LooseText × Json → Nat
  | (_, value) => levels value
termination_by structural member => member

end

def isPresent : Json → Bool
  | .null => false
  | .bool b => b
  | .int n => n != 0
  | .real x => !x.isZero
  | .str s => !s.isEmpty
  | .arr items => !items.isEmpty
  | .obj members => !members.isEmpty

def elements? : Json → Option (List Json)
  | .arr items => some items
  | .obj members => some (members.map fun (key, _) => .str key)
  | .str text => some (text.pieces.map .str)
  | _ => none

def ofString (s : String) : Json :=
  .str s

def ofOption : Option String → Json
  | some s => .str s
  | none => .null

def ofStrings (xs : List String) : Json :=
  .arr (xs.map ofString)

def string? : Json → Option String
  | .str s => s.string?
  | _ => none

def object (members : List (String × Json)) : Json :=
  .obj (members.map fun (key, value) => (.ofString key, value))

end Json

end QueryLinker
