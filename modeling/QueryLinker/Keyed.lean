/-!
This module contains lists of items under keys, in which each key stands once and keeps the place
where it was first put.
-/

namespace QueryLinker.Keyed

variable {κ α : Type} [BEq κ]

def put (key : κ) (a : α) : List (κ × α) → List (κ × α)
  | [] => [(key, a)]
  | (k, b) :: rest => if k == key then (k, a) :: rest else (k, b) :: put key a rest

def ofList (items : List (κ × α)) : List (κ × α) :=
  items.foldl (fun found (key, a) => put key a found) []

end QueryLinker.Keyed
