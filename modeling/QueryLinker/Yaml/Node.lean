import QueryLinker.Yaml.Flaw

/-!
This module contains the nodes of a YAML text with their tags, the names of their types. Tags of
the standard types begin alike; all others have no meaning here. A node may stand at several places,
also inside itself, so nodes refer to each other by their numbers.
-/

namespace QueryLinker.Yaml

inductive Tag where
  | null
  | bool
  | int
  | real
  | text
  | bytes
  | time
  | sequence
  | mapping
  | set
  | ordered
  | pairs
  | merge
  | standIn
  | other (name : String)
deriving DecidableEq, Repr, Inhabited

namespace Tag

def standard : List (String × Tag) :=
  [("null", .null), ("bool", .bool), ("int", .int), ("float", .real), ("str", .text),
   ("binary", .bytes), ("timestamp", .time), ("seq", .sequence), ("map", .mapping), ("set", .set),
   ("omap", .ordered), ("pairs", .pairs), ("merge", .merge), ("value", .standIn)]

def standardStart : String := "tag:yaml.org,2002:"

def names : List (String × Tag) :=
  standard.map fun (name, tag) => (standardStart ++ name, tag)

def ofName (name : String) : Tag :=
  (names.lookup name).getD (.other name)

def name (tag : Tag) : String :=
  match tag, names.find? fun (_, named) => named == tag with
  | .other name, _ => name
  | _, some (name, _) => name
  | _, none => ""

end Tag

abbrev NodeId := Nat

inductive NodeContent where
  | scalar (text : LooseText)
  | sequence (items : List NodeId)
  | mapping (entries : List (NodeId × NodeId))
deriving DecidableEq, Repr, Inhabited

structure Node where
  tag : Tag
  content : NodeContent
  place : Text.Position
deriving DecidableEq, Repr, Inhabited

abbrev Nodes := Array Node

namespace Node

def sort (n : Node) : NodeSort :=
  match n.content with
  | .scalar _ => .scalar
  | .sequence _ => .sequence
  | .mapping _ => .mapping

def items (n : Node) : List NodeId :=
  match n.content with
  | .sequence items => items
  | _ => []

def entries (n : Node) : List (NodeId × NodeId) :=
  match n.content with
  | .mapping entries => entries
  | _ => []

end Node

namespace Nodes

def node (ns : Nodes) (id : NodeId) : Node :=
  ns.getD id default

def change (ns : Nodes) (id : NodeId) (f : Node → Node) : Nodes :=
  ns.modify id f

end Nodes

end QueryLinker.Yaml
