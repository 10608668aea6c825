import QueryLinker.Link.Event

/-!
This module contains the table of definitions: all operations in the order in which they were met,
and the fragments by name. A name with different texts is in conflict: it is taken out of the table
for good, and the first fragment of each of its texts is kept to report against.
-/

namespace QueryLinker

structure DefinitionTable where
  fragments : List (String × Fragment) := []
  operations : List Operation := []
  conflicts : List (String × List Fragment) := []
deriving Repr, Inhabited

namespace DefinitionTable

def empty : DefinitionTable := {}

def get? (t : DefinitionTable) (name : String) : Option Fragment :=
  t.fragments.lookup name

def contains (t : DefinitionTable) (name : String) : Bool :=
  (t.get? name).isSome

def fragmentNames (t : DefinitionTable) : List String :=
  t.fragments.map (·.1)

def erase (t : DefinitionTable) (name : String) : DefinitionTable :=
  { t with fragments := t.fragments.filter fun entry => entry.1 != name }

def addOperation (t : DefinitionTable) (o : Operation) : DefinitionTable :=
  { t with operations := t.operations ++ [o] }

def addConflict (f : Fragment) (conflicts : List (String × List Fragment)) :
    List (String × List Fragment) :=
  conflicts.map fun (name, bodies) =>
    if name == f.name && bodies.all fun body => body.text != f.text then (name, bodies ++ [f])
    else (name, bodies)

/--
Add a fragment. The first fragment of a name is kept; one with the same text is the same fragment
again. One with another text is reported, and the name is in conflict from then on: each further
fragment of the name is reported against the first one whose text differs.
-/
def addFragment (t : DefinitionTable) (f : Fragment) : DefinitionTable × List Event :=
  match t.conflicts.lookup f.name with
  | some bodies =>
    let t := { t with conflicts := addConflict f t.conflicts }
    match bodies.find? fun body => body.text != f.text with
    | some other => (t, [.problem (.duplicateFragment f other)])
    | none => (t, [])
  | none =>
    match t.get? f.name with
    | none => ({ t with fragments := t.fragments ++ [(f.name, f)] }, [])
    | some existing =>
      if f.text == existing.text then (t, [.identical f existing])
      else
        let t := t.erase f.name
        ({ t with conflicts := t.conflicts ++ [(f.name, [existing, f])] },
          [.problem (.duplicateFragment f existing)])

def addExtract (file : String) (t : DefinitionTable) : Extract → DefinitionTable × List Event
  | .operation o => (t.addOperation o, [])
  | .fragment f => t.addFragment f
  | .other d => (t, [.ignored d file])

def addExtracts (file : String) (t : DefinitionTable) : List Extract → DefinitionTable × List Event
  | [] => (t, [])
  | x :: xs =>
    let (t, events) := t.addExtract file x
    let (t, later) := t.addExtracts file xs
    (t, events ++ later)

def addDocument (t : DefinitionTable) (d : SourceDocument) : DefinitionTable × List Event :=
  t.addExtracts d.path d.extracts

end DefinitionTable

end QueryLinker
