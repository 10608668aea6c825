import QueryLinker.Keyed
import QueryLinker.Link.Table
import QueryLinker.Schema.Check
import QueryLinker.Validation.Validate

/-!
This module contains the collection of definitions: each document is checked by itself, and the
definitions of those that pass go into one table.
-/

namespace QueryLinker

inductive PassFailure where
  | invalidSchema (flaws : List String)
  | rule (failure : Validation.Failure)
  | noPath
  | setting (message : String)
deriving Repr

namespace PassFailure

def message? : PassFailure → Option String
  | .invalidSchema flaws => some (Schema.joinMessages flaws)
  | .rule (.broken error) => error.display?
  | .rule (.number flaw) => some flaw.message
  | .noPath => some "no path specified"
  | .setting message => some message

end PassFailure

def SourceDocument.arrange (docs : List SourceDocument) : List SourceDocument :=
  (Keyed.ofList (docs.map fun d => (d.path, d))).map (·.2)

def SourceDocument.structuralProblem (d : SourceDocument) (error : Graphql.Error) : Problem :=
  .structural ⟨d.path, d.templateOf (error.nodes.head?.bind id)⟩ error

def checkSchema (s : Schema) : Except PassFailure Unit :=
  if s.flaws.isEmpty then .ok () else .error (.invalidSchema s.flaws)

namespace DefinitionTable

def collectDocument (s : Schema) (t : DefinitionTable) (d : SourceDocument) :
    Except PassFailure (DefinitionTable × List Event) := do
  match Validation.validateStructure s d.document with
  | .error failure => throw (.rule failure)
  | .ok [] => return t.addDocument d
  | .ok errors =>
    return (t, errors.map (fun e => .problem (d.structuralProblem e)) ++
      [.rejected d.path errors.length])

def collectDocuments (s : Schema) (t : DefinitionTable) :
    List SourceDocument → Except PassFailure (DefinitionTable × List Event)
  | [] => .ok (t, [])
  | d :: ds => do
    let (t, events) ← t.collectDocument s d
    let (t, later) ← t.collectDocuments s ds
    return (t, events ++ later)

def collect (s : Schema) (docs : List SourceDocument) :
    Except PassFailure (DefinitionTable × List Event) := do
  if !docs.isEmpty then checkSchema s
  let (t, events) ← empty.collectDocuments s docs
  return (t, events ++ [.collected t.operations.length t.fragments.length])

end DefinitionTable

end QueryLinker
