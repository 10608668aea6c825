import QueryLinker.Files.Tree
import QueryLinker.Link.Problem
import QueryLinker.Project.TaggedTemplate

/-!
This module contains source files and the documents in them. A file of GraphQL is one document as a
whole; of any other file the tagged templates make up the document.
-/

namespace QueryLinker

inductive ReadFailure where
  | file (failure : FileFailure)
  | notText (flaw : Text.Utf8.Flaw)
  | cutEscape
deriving DecidableEq, Repr

namespace ReadFailure

def message : ReadFailure → String
  | .file failure => failure.message
  | .notText flaw => flaw.message
  | .cutEscape => "string index out of range"

end ReadFailure

def FileTree.readText (t : FileTree) (cwd path : String) : Except ReadFailure String :=
  match t.read cwd path with
  | .error failure => .error (.file failure)
  | .ok content => (textOfBytes content).mapError .notText

namespace SourceFile

def graphqlEndings : List String :=
  [".graphql", ".gql"]

def isGraphql (path : String) : Bool :=
  graphqlEndings.any fun ending => path.endsWith ending

def templates (path text : String) : List TaggedTemplate :=
  if isGraphql path then
    if Text.isBlankText text then [] else [⟨text, {}, false, false⟩]
  else TaggedTemplate.extract text

def parseTemplates (path : String) (part : Nat) :
    List TaggedTemplate → Except Problem (List (TemplateLocation × Graphql.Definition))
  | [] => .ok []
  | t :: ts => do
    match Graphql.parse { origin := ⟨path, part⟩, body := t.body } with
    | .error failure => throw (.unparsable ⟨path, t.place⟩ failure)
    | .ok d =>
      return d.definitions.map (fun x => (t.place, x)) ++ (← parseTemplates path (part + 1) ts)

def document? (path text : String) : Except Problem (Option SourceDocument) :=
  match templates path text with
  | [] => .ok none
  | first :: others => do
    let templates := first :: others
    let definitions ← parseTemplates path 0 templates
    return some
      { path, document := ⟨definitions.map (·.2)⟩, template := first.place
        templates := definitions.map (·.1), isHook := templates.any (·.isHook)
        isStaticQuery := templates.any (·.isStaticQuery)
        hash := (Json.ofStrings (templates.map (·.body))).fingerprint }

def text (t : FileTree) (cwd path : String) : Except ReadFailure String :=
  t.readText cwd (toString (Path.ofString path))

def readAll (t : FileTree) (cwd : String) :
    List String → Except ReadFailure (List SourceDocument × List Problem)
  | [] => .ok ([], [])
  | path :: paths => do
    let text ← text t cwd path
    let (documents, problems) ←
      match document? path text with
      | .ok d? => pure (d?.toList, [])
      | .error (.unparsable site failure) =>
        if failure.isCutEscape then throw .cutEscape else pure ([], [.unparsable site failure])
      | .error problem => pure ([], [problem])
    let (otherDocuments, otherProblems) ← readAll t cwd paths
    return (documents ++ otherDocuments, problems ++ otherProblems)

end SourceFile

end QueryLinker
