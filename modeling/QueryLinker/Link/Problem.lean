import QueryLinker.Graphql.Error
import QueryLinker.Link.CompileError
import QueryLinker.Link.Definition

/-!
This module contains the problems that are met while files are compiled, with everything they are
about, and the compile errors that report them.
-/

namespace QueryLinker

open Graphql

inductive Problem where
  | unparsable (site : Site) (failure : SyntaxFailure)
  | structural (site : Site) (error : Graphql.Error)
  | duplicateFragment (fragment other : Fragment)
  | laterOperation (operation first : Operation)
  | unknownFragment (operation : Operation) (spread : FragmentSpread) (containing : Site)
      (closest? : Option String)
  | fragmentCycle (operation : Operation) (spread : FragmentSpread) (containing : Site)
      (cycle : List String)
  | invalid (operation : Operation) (error : Graphql.Error) (owner? : Option Site)
deriving Repr

namespace Problem

def kind : Problem → ErrorKind
  | .unparsable _ _ => .graphqlSyntaxError
  | .structural _ _ => .structuralValidationFailure
  | .duplicateFragment _ _ => .duplicateFragment
  | .laterOperation _ _ => .multipleRootOperations
  | .unknownFragment _ _ _ _ => .unknownFragment
  | .fragmentCycle _ _ _ _ => .fragmentCycle
  | .invalid _ _ _ => .schemaValidationFailure

def file : Problem → String
  | .unparsable site _ => site.file
  | .structural site _ => site.file
  | .duplicateFragment fragment _ => fragment.site.file
  | .laterOperation operation _ => operation.site.file
  | .unknownFragment operation _ _ _ => operation.site.file
  | .fragmentCycle operation _ _ _ => operation.site.file
  | .invalid operation _ _ => operation.site.file

def message : Problem → String
  | .unparsable _ failure => failure.message
  | .structural _ error => error.message
  | .duplicateFragment fragment _ =>
    "Found two different GraphQL fragments with identical name \"" ++ fragment.name ++
      "\". Fragment names must be unique"
  | .laterOperation operation first =>
    "Multiple \"root\" queries found: \"" ++ operation.name ++ "\" and \"" ++ first.name ++
      "\". Only one query per file is supported; combine them into a single query."
  | .unknownFragment _ spread _ closest? =>
    "The fragment \"" ++ spread.name.value ++ "\" does not exist." ++
      match closest? with
      | some closest => if closest.isEmpty then "" else " Did you mean \"" ++ closest ++ "\"?"
      | none => ""
  | .fragmentCycle _ spread _ cycle =>
    "Cannot spread fragment \"" ++ spread.name.value ++ "\" within itself (" ++
      " -> ".intercalate cycle ++ ")."
  | .invalid _ error _ => error.message

def errorLocation? (site : Site) (error : Graphql.Error) : Option Location :=
  error.positions.head?.map fun p => site.template.translate (.ofPosition p)

def place? : Problem → Option Place
  | .unparsable site failure =>
    some (.point (site.template.translate (.ofPosition failure.position)))
  | .structural site error => (errorLocation? site error).map fun l => .span ⟨l, none⟩
  | .duplicateFragment fragment _ => fragment.location?.map .point
  | .laterOperation operation _ => operation.location?.map .point
  | .unknownFragment _ spread containing _ => (containing.locate spread.loc?).map .point
  | .fragmentCycle _ spread containing _ => (containing.locate spread.loc?).map .point
  | .invalid _ error owner? => (owner?.bind fun site => errorLocation? site error).map .point

def locationJson (l? : Option Location) : Json :=
  match l? with
  | some l => l.toJson
  | none => .null

def fragmentJson (f : Fragment) : Json :=
  .object [("filePath", .str f.site.file), ("location", locationJson f.location?),
    ("text", .str f.text)]

def otherFile (file other : String) : List (String × Json) :=
  if other == file then [] else [("location_path", .str other)]

def context : Problem → List (String × Json)
  | .unparsable _ failure => [("sourceMessage", .str failure.message)]
  | .structural _ error => [("sourceMessage", .str error.message)]
  | .duplicateFragment fragment other =>
    [("fragmentName", .str fragment.name), ("leftFragment", fragmentJson fragment),
     ("rightFragment", fragmentJson other)]
  | .laterOperation operation first =>
    [("name", .str operation.name), ("otherName", .str first.name),
     ("otherLocation", locationJson first.location?)]
  | .unknownFragment operation spread containing closest? =>
    [("fragmentName", .str spread.name.value), ("closestFragment", .ofOption closest?),
     ("operationName", .str operation.name)] ++ otherFile operation.site.file containing.file
  | .fragmentCycle operation spread containing cycle =>
    [("fragmentName", .str spread.name.value), ("cycle", .ofStrings cycle),
     ("operationName", .str operation.name)] ++ otherFile operation.site.file containing.file
  | .invalid operation error owner? =>
    [("sourceMessage", .str error.message), ("operationName", .str operation.name)] ++
      match owner? with
      | some owner =>
        if owner.file.isEmpty then [] else otherFile operation.site.file owner.file
      | none => []

def report (p : Problem) : CompileError :=
  { kind := p.kind, file := p.file, message := p.message, place? := p.place?, context := p.context }

end Problem

end QueryLinker
