import QueryLinker.Json.Basic
import QueryLinker.Link.Location

/-!
This module contains compile errors as they are reported: their kind, the file they are filed under,
a message, the place they point at, and the details of their kind.
-/

namespace QueryLinker

inductive ErrorKind where
  | structuralValidationFailure
  | duplicateFragment
  | unknownFragment
  | multipleRootOperations
  | schemaValidationFailure
  | fragmentCycle
  | graphqlSyntaxError
deriving DecidableEq, Repr

namespace ErrorKind

def all : List ErrorKind :=
  [.structuralValidationFailure, .duplicateFragment, .unknownFragment, .multipleRootOperations,
   .schemaValidationFailure, .fragmentCycle, .graphqlSyntaxError]

def text : ErrorKind → String
  | .structuralValidationFailure => "structural-validation-failure"
  | .duplicateFragment => "duplicate-fragment"
  | .unknownFragment => "unknown-fragment"
  | .multipleRootOperations => "multiple-root-operations"
  | .schemaValidationFailure => "schema-validation-failure"
  | .fragmentCycle => "fragment-cycle"
  | .graphqlSyntaxError => "graphql-syntax-error"

def ofText? (s : String) : Option ErrorKind :=
  all.find? fun kind => kind.text == s

end ErrorKind

structure CompileError where
  kind : ErrorKind
  file : String
  message : String
  place? : Option Place := none
  context : List (String × Json) := []
deriving BEq, Repr

namespace Location

def toJson (l : Location) : Json :=
  .object [("line", .int l.line), ("column", .int l.column)]

end Location

namespace Span

def toJson (s : Span) : Json :=
  .object (("start", s.start.toJson) :: match s.stop? with
    | some stop => [("end", stop.toJson)]
    | none => [])

end Span

namespace Place

def toJson : Place → Json
  | .point l => l.toJson
  | .span s => s.toJson

end Place

namespace CompileError

def toJson (e : CompileError) : Json :=
  .object ([("kind", .str e.kind.text), ("filePath", .str e.file), ("message", .str e.message)] ++
    (e.place?.toList.map fun p => ("location", p.toJson)) ++ [("context", .object e.context)])

def whereabouts (e : CompileError) : String :=
  match e.place? with
  | none => e.file
  | some p => e.file ++ ":" ++ toString p.start.line ++ ":" ++ toString p.start.column

def ofKind (kind : ErrorKind) (errors : List CompileError) : List CompileError :=
  errors.filter (·.kind == kind)

end CompileError

end QueryLinker
