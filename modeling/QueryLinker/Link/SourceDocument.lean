import QueryLinker.Graphql.Parser
import QueryLinker.Graphql.Printer
import QueryLinker.Json.Fingerprint
import QueryLinker.Link.Location

/-!
This module contains source documents: the GraphQL of one file, with the places in the file that its
definitions come from.
-/

namespace QueryLinker

open Graphql

structure SourceDocument where
  path : String
  document : Document
  template : TemplateLocation := {}
  templates : List TemplateLocation := []
  isHook : Bool := false
  isStaticQuery : Bool := false
  hash : String
deriving Repr

namespace SourceDocument

def defaultHash (document : Document) : String :=
  Json.textFingerprint document.text

def ofDocument (path : String) (document : Document) : SourceDocument :=
  { path, document, hash := defaultHash document }

def templateAt (d : SourceDocument) (index : Nat) : TemplateLocation :=
  d.templates.getD index d.template

def templateOf (d : SourceDocument) (loc? : Option Loc) : TemplateLocation :=
  match loc? with
  | none => d.template
  | some loc =>
    if d.templates.isEmpty then d.template
    else
      let sameText (definition : Definition) : Bool :=
        definition.loc?.any fun l => l.source.origin == loc.source.origin
      match d.document.definitions.findIdx? sameText with
      | some index => d.templateAt index
      | none => d.template

end SourceDocument

end QueryLinker
