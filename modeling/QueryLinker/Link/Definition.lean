import QueryLinker.Graphql.Spread
import QueryLinker.Link.SourceDocument

/-!
This module contains the operations and fragments of source documents. A definition keeps the file
and the template that its positions are relative to.
-/

namespace QueryLinker

open Graphql

structure Site where
  file : String
  template : TemplateLocation
deriving DecidableEq, Repr, Inhabited

namespace Site

def locate (site : Site) (loc? : Option Loc) : Option Location :=
  loc?.map fun loc => site.template.translate (.ofPosition loc.position)

end Site

structure Fragment where
  name : String
  node : FragmentDefinition
  text : String
  site : Site
deriving Repr, Inhabited

namespace Fragment

def location? (f : Fragment) : Option Location :=
  f.site.locate f.node.name.loc?

def spreads (f : Fragment) : List FragmentSpread :=
  f.node.selectionSet.spreads

end Fragment

structure Operation where
  name : String
  node : OperationDefinition
  text : String
  site : Site
  originText : String
  isHook : Bool
  isStaticQuery : Bool
  hash : String
deriving Repr, Inhabited

namespace Operation

def location? (o : Operation) : Option Location :=
  o.site.locate (match o.node.name? with
    | some name => name.loc?
    | none => o.node.loc?)

def spreads (o : Operation) : List FragmentSpread :=
  o.node.selectionSet.spreads

end Operation

inductive Extract where
  | operation (o : Operation)
  | fragment (f : Fragment)
  | other (d : Definition)
deriving Repr

namespace SourceDocument

def originText (d : Definition) : String :=
  match d.loc? with
  | some loc => loc.source.body
  | none => d.text

def extract (d : SourceDocument) (index : Nat) (definition : Definition) : Extract :=
  let site : Site := ⟨d.path, d.templateAt index⟩
  match definition with
  | .operation node =>
    .operation
      { name := definition.nameText, node, text := definition.text, site
        originText := originText definition
        isHook := d.isHook, isStaticQuery := d.isStaticQuery, hash := d.hash }
  | .fragment node =>
    .fragment { name := definition.nameText, node, text := definition.text, site }
  | definition => .other definition

def extracts (d : SourceDocument) : List Extract :=
  d.document.definitions.mapIdx d.extract

end SourceDocument

end QueryLinker
