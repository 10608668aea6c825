import QueryLinker.Text.Lines

/-!
This module contains locations in files. GraphQL text may be embedded in a file: the place where it
starts, its template location, leads from a position inside the text to the location in the file.
-/

namespace QueryLinker

structure Location where
  line : Int
  column : Int
deriving DecidableEq, Repr, Inhabited

namespace Location

def ofPosition (p : Text.Position) : Location :=
  ⟨p.line, p.column⟩

end Location

structure Span where
  start : Location
  stop? : Option Location
deriving DecidableEq, Repr, Inhabited

inductive Place where
  | point (l : Location)
  | span (s : Span)
deriving DecidableEq, Repr

namespace Place

def start : Place → Location
  | .point l => l
  | .span s => s.start

end Place

structure TemplateLocation where
  line : Int := 1
  column : Int := 0
deriving DecidableEq, Repr, Inhabited

namespace TemplateLocation

def translate (t : TemplateLocation) (l : Location) : Location :=
  ⟨l.line + t.line - 1, l.column + if l.line = 1 then t.column else 0⟩

end TemplateLocation

end QueryLinker
