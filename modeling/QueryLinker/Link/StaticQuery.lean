import QueryLinker.Path.Basic

/-!
This module contains the identifiers of static queries. An identifier is made of a marker and the
words of the file's path as seen from the root of the project.
-/

namespace QueryLinker

def defaultStaticQueryMarker : String := "sq--"

def staticQueryId? (cwd root marker path : String) : Option String :=
  (Path.relative? cwd path root).map fun relative => marker ++ Text.kebabCase relative

end QueryLinker
