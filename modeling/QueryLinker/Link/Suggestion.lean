import QueryLinker.Text.EditDistance

/-!
This module contains the search for the known name that is closest to an unknown one.
-/

namespace QueryLinker

def defaultSuggestionLimit : Int := 10

def closestName (known : List String) (limit : Int) (name : String) : Option String :=
  (known.foldl step (none, limit)).1
where
  step (best : Option String × Int) (candidate : String) : Option String × Int :=
    let distance : Int := Text.editDistance name.toList candidate.toList
    if distance < best.2 then (some candidate, distance) else best

end QueryLinker
