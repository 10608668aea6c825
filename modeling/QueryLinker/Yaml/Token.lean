import QueryLinker.Text.Lines
import QueryLinker.Text.LooseText

/-!
This module contains the tokens of YAML texts. Indentation is made explicit: where a block of
entries ends, a token of its own says so.
-/

namespace QueryLinker.Yaml

structure WrittenTag where
  handle? : Option String
  rest : String
deriving DecidableEq, Repr, Inhabited

inductive Directive where
  | version (major minor : Int)
  | handle (name meaning : String)
  | other (name : String)
deriving DecidableEq, Repr, Inhabited

inductive Token where
  | streamEnd
  | directive (d : Directive)
  | documentStart
  | documentEnd
  | blockSequenceStart
  | blockMappingStart
  | blockEnd
  | blockEntry
  | flowSequenceStart
  | flowSequenceEnd
  | flowMappingStart
  | flowMappingEnd
  | flowEntry
  | key
  | value
  | alias (name : String)
  | anchor (name : String)
  | tag (t : WrittenTag)
  | scalar (text : LooseText) (plain : Bool)
deriving DecidableEq, Repr, Inhabited

namespace Token

def name : Token → String
  | .streamEnd => "<stream end>"
  | .directive _ => "<directive>"
  | .documentStart => "<document start>"
  | .documentEnd => "<document end>"
  | .blockSequenceStart => "<block sequence start>"
  | .blockMappingStart => "<block mapping start>"
  | .blockEnd => "<block end>"
  | .blockEntry => "-"
  | .flowSequenceStart => "["
  | .flowSequenceEnd => "]"
  | .flowMappingStart => "\x7b"
  | .flowMappingEnd => "\x7d"
  | .flowEntry => ","
  | .key => "?"
  | .value => ":"
  | .alias _ => "<alias>"
  | .anchor _ => "<anchor>"
  | .tag _ => "<tag>"
  | .scalar _ _ => "<scalar>"

end Token

structure PlacedToken where
  token : Token
  start : Text.Position
  stop : Text.Position
deriving DecidableEq, Repr, Inhabited

end QueryLinker.Yaml
