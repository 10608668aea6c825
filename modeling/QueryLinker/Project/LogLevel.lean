import QueryLinker.Text.LetterCase
import QueryLinker.Yaml.Value

/-!
This module contains the levels from which on log records are shown.
-/

namespace QueryLinker.LogLevel

def named : List (String × Int) :=
  [("CRITICAL", 50), ("FATAL", 50), ("ERROR", 40), ("WARN", 30), ("WARNING", 30), ("INFO", 20),
   ("DEBUG", 10), ("NOTSET", 0)]

def ofName (name : LooseText) : Except String Int :=
  match name.upper.string?.bind fun name => named.lookup name with
  | some n => .ok n
  | none => .error ("Unknown level: " ++ LooseText.quoted ("Level " ++ name.upper))

inductive Flaw where
  | unknown (message : String)
  | noLevel (v : Yaml.Value)
deriving Repr

def Flaw.message : Flaw → String
  | .unknown message => message
  | .noLevel v => "Level not an integer or a valid string: " ++ v.display

def ofSetting : Yaml.Value → Except Flaw Int
  | .text name => (ofName name).mapError .unknown
  | .int n => .ok n
  | .bool b => .ok (if b then 1 else 0)
  | v => .error (.noLevel v)

end QueryLinker.LogLevel
