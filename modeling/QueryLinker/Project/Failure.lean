import QueryLinker.Console.Markup
import QueryLinker.Json.Display
import QueryLinker.Json.Printer
import QueryLinker.Json.Reader
import QueryLinker.Link.Collection
import QueryLinker.Project.Discovery
import QueryLinker.Project.Duration
import QueryLinker.Project.LogLevel
import QueryLinker.Project.SourceFile
import QueryLinker.Schema.Failure
import QueryLinker.Url.Basic
import QueryLinker.Yaml.Flaw

/-!
This module contains the reasons why a run over a project is given up.
-/

namespace QueryLinker

inductive RunFailure where
  | file (failure : FileFailure)
  | notText (flaw : Text.Utf8.Flaw)
  | cutEscape
  | notJson (error : Json.ReadError) (text : String)
  | notWritten (flaw : Json.WriteFlaw)
  | tooDeep
  | notYaml (flaw : Yaml.Flaw) (path : String)
  | wrongType (message : String)
  | noMembers (message : String)
  | missing (key : String)
  | address (flaw : Url.Flaw)
  | time (flaw : Timestamp.Flaw)
  | logLevel (flaw : LogLevel.Flaw)
  | setting (message : String)
  | noHome
  | range (message : String)
  | noOutcome
  | endpoint (message : String)
  | schema (failure : Schema.Failure)
  | pass (failure : PassFailure)
  | markup (flaw : Console.Markup.Flaw)
deriving Repr

namespace RunFailure

def message? : RunFailure → Option String
  | .file failure => failure.message
  | .notText flaw => flaw.message
  | .cutEscape => "string index out of range"
  | .notJson error text => error.message text
  | .notWritten flaw => flaw.message
  | .tooDeep => "maximum recursion depth exceeded"
  | .notYaml flaw path => flaw.message path
  | .wrongType message => message
  | .noMembers message => message
  | .missing key => Text.quoted key
  | .address flaw => flaw.message
  | .time flaw => flaw.message
  | .logLevel flaw => flaw.message
  | .setting message => message
  | .noHome => "Could not determine home directory."
  | .range message => message
  | .noOutcome => "pop from empty list"
  | .endpoint message => message
  | .schema failure => failure.display?
  | .pass failure => failure.message?
  | .markup flaw => flaw.message

def noAttribute (sort name : String) : RunFailure :=
  .noMembers (Text.quoted sort ++ " object has no attribute " ++ Text.quoted name)

def noElements (sort : String) : RunFailure :=
  .wrongType (Text.quoted sort ++ " object is not iterable")

def ofDuration : Duration.Flaw → RunFailure
  | .noNumber value => .wrongType (Duration.Flaw.noNumber value).message
  | .notANumber => .setting Duration.Flaw.notANumber.message
  | flaw => .range flaw.message

def ofStop : Discovery.Stop → RunFailure
  | .file failure => .file failure
  | .tooDeep => .tooDeep

def ofRead : ReadFailure → RunFailure
  | .file failure => .file failure
  | .notText flaw => .notText flaw
  | .cutEscape => .cutEscape

end RunFailure

end QueryLinker
