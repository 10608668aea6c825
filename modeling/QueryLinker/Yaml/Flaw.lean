import QueryLinker.Number.Integer
import QueryLinker.Text.Base64
import QueryLinker.Text.Utf8
import QueryLinker.Time.Timestamp
import QueryLinker.Yaml.Token

/-!
This module contains the reasons why a text is not YAML, or is not one value. Most of them are told
with two places: where that begins what was being read, and where reading stopped.
-/

namespace QueryLinker.Yaml

inductive NodeSort where
  | scalar
  | sequence
  | mapping
deriving DecidableEq, Repr

def NodeSort.text : NodeSort → String
  | .scalar => "scalar"
  | .sequence => "sequence"
  | .mapping => "mapping"

inductive Activity where
  | key
  | token
  | directive
  | directiveTag
  | alias
  | anchor
  | tag
  | tagText
  | blockText
  | doubleQuotedText
  | quotedText
  | node
  | blockNode
  | flowNode
  | blockSequence
  | blockMapping
  | flowSequence
  | flowMapping
  | firstAnchor (name : String)
  | onlyDocument
  | mappingValue
  | orderedValue
  | pairsValue
deriving DecidableEq, Repr

def Activity.text : Activity → String
  | .key => "while scanning a simple key"
  | .token => "while scanning for the next token"
  | .directive => "while scanning a directive"
  | .directiveTag => "while parsing a directive"
  | .alias => "while scanning an alias"
  | .anchor => "while scanning an anchor"
  | .tag => "while scanning a tag"
  | .tagText => "while parsing a tag"
  | .blockText => "while scanning a block scalar"
  | .doubleQuotedText => "while scanning a double-quoted scalar"
  | .quotedText => "while scanning a quoted scalar"
  | .node => "while parsing a node"
  | .blockNode => "while parsing a block node"
  | .flowNode => "while parsing a flow node"
  | .blockSequence => "while parsing a block collection"
  | .blockMapping => "while parsing a block mapping"
  | .flowSequence => "while parsing a flow sequence"
  | .flowMapping => "while parsing a flow mapping"
  | .firstAnchor name => "found duplicate anchor " ++ Text.quoted name ++ "; first occurrence"
  | .onlyDocument => "expected a single document in the stream"
  | .mappingValue => "while constructing a mapping"
  | .orderedValue => "while constructing an ordered map"
  | .pairsValue => "while constructing pairs"

inductive Wanted where
  | nameCharacter
  | versionDigit
  | versionPoint
  | versionEnd
  | space
  | lineEnd
  | tagSign
  | tagAddress
  | tagClose
  | addressEscape
  | escapeDigits (count : Nat)
  | blockIndicators
deriving DecidableEq, Repr

def Wanted.text : Wanted → String
  | .nameCharacter => "alphabetic or numeric character"
  | .versionDigit => "a digit"
  | .versionPoint => "a digit or '.'"
  | .versionEnd => "a digit or ' '"
  | .space => "' '"
  | .lineEnd => "a comment or a line break"
  | .tagSign => "'!'"
  | .tagAddress => "URI"
  | .tagClose => "'>'"
  | .addressEscape => "URI escape sequence of 2 hexadecimal numbers"
  | .escapeDigits count => "escape sequence of " ++ toString count ++ " hexadecimal numbers"
  | .blockIndicators => "chomping or indentation indicators"

inductive BlockPart where
  | entry
  | key
  | value
deriving DecidableEq, Repr

def BlockPart.text : BlockPart → String
  | .entry => "sequence entries"
  | .key => "mapping keys"
  | .value => "mapping values"

inductive BytesFlaw where
  | foreign (first : Letter) (start size : Nat)
  | digits (flaw : Text.Base64.Flaw)
deriving DecidableEq, Repr

def codeText (letter : Letter) : String :=
  let n := letter.codePoint
  let digits :=
    if n < 0x100 then 'x' :: Text.hexDigits 2 n
    else if n < 0x10000 then 'u' :: Text.hexDigits 4 n
    else 'U' :: Text.hexDigits 8 n
  String.ofList ('\\' :: digits)

def BytesFlaw.message : BytesFlaw → String
  | .foreign first start size =>
    "failed to convert base64 data into ascii: 'ascii' codec can't encode " ++
      (if size = 1 then
        "character '" ++ codeText first ++ "' in position " ++ toString start
       else
        "characters in position " ++ toString start ++ "-" ++ toString (start + size - 1)) ++
      ": ordinal not in range(128)"
  | .digits .padding => "failed to decode base64 data: Incorrect padding"
  | .digits (.loneDigit count) =>
    "failed to decode base64 data: Invalid base64-encoded string: number of data characters (" ++
      toString count ++ ") cannot be 1 more than a multiple of 4"

inductive Problem where
  | noColon
  | noToken (c : Char)
  | misplaced (part : BlockPart)
  | expected (what : Wanted) (found? : Option Char)
  | zeroIndentation
  | unknownEscape (found? : Option Char)
  | openQuote
  | separatorInQuote
  | notUtf8 (flaw : Text.Utf8.Flaw)
  | noDocumentStart (found : Token)
  | secondVersion
  | otherVersion
  | secondHandle (handle : String)
  | unknownHandle (handle : String)
  | noContent (found : Token)
  | noBlockEnd (found : Token)
  | noFlowEnd (close found : Token)
  | unknownAlias (name : String)
  | secondAnchor
  | secondDocument
  | unknownTag (tag : String)
  | wrongSort (wanted found : NodeSort)
  | unusableKey
  | unmergeable (found : NodeSort)
  | unmergeableItem (found : NodeSort)
  | noSequence (found : NodeSort)
  | noPair (found : NodeSort)
  | wrongPairSize (size : Nat)
  | noBytes (flaw : BytesFlaw)
deriving DecidableEq, Repr

namespace Problem

def shown (c? : Option Char) : String :=
  Text.quoted (String.singleton (c?.getD '\x00'))

def text : Problem → String
  | .noColon => "could not find expected ':'"
  | .noToken c => "found character " ++ shown (some c) ++ " that cannot start any token"
  | .misplaced part => part.text ++ " are not allowed here"
  | .expected what found? => "expected " ++ what.text ++ ", but found " ++ shown found?
  | .zeroIndentation => "expected indentation indicator in the range 1-9, but found 0"
  | .unknownEscape found? => "found unknown escape character " ++ shown found?
  | .openQuote => "found unexpected end of stream"
  | .separatorInQuote => "found unexpected document separator"
  | .notUtf8 flaw => flaw.message
  | .noDocumentStart found =>
    "expected '<document start>', but found " ++ Text.quoted found.name
  | .secondVersion => "found duplicate YAML directive"
  | .otherVersion => "found incompatible YAML document (version 1.* is required)"
  | .secondHandle handle => "duplicate tag handle " ++ Text.quoted handle
  | .unknownHandle handle => "found undefined tag handle " ++ Text.quoted handle
  | .noContent found => "expected the node content, but found " ++ Text.quoted found.name
  | .noBlockEnd found => "expected <block end>, but found " ++ Text.quoted found.name
  | .noFlowEnd close found =>
    "expected ',' or '" ++ close.name ++ "', but got " ++ Text.quoted found.name
  | .unknownAlias name => "found undefined alias " ++ Text.quoted name
  | .secondAnchor => "second occurrence"
  | .secondDocument => "but found another document"
  | .unknownTag tag => "could not determine a constructor for the tag " ++ Text.quoted tag
  | .wrongSort wanted found =>
    "expected a " ++ wanted.text ++ " node, but found " ++ found.text
  | .unusableKey => "found unhashable key"
  | .unmergeable found =>
    "expected a mapping or list of mappings for merging, but found " ++ found.text
  | .unmergeableItem found => "expected a mapping for merging, but found " ++ found.text
  | .noSequence found => "expected a sequence, but found " ++ found.text
  | .noPair found => "expected a mapping of length 1, but found " ++ found.text
  | .wrongPairSize size =>
    "expected a single mapping item, but found " ++ toString size ++ " items"
  | .noBytes flaw => flaw.message

end Problem

structure Report where
  activity? : Option Activity := none
  start? : Option Text.Position := none
  problem : Problem
  place : Text.Position
deriving DecidableEq, Repr

def placeText (file : String) (p : Text.Position) : String :=
  "  in \"" ++ file ++ "\", line " ++ toString p.line ++ ", column " ++ toString p.column

def Report.message (file : String) (r : Report) : String :=
  let start? := r.start?.filter (· != r.place)
  let before := (r.activity?.map Activity.text).toList ++ (start?.map (placeText file)).toList
  "\n".intercalate (before ++ [r.problem.text, placeText file r.place])

inductive ScalarFlaw where
  | emptyNumber
  | integer (flaw : Number.IntegerFlaw)
  | noReal (text : String)
  | tooManyParts
  | noTruth (text : String)
  | noTime
  | timeOfMapping
  | time (flaw : Timestamp.Flaw)
deriving DecidableEq, Repr

def ScalarFlaw.message : ScalarFlaw → String
  | .emptyNumber => "string index out of range"
  | .integer flaw => flaw.message
  | .noReal text => "could not convert string to float: " ++ Text.quoted text
  | .tooManyParts => "int too large to convert to float"
  | .noTruth text => Text.quoted text
  | .noTime => "'NoneType' object has no attribute 'groupdict'"
  | .timeOfMapping => "expected string or bytes-like object, got 'list'"
  | .time flaw => flaw.message

def leastLongCode : Nat := 0x80000000

inductive Flaw where
  | notText (flaw : Text.Utf8.Flaw)
  | unprintable (c : Char) (index : Nat)
  | report (r : Report)
  | noCharacter (code : Nat)
  | version (flaw : Number.IntegerFlaw)
  | scalar (flaw : ScalarFlaw)
  | endless
deriving DecidableEq, Repr

def Flaw.message (file : String) : Flaw → String
  | .notText flaw => flaw.message
  | .unprintable c index =>
    "unacceptable character #x" ++ String.ofList (Text.hexDigits 4 c.toNat) ++
      ": special characters are not allowed\n  in \"" ++ file ++ "\", position " ++ toString index
  | .report r => r.message file
  | .noCharacter code =>
    if code < leastLongCode then "chr() arg not in range(0x110000)"
    else "Python int too large to convert to C int"
  | .version flaw => flaw.message
  | .scalar flaw => flaw.message
  | .endless => "maximum recursion depth exceeded"

end QueryLinker.Yaml
