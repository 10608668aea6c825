import QueryLinker.Number.Integer
import QueryLinker.Text.Printable

/-!
This module contains the reasons why a text is no expression: its characters make up no tokens, or
its tokens no expression.
-/

namespace QueryLinker.Console.Literal

inductive NumberSort where
  | decimal
  | hexadecimal
  | octal
  | binary
  | imaginary
deriving DecidableEq, Repr

def NumberSort.text : NumberSort → String
  | .decimal => "decimal"
  | .hexadecimal => "hexadecimal"
  | .octal => "octal"
  | .binary => "binary"
  | .imaginary => "imaginary"

inductive EscapeCause where
  | twoDigits
  | fourDigits
  | eightDigits
  | noCharacter
  | noName
  | unknownName
deriving DecidableEq, Repr

def EscapeCause.message : EscapeCause → String
  | .twoDigits => "truncated \\xXX escape"
  | .fourDigits => "truncated \\uXXXX escape"
  | .eightDigits => "truncated \\UXXXXXXXX escape"
  | .noCharacter => "illegal Unicode character"
  | .noName => "malformed \\N character escape"
  | .unknownName => "unknown Unicode character name"

inductive Flaw where
  -- characters that make up no token
  | nullCharacter
  | badNumber (sort : NumberSort)
  | badDigit (digit : Char) (sort : NumberSort)
  | leadingZeros
  | openText (isLong : Bool) (line : Nat)
  | tooManyBrackets
  | unmatched (bracket : Char)
  | mismatched (closing opening : Char) (line? : Option Nat)
  | badCharacter (c : Char)
  | noContinuation
  | neverClosed (bracket : Char)
  | noEnd
  | wrongOutdent
  | mixedIndent
  -- tokens that stand for nothing
  | numberTooLong (digits : Nat)
  | foreignByte
  | badEscape (cause : EscapeCause) (start stop : Nat)
  | badByteEscape (start : Nat)
  | mixedTexts
  -- tokens that make up no expression
  | invalid
  | indented
  | noComma
  | noElse
  | noCall (name : String)
  | noComparison
  | notAssignable (sort : String)
  | notAssignableHere (sort : String)
  | noNamed (sort : String)
  | starred
  | nothingStarred
  | doubleStarred
  | unpackedComprehension
  | unpackedMapping
  | openTarget
  | noColon
  | noValue
  | starredValue
  | openGenerator
  | unpackingOrder
  | argumentOrder (unpacked : Bool)
  | assignedArgument
  -- parameters of a function
  | parameterOrder
  | bracketedParameters
  | nothingBeforeSlash
  | slashTwice
  | slashBehindStar
  | starBehindSlash
  | bareStar
  | starDefault
  | starTwice
  | doubleStarDefault
  | doubleStarFirst
  | noDefault
  -- texts with expressions in them
  | backslashWithin
  | commentWithin
  | singleBrace
  | noClosingBrace
  | openQuotes
  | tooManyBracketsWithin
  | tooDeep
  | emptyExpression
  | noExpression (c : Char)
  | badForm
  | inFormatted (flaw : Flaw)
  | embedded (isTold : Bool) (flaw : Flaw)
deriving DecidableEq, Repr

namespace Flaw

def embed (isTold : Bool) : Flaw → Flaw
  | .embedded isTold flaw => .embedded isTold flaw
  | flaw => .embedded isTold flaw

def codePointText (c : Char) : String :=
  let digits := (Nat.toDigits 16 c.toNat).map Char.toUpper
  "U+" ++ String.ofList (List.replicate (4 - digits.length) '0' ++ digits)

def quote (c : Char) : String :=
  "'" ++ String.singleton c ++ "'"

def message : Flaw → String
  | .nullCharacter => "source code string cannot contain null bytes"
  | .badNumber sort => "invalid " ++ sort.text ++ " literal"
  | .badDigit digit sort => "invalid digit " ++ quote digit ++ " in " ++ sort.text ++ " literal"
  | .leadingZeros =>
    "leading zeros in decimal integer literals are not permitted; use an 0o prefix for octal " ++
      "integers"
  | .openText isLong line =>
    "unterminated " ++ (if isLong then "triple-quoted " else "") ++
      "string literal (detected at line " ++ toString line ++ ")"
  | .tooManyBrackets => "too many nested parentheses"
  | .unmatched bracket => "unmatched " ++ quote bracket
  | .mismatched closing opening line? =>
    "closing parenthesis " ++ quote closing ++ " does not match opening parenthesis " ++
      quote opening ++ ((line?.map fun line => " on line " ++ toString line).getD "")
  | .badCharacter c =>
    if Text.isPrintable c then "invalid character " ++ quote c ++ " (" ++ codePointText c ++ ")"
    else "invalid non-printable character " ++ codePointText c
  | .noContinuation => "unexpected character after line continuation character"
  | .neverClosed bracket => quote bracket ++ " was never closed"
  | .noEnd => "unexpected EOF while parsing"
  | .wrongOutdent => "unindent does not match any outer indentation level"
  | .mixedIndent => "inconsistent use of tabs and spaces in indentation"
  | .numberTooLong digits =>
    (Number.IntegerFlaw.tooLong digits).message ++
      " - Consider hexadecimal for huge integer literals to avoid decimal conversion limits."
  | .foreignByte => "bytes can only contain ASCII literal characters"
  | .badEscape cause start stop =>
    "(unicode error) 'unicodeescape' codec can't decode bytes in position " ++ toString start ++
      "-" ++ toString (stop - 1) ++ ": " ++ cause.message
  | .badByteEscape start => "(value error) invalid \\x escape at position " ++ toString start
  | .mixedTexts => "cannot mix bytes and nonbytes literals"
  | .invalid => "invalid syntax"
  | .indented => "unexpected indent"
  | .noComma => "invalid syntax. Perhaps you forgot a comma?"
  | .noElse => "expected 'else' after 'if' expression"
  | .noCall name =>
    "Missing parentheses in call to '" ++ name ++ "'. Did you mean " ++ name ++ "(...)?"
  | .noComparison => "invalid syntax. Maybe you meant '==' or ':=' instead of '='?"
  | .notAssignable sort => "cannot assign to " ++ sort
  | .notAssignableHere sort =>
    "cannot assign to " ++ sort ++ " here. Maybe you meant '==' instead of '='?"
  | .noNamed sort => "cannot use assignment expressions with " ++ sort
  | .starred => "cannot use starred expression here"
  | .nothingStarred => "Invalid star expression"
  | .doubleStarred => "cannot use double starred expression here"
  | .unpackedComprehension => "iterable unpacking cannot be used in comprehension"
  | .unpackedMapping => "dict unpacking cannot be used in dict comprehension"
  | .openTarget => "did you forget parentheses around the comprehension target?"
  | .noColon => "':' expected after dictionary key"
  | .noValue => "expression expected after dictionary key and ':'"
  | .starredValue => "cannot use a starred expression in a dictionary value"
  | .openGenerator => "Generator expression must be parenthesized"
  | .unpackingOrder => "iterable argument unpacking follows keyword argument unpacking"
  | .argumentOrder unpacked =>
    "positional argument follows keyword argument" ++ if unpacked then " unpacking" else ""
  | .assignedArgument =>
    "expression cannot contain assignment, perhaps you meant \"==\"?"
  | .parameterOrder => "non-default argument follows default argument"
  | .bracketedParameters => "Lambda expression parameters cannot be parenthesized"
  | .nothingBeforeSlash => "at least one argument must precede /"
  | .slashTwice => "/ may appear only once"
  | .slashBehindStar => "/ must be ahead of *"
  | .starBehindSlash => "expected comma between / and *"
  | .bareStar => "named arguments must follow bare *"
  | .starDefault => "var-positional argument cannot have default value"
  | .starTwice => "* argument may appear only once"
  | .doubleStarDefault => "var-keyword argument cannot have default value"
  | .doubleStarFirst => "arguments cannot follow var-keyword argument"
  | .noDefault => "expected default value expression"
  | .backslashWithin => "f-string expression part cannot include a backslash"
  | .commentWithin => "f-string expression part cannot include '#'"
  | .singleBrace => "single '\x7d' is not allowed"
  | .noClosingBrace => "expecting '\x7d'"
  | .openQuotes => "unterminated string"
  | .tooManyBracketsWithin => "too many nested parenthesis"
  | .tooDeep => "expressions nested too deeply"
  | .emptyExpression => "empty expression not allowed"
  | .noExpression c => "expression required before " ++ quote c
  | .badForm => "invalid conversion character: expected 's', 'r', or 'a'"
  | .inFormatted flaw => "f-string: " ++ flaw.message
  | .embedded isTold flaw => (if isTold then "f-string: " else "") ++ flaw.message

end Flaw

end QueryLinker.Console.Literal
