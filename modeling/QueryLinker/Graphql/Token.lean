/-!
This module contains the tokens of documents.
-/

namespace QueryLinker.Graphql

inductive TokenKind where
  | startOfFile
  | endOfFile
  | bang
  | dollar
  | amp
  | parenL
  | parenR
  | spread
  | colon
  | equals
  | atSign
  | bracketL
  | bracketR
  | braceL
  | pipe
  | braceR
  | name
  | int
  | float
  | string
  | blockString
deriving DecidableEq, Repr, Inhabited

namespace TokenKind

def describe : TokenKind → String
  | .startOfFile => "<SOF>"
  | .endOfFile => "<EOF>"
  | .bang => "'!'"
  | .dollar => "'$'"
  | .amp => "'&'"
  | .parenL => "'('"
  | .parenR => "')'"
  | .spread => "'...'"
  | .colon => "':'"
  | .equals => "'='"
  | .atSign => "'@'"
  | .bracketL => "'['"
  | .bracketR => "']'"
  | .braceL => "'\x7b'"
  | .pipe => "'|'"
  | .braceR => "'\x7d'"
  | .name => "Name"
  | .int => "Int"
  | .float => "Float"
  | .string => "String"
  | .blockString => "BlockString"

def hasValue : TokenKind → Bool
  | .name | .int | .float | .string | .blockString => true
  | _ => false

def ofPunctuation? (c : Char) : Option TokenKind :=
  match c with
  | '!' => some .bang
  | '$' => some .dollar
  | '&' => some .amp
  | '(' => some .parenL
  | ')' => some .parenR
  | ':' => some .colon
  | '=' => some .equals
  | '@' => some .atSign
  | '[' => some .bracketL
  | ']' => some .bracketR
  | '{' => some .braceL
  | '|' => some .pipe
  | '}' => some .braceR
  | _ => none

end TokenKind

structure Token where
  kind : TokenKind
  value : String
  start : Nat
  stop : Nat
deriving DecidableEq, Repr, Inhabited

namespace Token

def describe (t : Token) : String :=
  t.kind.describe ++ if t.kind.hasValue then " '" ++ t.value ++ "'" else ""

end Token

end QueryLinker.Graphql
