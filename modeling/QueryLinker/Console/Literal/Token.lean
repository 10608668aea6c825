import QueryLinker.Console.Literal.Flaw

/-!
This module contains the tokens of expressions.
-/

namespace QueryLinker.Console.Literal

structure Numeral where
  imaginary : Bool
  tooLong? : Option Nat := none
  isReal : Bool := true
deriving DecidableEq, Repr

structure QuotedText where
  isBytes : Bool
  isRaw : Bool
  isFormatted : Bool
  content : List Char
deriving DecidableEq, Repr

inductive TokenKind where
  | word
  | keyword
  | sign
  | number (n : Numeral)
  | text (t : QuotedText)
  | lineEnd
  | indent
  | outdent
  | stop
  | unreadable (flaw : Flaw)
deriving DecidableEq, Repr

structure Token where
  kind : TokenKind
  spelling : String
  level : Nat
  line : Nat
deriving DecidableEq, Repr

namespace Token

def isSpelled (t : Token) (spelling : String) : Bool :=
  (t.kind == .keyword || t.kind == .sign) && t.spelling == spelling

end Token

structure Lexed where
  tokens : Array Token
  flaw? : Option Flaw
  bracket? : Option (Char × Nat)
deriving Repr

end QueryLinker.Console.Literal
