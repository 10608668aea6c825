import QueryLinker.Graphql.BlockString
import QueryLinker.Graphql.Source
import QueryLinker.Graphql.Token
import QueryLinker.Json.Reader

/-!
This module contains the lexer of documents. It reads one lexeme at a time and passes over blanks,
commas and comments between them. A text that is no lexeme ends the token list with a failure, which
counts only for a reader that gets there. Halves of surrogate pairs are no part of any lexeme; those
of the text are given with their offsets.
-/

namespace QueryLinker.Graphql

inductive LexFlaw where
  | singleQuote
  | unexpectedCharacter (shown : String)
  | invalidCharacter (shown : String)
  | invalidInString (shown : String)
  | digitAfterZero (shown : String)
  | noDigit (shown : String)
  | openString
  | badUnicodeEscape (text : String)
  | badEscape (text : String)
  | cutEscape
deriving DecidableEq, Repr

namespace LexFlaw

def message : LexFlaw → String
  | .singleQuote =>
    "Unexpected single quote character ('), did you mean to use a double quote (\")?"
  | .unexpectedCharacter shown => "Unexpected character: " ++ shown ++ "."
  | .invalidCharacter shown => "Invalid character: " ++ shown ++ "."
  | .invalidInString shown => "Invalid character within String: " ++ shown ++ "."
  | .digitAfterZero shown => "Invalid number, unexpected digit after 0: " ++ shown ++ "."
  | .noDigit shown => "Invalid number, expected digit but got: " ++ shown ++ "."
  | .openString => "Unterminated string."
  | .badUnicodeEscape text => "Invalid Unicode escape sequence: '" ++ text ++ "'."
  | .badEscape text => "Invalid character escape sequence: '" ++ text ++ "'."
  | .cutEscape => "string index out of range"

end LexFlaw

structure LexFailure where
  flaw : LexFlaw
  offset : Nat
deriving DecidableEq, Repr

structure Lexed where
  tokens : List Token
  failure? : Option LexFailure
deriving Repr, Inhabited

structure Lexeme where
  kind : TokenKind
  value : String
  size : Nat

namespace Lexer

abbrev Halves := List (Nat × Nat)

def isNameStart (c : Char) : Bool :=
  c.isAlpha || c == '_'

def isNameContinue (c : Char) : Bool :=
  c.isAlphanum || c == '_'

def showCodePoint (n : Nat) : String :=
  let digits := (Nat.toDigits 16 n).map Char.toUpper
  "U+" ++ String.ofList (List.replicate (4 - digits.length) '0' ++ digits)

def showNext (halves : Halves) (offset : Nat) : List Char → String
  | [] => TokenKind.endOfFile.describe
  | c :: _ =>
    if c == '"' then "'\"'"
    else if ' ' ≤ c && c ≤ '~' then "'" ++ String.singleton c ++ "'"
    else showCodePoint ((halves.lookup offset).getD c.toNat)

def readDigits (halves : Halves) (offset size : Nat) (cs : List Char) :
    Except LexFailure (Nat × List Char) :=
  match (cs.takeWhile Char.isDigit).length with
  | 0 => .error ⟨.noDigit (showNext halves (offset + size) cs), offset + size⟩
  | n => .ok (size + n, cs.drop n)

def readWhole (halves : Halves) (offset size : Nat) (cs : List Char) :
    Except LexFailure (Nat × List Char) :=
  match cs with
  | '0' :: cs =>
    if cs.head?.any Char.isDigit then
      .error ⟨.digitAfterZero (showNext halves (offset + size + 1) cs), offset + size + 1⟩
    else .ok (size + 1, cs)
  | cs => readDigits halves offset size cs

def readFraction (halves : Halves) (offset size : Nat) (cs : List Char) :
    Except LexFailure (Nat × List Char) :=
  match cs with
  | '.' :: cs => readDigits halves offset (size + 1) cs
  | cs => .ok (size, cs)

def isExponentMark (c : Char) : Bool :=
  c == 'e' || c == 'E'

def isSign (c : Char) : Bool :=
  c == '+' || c == '-'

def readExponent (halves : Halves) (offset size : Nat) (cs : List Char) :
    Except LexFailure (Nat × List Char) :=
  if cs.head?.any isExponentMark then
    let cs := cs.drop 1
    if cs.head?.any isSign then readDigits halves offset (size + 2) (cs.drop 1)
    else readDigits halves offset (size + 1) cs
  else .ok (size, cs)

def readNumber (halves : Halves) (offset : Nat) (text : List Char) :
    Except LexFailure Lexeme := do
  let (sign, cs) :=
    match text with
    | '-' :: cs => (1, cs)
    | cs => (0, cs)
  let (whole, cs) ← readWhole halves offset sign cs
  let (fraction, cs) ← readFraction halves offset whole cs
  let (size, cs) ← readExponent halves offset fraction cs
  if cs.head?.any fun c => c == '.' || isNameStart c then
    .error ⟨.noDigit (showNext halves (offset + size) cs), offset + size⟩
  else
    let kind := if size == whole then TokenKind.int else TokenKind.float
    .ok ⟨kind, String.ofList (text.take size), size⟩

def readEscape (offset : Nat) (cs : List Char) : Except LexFailure (Char × Nat) :=
  let bad (n : Nat) : Except LexFailure (Char × Nat) :=
    .error ⟨.badUnicodeEscape (String.ofList ('\\' :: cs.take (n - 1))), offset⟩
  match cs with
  | [] => .error ⟨.cutEscape, offset⟩
  | ['u'] => .error ⟨.cutEscape, offset⟩
  | 'u' :: '{' :: cs => braced bad (min 12 (cs.length + 3)) 3 0 cs
  | 'u' :: a :: b :: c :: d :: rest =>
    match Json.unit? a b c d with
    | none => bad 6
    | some n =>
      if Text.isLeadingSurrogate n then
        match rest with
        | '\\' :: 'u' :: e :: f :: g :: h :: _ =>
          match Json.unit? e f g h with
          | some m => if Text.isTrailingSurrogate m then .ok (Text.charOfPair n m, 12) else bad 6
          | none => bad 6
        | '\\' :: 'u' :: _ => .error ⟨.cutEscape, offset⟩
        | _ => bad 6
      else if Text.isTrailingSurrogate n then bad 6
      else .ok (Char.ofNat n, 6)
  | 'u' :: _ => .error ⟨.cutEscape, offset⟩
  | c :: _ =>
    match Json.simpleEscape? c with
    | some e => .ok (e, 2)
    | none => .error ⟨.badEscape (String.ofList ['\\', c]), offset⟩
where
  braced (bad : Nat → Except LexFailure (Char × Nat)) (maxSize size point : Nat) :
      List Char → Except LexFailure (Char × Nat)
    | [] => bad size
    | c :: cs =>
      if maxSize ≤ size then bad size
      else if c == '}' then
        if size + 1 < 5 || (0xd7ff < point && point < 0xe000) || 0x10ffff < point then
          bad (size + 1)
        else .ok (Char.ofNat point, size + 1)
      else
        match Json.hexValue? c with
        | none => bad (size + 1)
        | some n => braced bad maxSize (size + 1) (point * 16 + n) cs

def readString (halves : Halves) (offset size : Nat) (acc : List Char) (text : List Char) :
    Except LexFailure Lexeme :=
  match text with
  | [] => .error ⟨.openString, offset + size⟩
  | c :: cs =>
    if c == '"' then .ok ⟨.string, String.ofList acc.reverse, size + 1⟩
    else if c == '\\' then
      match readEscape (offset + size) cs with
      | .error e => .error e
      | .ok (e, n) => readString halves offset (size + n) (e :: acc) (cs.drop (n - 1))
    else if c == '\n' || c == '\r' then .error ⟨.openString, offset + size⟩
    else
      match halves.lookup (offset + size) with
      | some unit => .error ⟨.invalidInString (showCodePoint unit), offset + size⟩
      | none => readString halves offset (size + 1) (c :: acc) cs
termination_by text.length
decreasing_by
  . simp only [List.length_drop, List.length_cons]; omega
  . simp only [List.length_cons]; omega

/--
Read a block string behind its opening quotes, which stand at `offset`. Its first `size` characters
are read; `lines` are the lines among them, backwards, and `line` is the open line, backwards.
-/
def readBlockString (halves : Halves) (offset size : Nat) (lines : List (List Char))
    (line : List Char) : List Char → Except LexFailure Lexeme
  | [] => .error ⟨.openString, offset + size⟩
  | '"' :: '"' :: '"' :: _ =>
    let value := BlockString.dedent (line.reverse :: lines).reverse
    .ok ⟨.blockString, String.ofList (['\n'].intercalate value), size + 3⟩
  | '\\' :: '"' :: '"' :: '"' :: cs =>
    readBlockString halves offset (size + 4) lines ('"' :: '"' :: '"' :: line) cs
  | '\r' :: '\n' :: cs =>
    readBlockString halves offset (size + 2) (line.reverse :: lines) [] cs
  | c :: cs =>
    if c == '\n' || c == '\r' then
      readBlockString halves offset (size + 1) (line.reverse :: lines) [] cs
    else
      match halves.lookup (offset + size) with
      | some unit => .error ⟨.invalidInString (showCodePoint unit), offset + size⟩
      | none => readBlockString halves offset (size + 1) lines (c :: line) cs

def isIgnored (c : Char) : Bool :=
  c == ' ' || c == '\t' || c == ',' || c == '\ufeff' || c == '\n' || c == '\r'

def readLexeme (halves : Halves) (offset : Nat) (c : Char) (cs : List Char) :
    Except LexFailure Lexeme :=
  if c == '"' then
    match cs with
    | '"' :: '"' :: cs => readBlockString halves offset 3 [] [] cs
    | cs => readString halves offset 1 [] cs
  else
    match TokenKind.ofPunctuation? c with
    | some kind => .ok ⟨kind, "", 1⟩
    | none =>
      if c.isDigit || c == '-' then readNumber halves offset (c :: cs)
      else if isNameStart c then
        let name := c :: cs.takeWhile isNameContinue
        .ok ⟨.name, String.ofList name, name.length⟩
      else if c == '.' && ['.', '.'].isPrefixOf cs then .ok ⟨.spread, "", 3⟩
      else if c == '\'' then .error ⟨.singleQuote, offset⟩
      else
        match halves.lookup offset with
        | some unit => .error ⟨.invalidCharacter (showCodePoint unit), offset⟩
        | none => .error ⟨.unexpectedCharacter (showNext halves offset (c :: cs)), offset⟩

def commentSize (halves : Halves) (offset : Nat) (cs : List Char) : Nat :=
  let size := (cs.takeWhile fun c => c != '\n' && c != '\r').length
  match halves.find? fun (place, _) => offset ≤ place && place < offset + size with
  | some (place, _) => place - offset
  | none => size

def lexFrom (halves : Halves) (offset : Nat) (cs : List Char) : Lexed :=
  match cs with
  | [] => ⟨[⟨.endOfFile, "", offset, offset⟩], none⟩
  | c :: cs =>
    if isIgnored c then lexFrom halves (offset + 1) cs
    else if c == '#' then
      let size := commentSize halves (offset + 1) cs
      lexFrom halves (offset + 1 + size) (cs.drop size)
    else
      match readLexeme halves offset c cs with
      | .error e => ⟨[], some e⟩
      | .ok l =>
        let rest := lexFrom halves (offset + l.size) (cs.drop (l.size - 1))
        ⟨⟨l.kind, l.value, offset, offset + l.size⟩ :: rest.tokens, rest.failure?⟩
termination_by cs.length
decreasing_by
  . simp only [List.length_cons]; omega
  . simp only [List.length_drop, List.length_cons]; omega
  . simp only [List.length_drop, List.length_cons]; omega

def lex (source : Source) : Lexed :=
  lexFrom source.halves 0 source.body.toList

end Lexer

end QueryLinker.Graphql
