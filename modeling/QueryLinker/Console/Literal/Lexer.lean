import QueryLinker.Console.Literal.Token
import QueryLinker.Number.Arithmetic
import QueryLinker.Text.Identifier

/-!
This module contains the lexer of expressions. Where a text makes up no token, the tokens end.
-/

namespace QueryLinker.Console.Literal

/-! Numbers. -/

def isHexDigit (c : Char) : Bool :=
  c.isDigit || ('a' ≤ c && c ≤ 'f') || ('A' ≤ c && c ≤ 'F')

def isOctalDigit (c : Char) : Bool :=
  '0' ≤ c && c ≤ '7'

def isBit (c : Char) : Bool :=
  c == '0' || c == '1'

def isWordPart (c : Char) : Bool :=
  c.isAlphanum || c == '_' || 128 ≤ c.toNat

def isWordStart (c : Char) : Bool :=
  isWordPart c && !c.isDigit

def keywordFollows (cs : List Char) : Bool :=
  let word := cs.takeWhile isWordPart
  ["and", "else", "for", "or", "not"].contains (String.ofList word) ||
    ["if", "in", "is"].contains (String.ofList (word.take 2))

def checkNumberEnd (sort : NumberSort) (cs : List Char) : Except Flaw (List Char) :=
  let isNear := cs.head?.any fun c => isWordPart c && c.toNat < 128
  if isNear && !keywordFollows cs then .error (.badNumber sort) else .ok cs

def dropDigits : List Char → Except Flaw (List Char)
  | '_' :: c :: cs => if c.isDigit then dropDigits cs else .error (.badNumber .decimal)
  | ['_'] => .error (.badNumber .decimal)
  | c :: cs => if c.isDigit then dropDigits cs else .ok (c :: cs)
  | [] => .ok []

def dropImaginary (cs : List Char) : Except Flaw (List Char) :=
  match cs with
  | 'j' :: cs => checkNumberEnd .imaginary cs
  | 'J' :: cs => checkNumberEnd .imaginary cs
  | cs => checkNumberEnd .decimal cs

def dropExponent (cs : List Char) : Except Flaw (List Char) :=
  match cs with
  | c :: rest =>
    if c == 'e' || c == 'E' then
      match rest with
      | d :: digits =>
        if d.isDigit then do dropImaginary (← dropDigits rest)
        else if d == '+' || d == '-' then
          if digits.head?.any Char.isDigit then do dropImaginary (← dropDigits digits)
          else .error (.badNumber .decimal)
        else checkNumberEnd .decimal cs
      | [] => checkNumberEnd .decimal cs
    else dropImaginary cs
  | [] => .ok []

def dropFraction (cs : List Char) : Except Flaw (List Char) :=
  if cs.head?.any Char.isDigit then do dropExponent (← dropDigits cs) else dropExponent cs

def dropDecimal (cs : List Char) : Except Flaw (List Char) :=
  match cs with
  | '.' :: rest => dropFraction rest
  | cs => dropExponent cs

def dropBased (sort : NumberSort) (isDigit : Char → Bool) : Nat → List Char →
    Except Flaw (List Char)
  | 0, cs => .ok cs
  | fuel + 1, cs =>
    let digits := if cs.head? == some '_' then cs.drop 1 else cs
    let flawAt (c? : Option Char) : Flaw :=
      match c? with
      | some c => if c.isDigit then .badDigit c sort else .badNumber sort
      | none => .badNumber sort
    if !digits.head?.any isDigit then .error (flawAt digits.head?)
    else
      let rest := digits.dropWhile isDigit
      match rest with
      | '_' :: _ => dropBased sort isDigit fuel rest
      | c :: _ => if c.isDigit then .error (.badDigit c sort) else checkNumberEnd sort rest
      | [] => .ok []

def dropZeros (cs : List Char) : Except Flaw (List Char) := do
  let rest ← dropDigits cs
  let digits := cs.take (cs.length - rest.length)
  let isOther (c : Char) : Bool := c.isDigit && c != '0'
  let isReal := rest.head?.any fun c => ['.', 'e', 'E', 'j', 'J'].contains c
  if digits.any isOther && !isReal then throw .leadingZeros
  dropDecimal rest

def dropNumber (cs : List Char) : Except Flaw (List Char) :=
  match cs with
  | '0' :: c :: rest =>
    if c == 'x' || c == 'X' then dropBased .hexadecimal isHexDigit rest.length rest
    else if c == 'o' || c == 'O' then dropBased .octal isOctalDigit rest.length rest
    else if c == 'b' || c == 'B' then dropBased .binary isBit rest.length rest
    else dropZeros (c :: rest)
  | '.' :: rest => dropFraction rest
  | cs => do dropDecimal (← dropDigits cs)

def numeralOf (cs : List Char) : Numeral :=
  let digits := cs.filter (· != '_')
  let isBased := (digits[1]?).any fun c => ['x', 'X', 'o', 'O', 'b', 'B'].contains c
  if isBased then
    let base :=
      match (digits[1]?).map Char.toLower with
      | some 'x' => 16
      | some 'o' => 8
      | _ => 2
    let value (n : Nat) (c : Char) : Nat := n * base + (Number.digitOf? base c.toLower).getD 0
    let n : Nat := (digits.drop 2).foldl value 0
    { imaginary := false, isReal := (Number.Real.ofInt? n).isSome }
  else if digits.any fun c => c == 'j' || c == 'J' then { imaginary := true }
  else if digits.any fun c => !c.isDigit then { imaginary := false }
  else if Number.maxIntegerDigits < digits.length && digits.head? != some '0' then
    { imaginary := false, tooLong? := some digits.length }
  else
    let n : Nat := digits.foldl (fun n c => n * 10 + (c.toNat - '0'.toNat)) 0
    { imaginary := false, isReal := (Number.Real.ofInt? n).isSome }

/-! Texts and words. -/

def textContent? (quote : Char) (size : Nat) (found : List Char) :
    Nat → List Char → Option (List Char × List Char)
  | 0, _ => none
  | fuel + 1, cs =>
    if (cs.take size) == List.replicate size quote then some (found.reverse, cs.drop size)
    else
      match cs with
      | [] => none
      | '\\' :: c :: rest => textContent? quote size (c :: '\\' :: found) fuel rest
      | c :: rest =>
        if c == '\n' && size = 1 then none else textContent? quote size (c :: found) fuel rest

def openLines (isLong : Bool) : List Char → Nat
  | [] => 0
  | '\\' :: '\n' :: cs => openLines isLong cs + 1
  | '\\' :: _ :: cs => openLines isLong cs
  | c :: cs => if c == '\n' then (if isLong then openLines isLong cs + 1 else 0) else
    openLines isLong cs

def textMarks : List String :=
  ["", "u", "r", "b", "br", "rb", "f", "fr", "rf"]

def textStart? (cs : List Char) : Option (String × Char) :=
  let marks := cs.takeWhile Char.isAlpha
  match cs[marks.length]? with
  | some q =>
    let name := String.ofList (marks.map Char.toLower)
    if (q == '"' || q == '\'') && textMarks.contains name then some (name, q) else none
  | none => none

def keywords : List String :=
  ["False", "None", "True", "and", "as", "assert", "async", "await", "break", "class", "continue",
   "def", "del", "elif", "else", "except", "finally", "for", "from", "global", "if", "import", "in",
   "is", "lambda", "nonlocal", "not", "or", "pass", "raise", "return", "try", "while", "with",
   "yield"]

def wordFlaw? (word : List Char) : Option Char :=
  match word with
  | [] => none
  | c :: cs =>
    if Text.isIdentifierStart c then cs.find? fun c => !Text.isIdentifierContinue c else some c

/-! Tokens. -/

def longSigns : List String :=
  ["**=", "//=", ">>=", "<<=", "...", "!=", "%=", "&=", "**", "*=", "+=", "-=", "->", "//", "/=",
   ":=", "<<", "<=", "<>", "==", ">=", ">>", "@=", "^=", "|="]

def maxLevel : Nat := 200

def bracketPairs : List (Char × Char) :=
  [(')', '('), (']', '['), ('\x7d', '\x7b')]

structure Scanner where
  rest : List Char
  line : Nat := 1
  brackets : List (Char × Nat) := []
  columns : List (Nat × Nat) := [(0, 0)]
  found : List Token := []

namespace Scanner

def put (s : Scanner) (kind : TokenKind) (spelling : String) (rest : List Char) : Scanner :=
  { s with rest, found := ⟨kind, spelling, s.brackets.length, s.line⟩ :: s.found }

def fail (s : Scanner) (flaw : Flaw) (isFirm : Bool) : Lexed :=
  { tokens := (s.put (.unreadable flaw) "" []).found.reverse.toArray
    flaw? := if isFirm then some flaw else none
    bracket? := s.brackets.head? }

def finish (s : Scanner) : Lexed :=
  match s.brackets with
  | (bracket, _) :: _ => s.fail (.neverClosed bracket) false
  | [] =>
    { tokens := (s.put .stop "" []).found.reverse.toArray, flaw? := none
      bracket? := none }

def endFlaw (s : Scanner) : Flaw :=
  match s.brackets with
  | (bracket, _) :: _ => .neverClosed bracket
  | [] => .noEnd

def continued (s : Scanner) (cs : List Char) : Except Flaw Scanner :=
  match cs with
  | '\n' :: rest =>
    if rest.isEmpty then .error s.endFlaw else .ok { s with rest, line := s.line + 1 }
  | _ => .error .noContinuation

def tabSize : Nat := 8

def indentation (s : Scanner) (column other fixed : Nat) :
    Nat → Except Flaw (Scanner × Nat × Nat)
  | 0 => .ok (s, column, other)
  | fuel + 1 =>
    match s.rest with
    | ' ' :: rest => indentation { s with rest } (column + 1) (other + 1) fixed fuel
    | '\t' :: rest =>
      indentation { s with rest } ((column / tabSize + 1) * tabSize) (other + 1) fixed fuel
    -- A form feed starts the line again.
    | '\x0c' :: rest => indentation { s with rest } 0 0 fixed fuel
    | '\\' :: rest => do
      let fixed := if fixed = 0 then column else fixed
      indentation (← s.continued rest) column other fixed fuel
    | _ => if fixed = 0 then .ok (s, column, other) else .ok (s, fixed, fixed)

def indented (s : Scanner) (column other : Nat) : Except Flaw Scanner :=
  match s.columns with
  | (top, otherTop) :: _ =>
    if column = top then if other = otherTop then .ok s else .error .mixedIndent
    else if top < column then
      if other ≤ otherTop then .error .mixedIndent
      else .ok ({ s with columns := (column, other) :: s.columns }.put .indent "" s.rest)
    else
      let left := s.columns.dropWhile fun (c, _) => 0 < c && column < c
      let count := s.columns.length - left.length
      let s := { s with columns := left
                        found := List.replicate count ⟨.outdent, "", 0, s.line⟩ ++ s.found }
      match left with
      | (top, otherTop) :: _ =>
        if column != top then .error .wrongOutdent
        else if other != otherTop then .error .mixedIndent
        else .ok s
      | [] => .ok s
  | [] => .ok s

def quotedText (s : Scanner) (marks : String) (quote : Char) : Except Flaw Scanner :=
  let body := s.rest.drop (marks.length + 1)
  let isLong := [quote, quote].isPrefixOf body
  let size := if isLong then 3 else 1
  let cs := if isLong then body.drop 2 else body
  match textContent? quote size [] (cs.length + 1) cs with
  | none => .error (.openText isLong (s.line + openLines isLong cs))
  | some (content, rest) =>
    let kind : TokenKind :=
      .text ⟨marks.contains 'b', marks.contains 'r', marks.contains 'f', content⟩
    let s := s.put kind marks rest
    .ok { s with line := s.line + content.count '\n' }

def bracket (s : Scanner) (c : Char) (rest : List Char) : Except Flaw Scanner :=
  match bracketPairs.lookup c with
  | some opening =>
    match s.brackets with
    | [] => .error (.unmatched c)
    | (other, line) :: outer =>
      if other == opening then
        .ok ({ s with brackets := outer }.put .sign (String.singleton c) rest)
      else .error (.mismatched c other (if line = s.line then none else some line))
  | none =>
    if maxLevel ≤ s.brackets.length then .error .tooManyBrackets
    else
      .ok ({ s with brackets := (c, s.line) :: s.brackets }.put .sign (String.singleton c) rest)

def token (s : Scanner) (c : Char) (rest : List Char) : Except Flaw Scanner :=
  let cs := c :: rest
  match textStart? cs with
  | some (marks, quote) => s.quotedText marks quote
  | none =>
    if isWordStart c then
      let word := cs.takeWhile isWordPart
      match wordFlaw? word with
      | some bad => .error (.badCharacter bad)
      | none =>
        let spelling := String.ofList word
        .ok (s.put (if keywords.contains spelling then .keyword else .word) spelling
          (cs.drop word.length))
    else if c.isDigit || (c == '.' && rest.head?.any Char.isDigit) then do
      let after ← dropNumber cs
      let digits := cs.take (cs.length - after.length)
      return s.put (.number (numeralOf digits)) "" after
    else
      match longSigns.find? fun sign => sign.toList.isPrefixOf cs with
      | some sign => .ok (s.put .sign sign (cs.drop sign.length))
      | none =>
        if bracketPairs.any fun (a, b) => c == a || c == b then s.bracket c rest
        else if Text.isPrintable c then .ok (s.put .sign (String.singleton c) rest)
        else .error (.badCharacter c)

def isFirm : Flaw → Bool
  | .noContinuation => false
  | .neverClosed _ => false
  | .noEnd => false
  | .wrongOutdent => false
  | .mixedIndent => false
  | _ => true

mutual

def lineFrom (fuel : Nat) (s : Scanner) : Lexed :=
  match fuel with
  | 0 => s.finish
  | fuel + 1 =>
    match s.indentation 0 0 0 (s.rest.length + 1) with
    | .error flaw => s.fail flaw false
    | .ok (s, column, other) =>
      let isBlank := s.rest.head?.any fun c => c == '#' || c == '\n'
      if isBlank || !s.brackets.isEmpty then tokensFrom fuel isBlank s
      else
        match s.indented column other with
        | .error flaw => s.fail flaw false
        | .ok s => tokensFrom fuel false s

def tokensFrom (fuel : Nat) (isBlank : Bool) (s : Scanner) : Lexed :=
  match fuel with
  | 0 => s.finish
  | fuel + 1 =>
    match s.rest with
    | [] => s.finish
    | c :: rest =>
      if c == ' ' || c == '\t' || c == '\x0c' then tokensFrom fuel isBlank { s with rest }
      else if c == '#' then
        tokensFrom fuel isBlank { s with rest := rest.dropWhile (· != '\n') }
      else if c == '\n' then
        let after := if isBlank || !s.brackets.isEmpty then { s with rest }
          else s.put .lineEnd "" rest
        lineFrom fuel { after with line := s.line + 1 }
      else
        let step := if c == '\\' then s.continued rest else s.token c rest
        match step with
        | .error flaw => s.fail flaw (isFirm flaw)
        | .ok s => tokensFrom fuel isBlank s

end

end Scanner

def unifyBreaks : List Char → List Char
  | '\r' :: '\n' :: cs => '\n' :: unifyBreaks cs
  | c :: cs => (if c == '\r' then '\n' else c) :: unifyBreaks cs
  | [] => []

def lex (cs : List Char) : Lexed :=
  if cs.contains '\x00' then Scanner.fail { rest := [] } .nullCharacter true
  else Scanner.lineFrom (2 * cs.length + 2) { rest := unifyBreaks cs }

end QueryLinker.Console.Literal
