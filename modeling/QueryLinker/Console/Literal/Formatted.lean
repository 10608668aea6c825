import QueryLinker.Console.Literal.Escape

/-!
This module contains texts with expressions in braces. Behind an expression there may be a mark for
the form in which its value is shown, and a text which says how, where expressions may stand again.
A brace in the text itself is written twice.
-/

namespace QueryLinker.Console.Literal

structure PlainPart where
  found : List Char
  rest : List Char
  isBrace : Bool

def skipName (found : List Char) : List Char → List Char × List Char
  | '\x7b' :: cs =>
    let name := cs.takeWhile (· != '\x7d')
    let rest := cs.drop name.length
    ((rest.take 1).reverse ++ name.reverse ++ '\x7b' :: found, rest.drop 1)
  | c :: cs => (c :: found, cs)
  | [] => (found, [])

def stretchOf (isRaw isInner : Bool) : Nat → List Char → List Char → Except Flaw PlainPart
  | 0, found, cs => .ok ⟨found.reverse, cs, false⟩
  | fuel + 1, found, cs =>
    match cs with
    | [] => .ok ⟨found.reverse, [], false⟩
    | c :: rest =>
      let isEscape := c == '\\' && !isRaw && !rest.isEmpty
      let found := if isEscape then c :: found else found
      let c := if isEscape then rest.head?.getD c else c
      let rest := if isEscape then rest.drop 1 else rest
      if isEscape && c == 'N' then
        let (found, rest) := skipName (c :: found) rest
        stretchOf isRaw isInner fuel found rest
      else if c == '\x7b' || c == '\x7d' then
        if isInner then .ok ⟨found.reverse, c :: rest, false⟩
        else if rest.head? == some c then .ok ⟨(c :: found).reverse, rest.drop 1, true⟩
        else if c == '\x7d' then .error (.inFormatted .singleBrace)
        else .ok ⟨found.reverse, c :: rest, false⟩
      else stretchOf isRaw isInner fuel (c :: found) rest

structure Inside where
  quotes : List Char := []
  brackets : List Char := []
  found : List Char := []

def pairedSigns : List (List Char) :=
  [['!', '='], ['=', '='], ['<', '='], ['>', '=']]

def expressionOf (s : Inside) : Nat → List Char → Except Flaw (List Char × List Char)
  | 0, _ => .error (.inFormatted .noClosingBrace)
  | fuel + 1, cs =>
    match cs with
    | [] =>
      if !s.quotes.isEmpty then .error (.inFormatted .openQuotes)
      else
        match s.brackets with
        | bracket :: _ => .error (.inFormatted (.unmatched bracket))
        | [] => .error (.inFormatted .noClosingBrace)
    | c :: rest =>
      let next := { s with found := c :: s.found }
      if c == '\\' then .error .backslashWithin
      else if !s.quotes.isEmpty then
        if s.quotes.isPrefixOf cs then
          expressionOf { s with quotes := [], found := s.quotes ++ s.found } fuel
            (cs.drop s.quotes.length)
        else expressionOf next fuel rest
      else if c == '\'' || c == '"' then
        let quotes := if [c, c].isPrefixOf rest then [c, c, c] else [c]
        expressionOf { s with quotes, found := quotes ++ s.found } fuel (cs.drop quotes.length)
      else if c == '(' || c == '[' || c == '\x7b' then
        if maxLevel ≤ s.brackets.length then .error (.inFormatted .tooManyBracketsWithin)
        else expressionOf { next with brackets := c :: s.brackets } fuel rest
      else if c == '#' then .error .commentWithin
      else if s.brackets.isEmpty && pairedSigns.contains (cs.take 2) then
        expressionOf { s with found := (cs.take 2).reverse ++ s.found } fuel (cs.drop 2)
      else if s.brackets.isEmpty && ['!', ':', '\x7d', '='].contains c then
        .ok (s.found.reverse, cs)
      else
        match bracketPairs.lookup c, s.brackets with
        | none, _ => expressionOf next fuel rest
        | some _, [] => .error (.inFormatted (.unmatched c))
        | some opening, other :: outer =>
          if other == opening then expressionOf { next with brackets := outer } fuel rest
          else .error (.inFormatted (.mismatched c other none))

def checkExpression (check : List Char → Except Flaw Unit) (cs rest : List Char) :
    Except Flaw Unit :=
  if cs.all fun c => c == ' ' || c == '\t' || c == '\n' || c == '\x0c' then
    match rest with
    | '\x7d' :: _ => .error (.inFormatted .emptyExpression)
    | c :: _ => .error (.inFormatted (.noExpression c))
    | [] => .error (.inFormatted .emptyExpression)
  else check cs

def skipEquals : List Char → List Char
  | '=' :: cs => cs.dropWhile fun c => c == ' ' || ('\t' ≤ c && c ≤ '\r')
  | cs => cs

def skipForm : List Char → Except Flaw (List Char)
  | '!' :: c :: cs =>
    if ['s', 'r', 'a'].contains c then .ok cs else .error (.inFormatted .badForm)
  | ['!'] => .error (.inFormatted .noClosingBrace)
  | cs => .ok cs

def maxDepth : Nat := 2

def checkParts (check : List Char → Except Flaw Unit) (isRaw : Bool) (depth : Nat) :
    Nat → List Char → Except Flaw (List Char)
  | 0, cs => .ok cs
  | fuel + 1, cs => do
    let stretch ← stretchOf isRaw (0 < depth) (cs.length + 1) [] cs
    if !isRaw then checkEscapes 0 stretch.found
    if stretch.isBrace then checkParts check isRaw depth fuel stretch.rest
    else
      match stretch.rest with
      | '\x7b' :: rest => do
        if maxDepth ≤ depth then throw (.inFormatted .tooDeep)
        let (expression, rest) ← expressionOf {} (rest.length + 1) rest
        checkExpression check expression rest
        let rest ← skipForm (skipEquals rest)
        let rest ←
          match rest with
          | [':'] => throw (.inFormatted .noClosingBrace)
          | ':' :: rest => checkParts check isRaw (depth + 1) fuel rest
          | rest => pure rest
        match rest with
        | '\x7d' :: rest => checkParts check isRaw depth fuel rest
        | _ => throw (.inFormatted .noClosingBrace)
      | rest =>
        if 0 < depth && rest.head? != some '\x7d' then throw (.inFormatted .noClosingBrace)
        return rest

def checkFormatted (check : List Char → Except Flaw Unit) (t : QuotedText) : Except Flaw Unit := do
  let _ ← checkParts check (t.isRaw || !t.content.contains '\\') 0 (t.content.length + 1) t.content

end QueryLinker.Console.Literal
