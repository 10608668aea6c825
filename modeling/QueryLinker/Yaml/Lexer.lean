import QueryLinker.Yaml.BlockText
import QueryLinker.Yaml.PlainText
import QueryLinker.Yaml.Property

/-!
This module contains the lexer of YAML texts. A token is found only when it is asked for, or when
it has to be known whether one before it is a key: that shows by a colon behind it on its line.
-/

namespace QueryLinker.Yaml.Cursor

/-! Tokens ahead. -/

def put (t : PlacedToken) : Scan Unit :=
  modify fun l => { l with ahead := l.ahead ++ [t] }

def putAt (index : Nat) (t : PlacedToken) : Scan Unit :=
  modify fun l =>
    let i := index - l.taken
    { l with ahead := l.ahead.take i ++ t :: l.ahead.drop i }

def putEmpty (t : Token) : Scan Unit := do
  let place ← here
  put ⟨t, place, place⟩

def putRead (read : Scan Token) : Scan Unit := do
  let start ← here
  let t ← read
  put ⟨t, start, ← here⟩

def putSign (size : Nat) (t : Token) : Scan Unit :=
  putRead do
    forward size
    return t

/-! Indentation and keys. -/

def closeBlocks (column : Nat) : Scan Unit := do
  let l ← get
  if l.level == 0 then
    let columns := l.indent :: l.indents
    let closed := (columns.takeWhile fun indent => column < indent).length
    match columns.drop closed with
    | indent :: indents =>
      let blockEnd : PlacedToken := ⟨.blockEnd, l.place, l.place⟩
      set { l with indent, indents, ahead := l.ahead ++ List.replicate closed blockEnd }
    | [] => pure ()

def openBlock (column : Nat) : Scan Bool := do
  let l ← get
  if l.indent < column then
    set { l with indent := column, indents := l.indent :: l.indents }
    return true
  else return false

def failKey (c : KeyCandidate) : Scan Unit :=
  failSince .key c.place .noColon

def dropCandidate : Scan Unit := do
  let l ← get
  match l.candidates.lookup l.level with
  | some c => if c.required then failKey c
  | none => pure ()
  set { l with candidates := l.candidates.filter fun (level, _) => level != l.level }

def noteCandidate : Scan Unit := do
  if (← get).keyAllowed then
    dropCandidate
    let l ← get
    let candidate : KeyCandidate :=
      { index := l.taken + l.ahead.length
        required := l.level == 0 && l.indent == l.place.column
        offset := l.offset, place := l.place }
    set { l with candidates := l.candidates ++ [(l.level, candidate)] }

def maxKeySize : Nat := 1024

def dropStaleCandidates : Scan Unit := do
  let l ← get
  let (stale, fresh) := l.candidates.partition fun (_, c) =>
    c.place.line != l.place.line || maxKeySize < l.offset - c.offset
  match stale.find? fun (_, c) => c.required with
  | some (_, c) => failKey c
  | none => set { l with candidates := fresh }

/-! Kinds of tokens. -/

def skipToToken : Nat → Scan Unit
  | 0 => return
  | n + 1 => do
    skipSpaces
    skipComment
    if (← lineBreak?).isSome then
      if (← get).level == 0 then allowKey true
      skipToToken n

def beginDocument : Scan Unit := do
  closeBlocks 0
  dropCandidate
  allowKey false

def finish : Scan Unit := do
  beginDocument
  putEmpty .streamEnd
  modify fun l => { l with candidates := [], ended := true }

def openFlow (t : Token) : Scan Unit := do
  noteCandidate
  modify fun l => { l with level := l.level + 1 }
  allowKey true
  putSign 1 t

def closeFlow (t : Token) : Scan Unit := do
  dropCandidate
  modify fun l => { l with level := l.level - 1 }
  allowKey false
  putSign 1 t

def flowEntry : Scan Unit := do
  allowKey true
  dropCandidate
  putSign 1 .flowEntry

def blockSign (part : BlockPart) (opening t : Token) (keyInFlow : Bool) : Scan Unit := do
  let l ← get
  if l.level == 0 then
    if !l.keyAllowed then fail (.misplaced part)
    if ← openBlock l.place.column then putEmpty opening
  allowKey (keyInFlow || l.level == 0)
  dropCandidate
  putSign 1 t

def colon : Scan Unit := do
  let l ← get
  match l.candidates.lookup l.level with
  | some c =>
    set { l with candidates := l.candidates.filter fun (level, _) => level != l.level }
    putAt c.index ⟨.key, c.place, c.place⟩
    if l.level == 0 then
      if ← openBlock c.place.column then
        putAt c.index ⟨.blockMappingStart, c.place, c.place⟩
    allowKey false
    putSign 1 .value
  | none => blockSign .value .blockMappingStart .value false

def atom (read : Scan Token) : Scan Unit := do
  noteCandidate
  allowKey false
  putRead read

def blockScalar (folded : Bool) : Scan Unit := do
  allowKey true
  dropCandidate
  putRead do return .scalar (← blockText folded) false

def startSigns : List Char :=
  "-?:,[]#&*!|>'\"%@\x60\x7b\x7d".toList

def startsPlain (level : Nat) (c : Char) (next : Option Char) : Bool :=
  !(isWordEnd (some c) || startSigns.contains c) ||
    (!isWordEnd next && (c == '-' || (level == 0 && (c == '?' || c == ':'))))

def dependsOnNext (level : Nat) (c : Char) : Bool :=
  if level == 0 then "-?:%@`\t".contains c else "-%@`\t|>".contains c

def readToken (c : Char) : Scan Unit := do
  let l ← get
  let separator ← if l.place.column == 1 && (c == '-' || c == '.') then atSeparator else pure false
  let next ← if dependsOnNext l.level c then peek 1 else pure none
  let spaced := isWordEnd next
  if c == '%' && l.place.column == 1 then
    beginDocument
    putRead do return .directive (← directive)
  else if separator then
    beginDocument
    putSign 3 (if c == '-' then .documentStart else .documentEnd)
  else if c == '[' then openFlow .flowSequenceStart
  else if c == '\x7b' then openFlow .flowMappingStart
  else if c == ']' then closeFlow .flowSequenceEnd
  else if c == '\x7d' then closeFlow .flowMappingEnd
  else if c == ',' then flowEntry
  else if c == '-' && spaced then blockSign .entry .blockSequenceStart .blockEntry true
  else if c == '?' && (0 < l.level || spaced) then blockSign .key .blockMappingStart .key false
  else if c == ':' && (0 < l.level || spaced) then colon
  else if c == '*' then atom (return .alias (← valueName .alias))
  else if c == '&' then atom (return .anchor (← valueName .anchor))
  else if c == '!' then atom (return .tag (← tag))
  else if (c == '|' || c == '>') && l.level == 0 then blockScalar (c == '>')
  else if c == '\'' || c == '"' then atom (return .scalar (← quotedText c) false)
  else if startsPlain l.level c next then atom (return .scalar (← plainText) true)
  else
    throw (.report { activity? := some .token, problem := .noToken c, place := l.place })

def findMore : Scan Unit := do
  if (← get).offset == 0 && (← current) == some '\ufeff' then forward 1
  skipToToken (← fuel)
  dropStaleCandidates
  closeBlocks (← here).column
  match ← current with
  | none => finish
  | some c => readToken c

def needsMore : Scan Bool := do
  if (← get).ended then return false
  if (← get).ahead.isEmpty then return true
  dropStaleCandidates
  let l ← get
  return l.candidates.any fun (_, c) => c.index == l.taken

def findNext : Nat → Scan Unit
  | 0 => return
  | n + 1 => do
    if ← needsMore then
      findMore
      findNext n

def peekToken : Scan PlacedToken := do
  findNext ((← fuel) + 1)
  let l ← get
  return l.ahead.headD ⟨.streamEnd, l.place, l.place⟩

def takeToken : Scan PlacedToken := do
  let t ← peekToken
  modify fun l => { l with ahead := l.ahead.drop 1, taken := l.taken + 1 }
  return t

def ofSource (s : Source) : Cursor :=
  { rest := s.text, flaw? := s.flaw? }

end QueryLinker.Yaml.Cursor
