import QueryLinker.Console.Literal.Formatted
import QueryLinker.Console.Literal.Grammar

/-!
This module contains the reading of expressions. Tokens that make up none are looked at once more,
to say what is wrong with them; what is wrong with the characters behind them wins over that.
-/

namespace QueryLinker.Console.Literal

def joinedTexts (checkEmbedded : List Char → Except Flaw Unit) (isBytes? : Option Bool)
    (found : Expr) : List QuotedText → Except Flaw Expr
  | [] => .ok found
  | t :: ts => do
    if !t.isFormatted then t.check
    if isBytes? == some (!t.isBytes) then throw .mixedTexts
    if t.isFormatted then checkFormatted checkEmbedded t
    joinedTexts checkEmbedded (some t.isBytes) (if t.isFormatted then .formatted else found) ts

def Lexed.decisiveFlaw (l : Lexed) (flaw : Flaw) (seen : Nat) : Flaw :=
  match l.flaw?, l.bracket? with
  | some flaw, _ => flaw
  | none, some (bracket, line) =>
    let last := (l.tokens[seen - 1]?).filter fun _ => seen < l.tokens.size
    if last.any fun t => line < t.line then .neverClosed bracket else flaw
  | none, none => flaw

def stepsPerToken : Nat := 64

namespace Matcher

def start (m : Matcher) (goal : Phrase) (seen : Nat) : Except Flaw Found × Memory :=
  StateT.run (ExceptT.run (m.matchPattern (stepsPerToken * (m.tokens.size + 1)) goal 0)) { seen }

end Matcher

def Lexed.read (l : Lexed) (goal : Phrase) (textOf : List QuotedText → Except Flaw Expr) :
    Except Flaw Expr :=
  let matcher : Matcher := { grammar, tokens := l.tokens, textOf, explains := false }
  match matcher.start goal 0 with
  | (.ok (some (es, _)), _) => .ok (es.head?.getD .operation)
  | (.error flaw, memory) => .error (l.decisiveFlaw flaw memory.seen)
  | (.ok none, memory) =>
    match { matcher with explains := true }.start goal memory.seen with
    | (.error flaw, memory) => .error (l.decisiveFlaw flaw memory.seen)
    | (.ok _, after) =>
      if (l.tokens[memory.seen - 1]?).any fun t => t.kind == .indent then .error .indented
      else .error (l.decisiveFlaw .invalid after.seen)

def checkEmbedded : Nat → List Char → Except Flaw Unit
  | 0, _ => .ok ()
  | fuel + 1, cs =>
    let lexed := lex ('(' :: cs ++ [')'])
    match lexed.read .embedded (joinedTexts (checkEmbedded fuel) none .text) with
    | .ok _ => .ok ()
    | .error flaw => .error (flaw.embed lexed.flaw?.isNone)

def readExpr (cs : List Char) : Except Flaw Expr :=
  (lex cs).read .whole (joinedTexts (checkEmbedded cs.length) none .text)

end QueryLinker.Console.Literal
