import QueryLinker.Console.Literal.Expr
import QueryLinker.Text.Identifier
import Std.Data.HashMap

/-!
This module contains patterns of tokens and how they are matched. A pattern matches in at most one
way at a place: the first of several ways that does. A phrase is a pattern with a name; what is
found out about the phrases that a matcher remembers holds for a place, whichever way it is reached.
Some patterns match nothing and are there to explain what is wrong with the tokens.
-/

namespace QueryLinker.Console.Literal

inductive Phrase where
  | whole
  | embedded
  | expressions
  | expression
  | starExpressions
  | starExpression
  | starredArgument
  | yieldExpression
  | namedMember
  | namedMembers
  | assignment
  | namedExpression
  | disjunction
  | inversion
  | comparison
  | arithmetic
  | factor
  | awaited
  | primary
  | atom
  | tuple
  | group
  | generator
  | mapping
  | set
  | mappingComprehension
  | setComprehension
  | entry
  | mappingMember
  | forClauses
  | forClause
  | targets
  | target
  | targetAtom
  | targetPrimary
  | arguments
  | argumentList
  | namedArguments
  | function
  | parameters
  | starParameters
  | unpackedParameter
deriving DecidableEq, Hashable, Repr

namespace Phrase

def isRemembered : Phrase → Bool
  | .expression => true
  | .starExpression => true
  | .disjunction => true
  | .inversion => true
  | .arithmetic => true
  | .factor => true
  | .awaited => true
  | .primary => true
  | .arguments => true
  | .target => true
  | .targetAtom => true
  | .targetPrimary => true
  | _ => false

end Phrase

inductive Pattern where
  | sign (spelling : String)
  | operator (spellings : List String)
  | word
  | number
  | texts
  | lineEnd
  | stop
  | token (test : Token → Bool)
  | phrase (p : Phrase)
  | all (ps : List Pattern)
  | any (ps : List Pattern)
  | many (p : Pattern)
  | ahead (isWanted : Bool) (p : Pattern)
  | build (f : List Expr → List Expr) (p : Pattern)
  /--
  Nothing matches, and the first of the patterns that would have matched decides whether something
  is wrong, given what it would have matched and its last token.
  -/
  | reject (cases : List (Pattern × (List Expr → Token → Option Flaw)))
  | explaining (p : Pattern)
  | plainly (p : Pattern)

instance : Coe String Pattern := ⟨.sign⟩

instance : Coe Phrase Pattern := ⟨.phrase⟩

namespace Pattern

def optional (p : Pattern) : Pattern :=
  .any [p, .all []]

def some (p : Pattern) : Pattern :=
  .all [p, .many p]

def separated (p : Pattern) : Pattern :=
  .all [p, .many (.all [",", p])]

def isAhead (p : Pattern) : Pattern :=
  .ahead true p

def isNotAhead (p : Pattern) : Pattern :=
  .ahead false p

def explain (cases : List (Pattern × (List Expr → Token → Option Flaw))) : Pattern :=
  .explaining (.reject cases)

def sort (name : String) (p : Pattern) : Pattern :=
  .build (fun _ => [.other name]) p

def as (e : Expr) (p : Pattern) : Pattern :=
  .build (fun _ => [e]) p

end Pattern

abbrev Found := Option (List Expr × Nat)

structure Memory where
  seen : Nat := 0
  known : Std.HashMap (Phrase × Nat) Found := {}

abbrev Match := ExceptT Flaw (StateM Memory)

structure Matcher where
  grammar : Phrase → Pattern
  tokens : Array Token
  textOf : List QuotedText → Except Flaw Expr
  explains : Bool

namespace Matcher

def peek (m : Matcher) (place : Nat) : Match Token := do
  modify fun memory => { memory with seen := max memory.seen (place + 1) }
  match m.tokens[place]? with
  | some t =>
    match t.kind with
    | .unreadable flaw => throw flaw
    | _ => return t
  | none => return ⟨.stop, "", 0, 0⟩

def textsAt (m : Matcher) (place : Nat) : Nat → Match (List QuotedText)
  | 0 => return []
  | fuel + 1 => do
    match (← m.peek place).kind with
    | .text t => return t :: (← m.textsAt (place + 1) fuel)
    | _ => return []

def matchToken (m : Matcher) (place : Nat) (value? : Token → Option (List Expr)) :
    Match Found := do
  return (value? (← m.peek place)).map fun es => (es, place + 1)

def isWord (t : Token) : Option (List Expr) :=
  if t.kind == .word then
    some [.name (String.ofList (t.spelling.toList.map Text.plainLetter))]
  else none

def matchNumber (m : Matcher) (place : Nat) : Match Found := do
  match (← m.peek place).kind with
  | .number n =>
    match n.tooLong? with
    | some digits => throw (.numberTooLong digits)
    | none => return some ([.number n], place + 1)
  | _ => return none

def matchTexts (m : Matcher) (place : Nat) : Match Found := do
  match ← m.textsAt place m.tokens.size with
  | [] => return none
  | texts => return some ([← liftExcept (m.textOf texts)], place + texts.length)
where
  liftExcept {α : Type} : Except Flaw α → Match α
    | .ok a => return a
    | .error flaw => throw flaw

def matchAll (step : Pattern → Nat → Match Found) (found : List Expr) :
    List Pattern → Nat → Match Found
  | [], place => return some (found, place)
  | p :: ps, place => do
    match ← step p place with
    | some (es, next) => matchAll step (found ++ es) ps next
    | none => return none

def matchAny (step : Pattern → Nat → Match Found) : List Pattern → Nat → Match Found
  | [], _ => return none
  | p :: ps, place => do
    match ← step p place with
    | some found => return some found
    | none => matchAny step ps place

def matchMany (step : Nat → Match Found) (found : List Expr) : Nat → Nat → Match Found
  | 0, place => return some (found.reverse, place)
  | count + 1, place => do
    match ← step place with
    | some (es, next) => matchMany step (es.reverse ++ found) count next
    | none => return some (found.reverse, place)

def matchCases (m : Matcher) (step : Pattern → Nat → Match Found) (place : Nat) :
    List (Pattern × (List Expr → Token → Option Flaw)) → Match Found
  | [] => return none
  | (p, flaw?) :: cases => do
    match ← step p place with
    | some (es, next) =>
      match flaw? es (← m.peek (next - 1)) with
      | some flaw => throw flaw
      | none => return none
    | none => m.matchCases step place cases

def matchPattern (m : Matcher) : Nat → Pattern → Nat → Match Found
  | 0, _, _ => return none
  | fuel + 1, p, place =>
    match p with
    | .sign spelling =>
      m.matchToken place fun t => if t.isSpelled spelling then some [] else none
    | .operator spellings => m.matchToken place fun t =>
      if spellings.any t.isSpelled then some [.operator t.spelling] else none
    | .word => m.matchToken place isWord
    | .number => m.matchNumber place
    | .texts => m.matchTexts place
    | .lineEnd => m.matchToken place fun t => if t.kind == .lineEnd then some [] else none
    | .stop => m.matchToken place fun t => if t.kind == .stop then some [] else none
    | .token test => m.matchToken place fun t => if test t then some [] else none
    | .all ps => matchAll (m.matchPattern fuel) [] ps place
    | .any ps => matchAny (m.matchPattern fuel) ps place
    | .many p => matchMany (m.matchPattern fuel p) [] m.tokens.size place
    | .ahead isWanted p => do
      let found ← m.matchPattern fuel p place
      return if found.isSome == isWanted then some ([], place) else none
    | .build f p => do
      return (← m.matchPattern fuel p place).map fun (es, next) => (f es, next)
    | .reject cases => m.matchCases (m.matchPattern fuel) place cases
    | .explaining p => if m.explains then m.matchPattern fuel p place else return none
    | .plainly p => { m with explains := false }.matchPattern fuel p place
    | .phrase phrase => do
      match (← get).known[(phrase, place)]? with
      | some found => return found
      | none =>
        let found ← m.matchPattern fuel (m.grammar phrase) place
        if phrase.isRemembered then
          modify fun memory => { memory with known := memory.known.insert (phrase, place) found }
        return found

end Matcher

end QueryLinker.Console.Literal
