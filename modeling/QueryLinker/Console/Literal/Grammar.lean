import QueryLinker.Console.Literal.Pattern

/-!
This module contains the grammar of expressions: a pattern for each phrase. What is explained within
a phrase stands where it is looked for.
-/

namespace QueryLinker.Console.Literal

open Phrase Pattern

namespace Pattern

def made (f : List Expr → Expr) (p : Pattern) : Pattern :=
  .build (fun es => [f es]) p

def star (p : Pattern) : Pattern :=
  .build (fun es => es.map .starred) (.all ["*", p])

def wrong (flaw : Flaw) (ps : List Pattern) : Pattern × (List Expr → Token → Option Flaw) :=
  (.all ps, fun _ _ => Option.some flaw)

def wrongSort (flaw : String → Flaw) (ps : List Pattern) :
    Pattern × (List Expr → Token → Option Flaw) :=
  (.all ps, fun es _ => es.head?.map fun e => flaw e.sortName)

end Pattern

def isTextToken (t : Token) : Bool :=
  match t.kind with
  | .text _ => true
  | _ => false

def isHalfKeyword (t : Token) : Bool :=
  t.kind == .word && ["_", "case", "match"].contains t.spelling

def missingComma? (es : List Expr) (last : Token) : Option Flaw :=
  if es.head?.any Expr.isStatementName || last.level = 0 then none else some .noComma

def missingCall? (es : List Expr) (_ : Token) : Option Flaw :=
  match es with
  | .name letters :: _ =>
    if Expr.isStatementName (.name letters) then some (.noCall letters) else none
  | _ => none

def wrongTarget? (es : List Expr) (_ : Token) : Option Flaw :=
  (Expr.anyNotAssignable? es).map fun e => .notAssignable e.sortName

def openGenerator? (es : List Expr) (_ : Token) : Option Flaw :=
  match es with
  | .arguments given :: _ =>
    if (given.filter fun e => !e.isNamed).length ≤ 1 then none else some .openGenerator
  | _ => none

def wrongOrder? (es : List Expr) (_ : Token) : Option Flaw :=
  match es with
  | .arguments given :: _ => some (.argumentOrder (given.any Expr.isUnpacked))
  | _ => none

/-! Expressions with operators. -/

def conditional : Pattern :=
  sort "conditional expression" (.all [disjunction, "if", disjunction, "else", expression])

def expressionPattern : Pattern :=
  .any [
    .explain [
      (.all [
        isNotAhead (.any [.all [.word, .token isTextToken], .token isHalfKeyword]),
        disjunction, .plainly (.any [conditional, disjunction, function])], missingComma?),
      wrong .noElse [disjunction, "if", disjunction, isNotAhead (.any ["else", ":"])]],
    .explain [(.all [.word, isNotAhead "(", starExpressions], missingCall?)],
    conditional, disjunction, function]

def tupleOrOne (p : Pattern) : Pattern :=
  .any [
    made .tuple (.all [p, Pattern.some (.all [",", p]), optional ","]), made .tuple (.all [p, ","]),
    p]

def namedExpressionPattern : Pattern :=
  .any [
    assignment,
    .explain [
      wrongSort .noNamed [expression, ":=", expression],
      wrong .noComparison [.word, "=", arithmetic, isNotAhead (.any ["=", ":="])],
      wrongSort .notAssignableHere [
        isNotAhead (.any [tuple, generator, "True", "None", "False"]), arithmetic, "=", arithmetic,
        isNotAhead (.any ["=", ":="])]],
    .all [expression, isNotAhead ":="]]

def oneOrOperation (es : List Expr) : Expr :=
  match es with
  | [e] => e
  | _ => .operation

def oneOrComparison (es : List Expr) : Expr :=
  match es with
  | [e] => e
  | e :: .operator spelling :: _ => .comparison (spelling == "in") e
  | _ => .operation

def comparisonSign : Pattern :=
  .any [
    .operator ["==", "!=", "<=", "<", ">=", ">"],
    as (.operator "not in") (.all ["not", "in"]), .operator ["in"],
    as (.operator "is not") (.all ["is", "not"]), .operator ["is"]]

def arithmeticSigns : List String :=
  ["|", "^", "&", "<<", ">>", "+", "-", "*", "/", "//", "%", "@", "**"]

def signedOf (es : List Expr) : List Expr :=
  es.map .signed

def trailer : Pattern :=
  .any [
    as .attribute (.all [".", .word]), made .call generator,
    made .call (.all ["(", optional arguments, ")"])]

def applied (es : List Expr) : Expr :=
  match es with
  | e :: es => es.foldl Expr.apply e
  | [] => .operation

/-! Expressions in brackets. -/

def atomPattern : Pattern :=
  .any [
    .word, as (.constant .isTrue) "True", as (.constant .isFalse) "False",
    as (.constant .nothing) "None", .texts, .number,
    .all [isAhead "(", .any [tuple, group, generator]],
    .all [isAhead "\x7b", .any [mapping, set, mappingComprehension, setComprehension]],
    as (.constant .dots) "..."]

def groupPattern : Pattern :=
  .any [
    .all ["(", .any [yieldExpression, namedExpression], ")"],
    .explain [
      wrong .starred ["(", starredArgument, ")"],
      wrong .doubleStarred ["(", "**", expression, ")"]]]

def wrongComprehension : Pattern :=
  .explain [
    wrong .unpackedComprehension [.any ["(", "\x7b"], starredArgument, forClauses],
    wrong .openTarget ["\x7b", namedMember, ",", namedMembers, forClauses],
    wrong .openTarget ["\x7b", namedMember, ",", forClauses]]

def generatorPattern : Pattern :=
  .any [
    sort "generator expression" (.all ["(",
      .any [assignment, .all [expression, isNotAhead ":="]], forClauses, ")"]),
    wrongComprehension]

def wrongEntryValues : List (Pattern × (List Expr → Token → Option Flaw)) :=
  [wrong .starredValue [expression, ":", "*", arithmetic],
   wrong .noValue [expression, ":", isAhead (.any ["\x7d", ","])]]

def mappingPattern : Pattern :=
  .any [
    made .mapping (.all ["\x7b",
      optional (.all [separated mappingMember, optional ","]), "\x7d"]),
    .all ["\x7b",
      .reject (
        wrong .invalid [separated mappingMember, ",",
          .reject (wrong .noColon [expression, isNotAhead ":"] :: wrongEntryValues)] ::
        wrongEntryValues),
      "\x7d"]]

def entryOf (es : List Expr) : Expr :=
  match es with
  | [key, value] => .entry key value
  | _ => .unpacked

def forClausePattern : Pattern :=
  let start := Pattern.all [optional "async", "for", targets, "in"]
  .any [
    .all [start, disjunction, .many (.all ["if", disjunction])],
    .all [isNotAhead start,
      .explain [(.all [optional "async", "for", starExpressions], wrongTarget?)]]]

/-! What loops assign to. -/

def targetFollows : Pattern :=
  isAhead (.any ["(", "."])

def targetSequence : Pattern :=
  .any [
    .all [target, Pattern.some (.all [",", target]), optional ","],
    .all [target, ","]]

def targetAtomPattern : Pattern :=
  .any [
    .all [targetPrimary, ".", .word, isNotAhead (.any ["(", "."])],
    .word, .all ["(", targetAtom, ")"], .all ["(", optional targetSequence, ")"]]

/-! Arguments of calls. -/

def plainArgument : Pattern :=
  .any [
    starredArgument,
    .all [.any [assignment, .all [expression, isNotAhead ":="]], isNotAhead "="]]

def argumentsPattern : Pattern :=
  .any [
    .all [argumentList, optional ",", isAhead ")"],
    .explain [
      wrong .unpackingOrder [
        .any [.all [separated plainArgument, ",", namedArguments], namedArguments], ",",
        separated (.all [starredArgument, isNotAhead "="])],
      wrong .openGenerator [expression, forClauses, ",",
        optional (.any [argumentList, .all [expression, forClauses]])],
      wrong .noComparison [.word, "=", expression, forClauses],
      (.all [argumentList, forClauses], openGenerator?),
      wrong .openGenerator [argumentList, ",", expression, forClauses],
      (.all [argumentList, ",", argumentList], wrongOrder?)]]

def wrongName : Pattern :=
  .explain [
    wrong (.notAssignable "True") ["True", "="], wrong (.notAssignable "False") ["False", "="],
    wrong (.notAssignable "None") ["None", "="],
    wrong .noComparison [.word, "=", expression, forClauses],
    wrong .assignedArgument [isNotAhead (.all [.word, "="]), expression, "="]]

def namedArgument : Pattern :=
  as .named (.all [.word, "=", expression])

def namedArgumentsPattern : Pattern :=
  let starred := Pattern.any [wrongName, namedArgument, starredArgument]
  let unpacked := Pattern.any [wrongName, namedArgument, as .unpacked (.all ["**", expression])]
  .any [
    .all [separated starred, ",", separated unpacked], separated starred, separated unpacked]

/-! Parameters of functions. -/

def parameterEnd : Pattern :=
  .any [",", isAhead ":"]

def plainParameter : Pattern :=
  .all [.word, parameterEnd]

def defaultValue : Pattern :=
  .any [.all ["=", expression], .explain [wrong .noDefault ["=", isAhead (.any [")", ","])]]]

def defaultParameter : Pattern :=
  .all [.word, defaultValue, parameterEnd]

def anyParameter : Pattern :=
  .all [.word, optional defaultValue, parameterEnd]

def plainSlash : Pattern :=
  .all [Pattern.some plainParameter, "/", parameterEnd]

def defaultSlash : Pattern :=
  .all [.many plainParameter, Pattern.some defaultParameter, "/", parameterEnd]

def wrongParameters : Pattern :=
  .explain [
    wrong .parameterOrder [
      .many plainParameter, .any [defaultSlash, Pattern.some defaultParameter], plainParameter],
    wrong .bracketedParameters [
      .many plainParameter, "(", separated .word, optional ",", ")"],
    wrong .nothingBeforeSlash ["/", ","],
    wrong .slashTwice [.any [plainSlash, defaultSlash], .many anyParameter, "/"],
    wrong .slashBehindStar [
      optional (.any [plainSlash, defaultSlash]), .many anyParameter, "*",
      .any [",", plainParameter], .many anyParameter, "/"],
    wrong .starBehindSlash [Pattern.some anyParameter, "/", "*"]]

def parametersPattern : Pattern :=
  .any [
    wrongParameters,
    .all [plainSlash, .many plainParameter, .many defaultParameter, optional starParameters],
    .all [defaultSlash, .many defaultParameter, optional starParameters],
    .all [Pattern.some plainParameter, .many defaultParameter, optional starParameters],
    .all [Pattern.some defaultParameter, optional starParameters],
    starParameters]

def starParametersPattern : Pattern :=
  .any [
    .explain [
      wrong .bareStar ["*", .any [":", .all [",", .any [":", "**"]]]],
      wrong .starDefault ["*", .word, "="],
      wrong .starTwice [
        "*", .any [plainParameter, ","], .many anyParameter, "*", .any [plainParameter, ","]]],
    .all ["*", plainParameter, .many anyParameter, optional unpackedParameter],
    .all ["*", ",", Pattern.some anyParameter, optional unpackedParameter],
    unpackedParameter]

def unpackedParameterPattern : Pattern :=
  .any [
    .explain [
      wrong .doubleStarDefault ["**", .word, "="],
      wrong .doubleStarFirst ["**", .word, ",", .any [.word, "*", "**", "/"]]],
    .all ["**", plainParameter]]

def grammar : Phrase → Pattern
  | .whole => .all [expressions, .many .lineEnd, .stop]
  | .embedded => starExpressions
  | .expressions => tupleOrOne expression
  | .expression => expressionPattern
  | .starExpressions => tupleOrOne starExpression
  | .starExpression => .any [star arithmetic, expression]
  | .starredArgument => .any [star expression, .reject [wrong .nothingStarred ["*"]]]
  | .yieldExpression =>
    sort "yield expression" (.any [
      .all ["yield", "from", expression], .all ["yield", optional starExpressions]])
  | .namedMember => .any [star arithmetic, namedExpression]
  | .namedMembers => .all [separated namedMember, optional ","]
  | .assignment => sort "named expression" (.all [.word, ":=", expression])
  | .namedExpression => namedExpressionPattern
  | .disjunction =>
    made oneOrOperation (.all [inversion, .many (.all [.operator ["and", "or"], inversion])])
  | .inversion => .any [as .operation (.all ["not", inversion]), comparison]
  | .comparison =>
    made oneOrComparison (.all [arithmetic, .many (.all [comparisonSign, arithmetic])])
  | .arithmetic =>
    made Expr.ofOperands (.all [factor, .many (.all [.operator arithmeticSigns, factor])])
  | .factor =>
    .any [
      .build signedOf (.all [.any ["+", "-"], factor]), as .operation (.all ["~", factor]), awaited]
  | .awaited => .any [sort "await expression" (.all ["await", primary]), primary]
  | .primary => made applied (.all [atom, .many trailer])
  | .atom => atomPattern
  | .tuple =>
    made .tuple (.all ["(", optional (.all [namedMember, ",", optional namedMembers]), ")"])
  | .group => groupPattern
  | .generator => generatorPattern
  | .mapping => mappingPattern
  | .set => made .set (.all ["\x7b", namedMembers, "\x7d"])
  | .mappingComprehension =>
    .any [
      sort "dict comprehension" (.all ["\x7b", entry, forClauses, "\x7d"]),
      .explain [wrong .unpackedMapping ["\x7b", "**", arithmetic, forClauses, "\x7d"]]]
  | .setComprehension =>
    .any [
      sort "set comprehension" (.all ["\x7b", namedExpression, forClauses, "\x7d"]),
      wrongComprehension]
  | .entry => made entryOf (.all [expression, ":", expression])
  | .mappingMember => .any [as .unpacked (.all ["**", arithmetic]), entry]
  | .forClauses => Pattern.some forClause
  | .forClause => forClausePattern
  | .targets =>
    .any [
      .all [target, isNotAhead ","], .all [target, .many (.all [",", target]), optional ","]]
  | .target => .any [.all ["*", isNotAhead "*", target], targetAtom]
  | .targetAtom => targetAtomPattern
  | .targetPrimary => .all [atom, targetFollows, .many (.all [trailer, targetFollows])]
  | .arguments => argumentsPattern
  | .argumentList =>
    made .arguments (.any [
      .all [separated plainArgument, optional (.all [",", namedArguments])], namedArguments])
  | .namedArguments => namedArgumentsPattern
  | .function => sort "lambda" (.all ["lambda", optional parameters, ":", expression])
  | .parameters => parametersPattern
  | .starParameters => starParametersPattern
  | .unpackedParameter => unpackedParameterPattern

end QueryLinker.Console.Literal
