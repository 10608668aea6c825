import QueryLinker.Text.Lines

/-!
This module contains block strings, the texts between three quotes. The value of a block string is
what stands between the quotes without the indentation that its lines have in common and without
blank lines at both ends. In print, line ends are added at both ends where that reads better or is
needed to read the same value back.
-/

namespace QueryLinker.Graphql.BlockString

def isIndent (c : Char) : Bool :=
  c == ' ' || c == '\t'

def isFilled (line : List Char) : Bool :=
  line.any fun c => !isIndent c

def commonIndent (lines : List (List Char)) : Option Nat :=
  ((lines.drop 1).filter isFilled).map (fun line => (line.takeWhile isIndent).length) |>.min?

def unindent (lines : List (List Char)) : List (List Char) :=
  match lines with
  | [] => []
  | first :: rest =>
    match commonIndent lines with
    | none => first :: rest.map fun _ => []
    | some n => first :: rest.map (·.drop n)

def trimBlank (lines : List (List Char)) : List (List Char) :=
  let isEmpty (line : List Char) : Bool := !isFilled line
  ((lines.dropWhile isEmpty).reverse.dropWhile isEmpty).reverse

def dedent (lines : List (List Char)) : List (List Char) :=
  trimBlank (unindent lines)

def escape : List Char → List Char
  | '"' :: '"' :: '"' :: cs => '\\' :: '"' :: '"' :: '"' :: escape cs
  | c :: cs => c :: escape cs
  | [] => []

def maxLineSize : Nat := 70

def print (value : String) : String :=
  let cs := value.toList
  let escaped := escape cs
  let lines := Text.splitLines escaped
  let single := lines.length ≤ 1
  let startsLine (line : List Char) : Bool := line.head?.all isIndent
  let breakBefore := !single && (lines.drop 1).all startsLine
  let endsInQuotes := ['"', '"', '"', '\\'].isPrefixOf escaped.reverse
  let breakAfter := (cs.getLast? == some '"' && !endsInQuotes) || cs.getLast? == some '\\'
  let several := !single || maxLineSize < cs.length || breakAfter || breakBefore || endsInQuotes
  let indented := single && cs.head?.any isIndent
  let before := if (several && !indented) || breakBefore then ['\n'] else []
  let after := if several || breakAfter then ['\n'] else []
  String.ofList ("\"\"\"".toList ++ before ++ escaped ++ after ++ "\"\"\"".toList)

end QueryLinker.Graphql.BlockString
