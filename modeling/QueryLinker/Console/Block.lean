import QueryLinker.Console.Markup
import QueryLinker.Console.Table
import QueryLinker.Limits

/-!
This module contains what programs print on a terminal: texts with and without tags, and tables. In
both sorts of texts names of emoji are replaced.
-/

namespace QueryLinker.Console

inductive Block where
  | tagged (text : String)
  | plain (text : String)
  | verbatim (text : String)
  | table (rows : List (List String))
deriving Repr

def Block.lines (width : Nat) : Block → Except Markup.Flaw (List String)
  | .tagged text => do Markup.shownLines (Console.lines width (← Markup.render text))
  | .plain text =>
    .ok ((Console.lines width ⟨sent (Emoji.replace text.toList), []⟩).map StyledText.text)
  | .verbatim text => .ok ((Text.splitAt '\n' text.toList).map String.ofList)
  | .table rows => do
    let columns ← (transpose rows).mapM fun column => column.mapM Markup.render
    (cellRows width columns).forM fun row => row.forM fun lines => lines.forM Markup.checkStyles
    return tableLines width columns

def print (blocks : List Block) (width : Nat := usualWidth) : List String × Option Markup.Flaw :=
  match blocks with
  | [] => ([], none)
  | block :: blocks =>
    match block.lines width with
    | .error flaw => ([], some flaw)
    | .ok lines =>
      let (others, flaw?) := print blocks width
      (lines ++ others, flaw?)

end QueryLinker.Console
