import QueryLinker.Console.Literal.Token

/-!
This module contains what matters of an expression: which literal it is, or else of which sort.
-/

namespace QueryLinker.Console.Literal

inductive Constant where
  | isTrue
  | isFalse
  | nothing
  | dots
deriving DecidableEq, Repr

def Constant.text : Constant → String
  | .isTrue => "True"
  | .isFalse => "False"
  | .nothing => "None"
  | .dots => "ellipsis"

inductive Expr where
  | name (letters : String)
  | constant (c : Constant)
  | number (n : Numeral)
  | text
  | formatted
  | tuple (members : List Expr)
  | set (members : List Expr)
  | mapping (members : List Expr)
  | entry (key value : Expr)
  | unpacked
  | signed (e : Expr)
  | sum (left right : Expr)
  | operation
  | comparison (isMembership : Bool) (left : Expr)
  | call (arguments : List Expr)
  | emptySet
  | attribute
  | starred (e : Expr)
  | named
  | arguments (es : List Expr)
  | operator (spelling : String)
  | other (sort : String)

namespace Expr

def sortName : Expr → String
  | .name _ => "name"
  | .constant c => c.text
  | .number _ => "literal"
  | .text => "literal"
  | .formatted => "f-string expression"
  | .tuple _ => "tuple"
  | .set _ => "set display"
  | .mapping _ => "dict literal"
  | .comparison _ _ => "comparison"
  | .call _ => "function call"
  | .emptySet => "function call"
  | .attribute => "attribute"
  | .starred _ => "starred"
  | .other sort => sort
  | _ => "expression"

def isStatementName : Expr → Bool
  | .name letters => letters == "print" || letters == "exec"
  | _ => false

def apply (base next : Expr) : Expr :=
  match base, next with
  | .name letters, .call [] => if letters == "set" then .emptySet else next
  | _, _ => next

def ofOperands : List Expr → Expr
  | [e] => e
  | [left, .operator sign, right] =>
    if sign == "+" || sign == "-" then .sum left right else .operation
  | _ => .operation

mutual

def notAssignable? : Expr → Option Expr
  | .tuple members => anyNotAssignable? members
  | .starred e => notAssignable? e
  | .comparison isMembership left => if isMembership then notAssignable? left else none
  | .name _ => none
  | .attribute => none
  | e => some e

def anyNotAssignable? : List Expr → Option Expr
  | [] => none
  | e :: es => (notAssignable? e).or (anyNotAssignable? es)

end

def isNamed : Expr → Bool
  | .named => true
  | .unpacked => true
  | _ => false

def isUnpacked : Expr → Bool
  | .unpacked => true
  | _ => false

end Expr

end QueryLinker.Console.Literal
