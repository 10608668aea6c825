import QueryLinker.Text.Lines
import QueryLinker.Text.LooseText

/-!
This module contains source texts of documents and the stretches of them that syntax nodes come
from.
-/

namespace QueryLinker.Graphql

structure Origin where
  file : String
  part : Nat
deriving DecidableEq, Repr, Inhabited

/--
A text with its origin. Equal texts of different origin are different sources. Where the text has
half a surrogate pair alone, its body has a replacement character, and the half is noted with its
offset.
-/
structure Source where
  origin : Origin
  body : String
  halves : List (Nat × Nat) := []
deriving DecidableEq, Repr, Inhabited

namespace Source

def ofText (text : LooseText) : Source :=
  ⟨⟨"", 0⟩, text.text, text.halves⟩

def positionAt (source : Source) (offset : Nat) : Text.Position :=
  Text.positionAfter (source.body.toList.take offset)

end Source

structure Loc where
  source : Source
  start : Nat
  stop : Nat
deriving Repr, Inhabited

namespace Loc

def position (loc : Loc) : Text.Position :=
  loc.source.positionAt loc.start

instance : BEq Loc where
  beq a b := a.start == b.start && a.stop == b.stop

end Loc

end QueryLinker.Graphql
