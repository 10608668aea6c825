/-!
This module contains texts in which halves of surrogate pairs may stand alone. Formats that write
characters by units of sixteen bits can say such a text, though a half is no character.
-/

namespace QueryLinker

namespace Text

/-! The units of sixteen bits that stand for a character in pairs, and for none alone. -/

def isLeadingSurrogate (unit : Nat) : Bool :=
  0xd800 ≤ unit && unit ≤ 0xdbff

def isTrailingSurrogate (unit : Nat) : Bool :=
  0xdc00 ≤ unit && unit ≤ 0xdfff

def isSurrogate (unit : Nat) : Bool :=
  isLeadingSurrogate unit || isTrailingSurrogate unit

def charOfPair (leading trailing : Nat) : Char :=
  Char.ofNat (0x10000 + (leading - 0xd800) * 0x400 + (trailing - 0xdc00))

end Text

inductive Letter where
  | char (c : Char)
  | half (unit : Nat)
deriving DecidableEq, Repr, Inhabited

namespace Letter

def ofUnit (unit : Nat) : Letter :=
  if Text.isSurrogate unit then .half unit else .char (Char.ofNat unit)

def codePoint : Letter → Nat
  | .char c => c.toNat
  | .half unit => unit

def shown : Letter → Char
  | .char c => c
  | .half _ => '\ufffd'

def char? : Letter → Option Char
  | .char c => some c
  | .half _ => none

def listLe : List Letter → List Letter → Bool
  | [], _ => true
  | _ :: _, [] => false
  | a :: as, b :: bs =>
    a.codePoint < b.codePoint || (a.codePoint == b.codePoint && listLe as bs)

end Letter

structure LooseText where
  letters : List Letter
deriving DecidableEq, Repr, Inhabited

namespace LooseText

def ofString (s : String) : LooseText :=
  ⟨s.toList.map .char⟩

instance : Coe String LooseText where
  coe := ofString

instance : Append LooseText where
  append t u := ⟨t.letters ++ u.letters⟩

def text (t : LooseText) : String :=
  String.ofList (t.letters.map Letter.shown)

def string? (t : LooseText) : Option String :=
  (t.letters.mapM Letter.char?).map String.ofList

def isEmpty (t : LooseText) : Bool :=
  t.letters.isEmpty

def pieces (t : LooseText) : List LooseText :=
  t.letters.map fun letter => ⟨[letter]⟩

def halves (t : LooseText) : List (Nat × Nat) :=
  t.letters.zipIdx.filterMap fun (letter, offset) =>
    match letter with
    | .char _ => none
    | .half unit => some (offset, unit)

def le (t u : LooseText) : Bool :=
  Letter.listLe t.letters u.letters

theorem string?_ofString (s : String) : (ofString s).string? = some s := by
  have (cs : List Char) : (cs.map Letter.char).mapM Letter.char? = some cs := by
    induction cs with
    | nil => rfl
    | cons c cs ih => simp [Letter.char?, ih]
  simp [ofString, string?, this]

end LooseText

end QueryLinker
