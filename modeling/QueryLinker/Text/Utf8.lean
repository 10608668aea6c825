/-!
This module contains the reading of bytes as text. Every character is written as one to four bytes:
the first one tells how many follow and what the second one may be.
-/

namespace QueryLinker.Text

namespace Utf8

inductive Cause where
  | invalidStart
  | invalidContinuation
  | cutOff
deriving DecidableEq, Repr

namespace Cause

def message : Cause → String
  | .invalidStart => "invalid start byte"
  | .invalidContinuation => "invalid continuation byte"
  | .cutOff => "unexpected end of data"

end Cause

structure Flaw where
  cause : Cause
  start : Nat
  stop : Nat
  byte : UInt8
deriving DecidableEq, Repr

namespace Flaw

def message (f : Flaw) : String :=
  "'utf-8' codec can't decode " ++
    (if f.stop == f.start + 1 then
      "byte 0x" ++ String.ofList (hexPair f.byte) ++ " in position " ++ toString f.start
     else "bytes in position " ++ toString f.start ++ "-" ++ toString (f.stop - 1)) ++
    ": " ++ f.cause.message
where
  hexPair (b : UInt8) : List Char :=
    [Nat.digitChar (b.toNat / 16), Nat.digitChar (b.toNat % 16)]

end Flaw

structure Lead where
  tails : Nat
  low : Nat
  high : Nat
  bits : Nat

def lead? (byte : UInt8) : Option Lead :=
  let b := byte.toNat
  if b < 0x80 then some ⟨0, 0x80, 0xBF, b⟩
  else if b < 0xC2 then none
  else if b < 0xE0 then some ⟨1, 0x80, 0xBF, b - 0xC0⟩
  else if b < 0xF0 then
    some ⟨2, if b == 0xE0 then 0xA0 else 0x80, if b == 0xED then 0x9F else 0xBF, b - 0xE0⟩
  else if b < 0xF5 then
    some ⟨3, if b == 0xF0 then 0x90 else 0x80, if b == 0xF4 then 0x8F else 0xBF, b - 0xF0⟩
  else none

def readTails (code : Nat) (low high : Nat) : Nat → List UInt8 → Except (Nat × Cause) Nat
  | 0, _ => .ok code
  | _ + 1, [] => .error (0, .cutOff)
  | n + 1, b :: bs =>
    if low ≤ b.toNat && b.toNat ≤ high then
      (readTails (code * 64 + b.toNat % 64) 0x80 0xBF n bs).mapError
        fun (k, cause) => (k + 1, cause)
    else .error (0, .invalidContinuation)

def decodeFrom (offset : Nat) (done : List Char) (bytes : List UInt8) : Except Flaw (List Char) :=
  match bytes with
  | [] => .ok done.reverse
  | b :: bs =>
    match lead? b with
    | none => .error ⟨.invalidStart, offset, offset + 1, b⟩
    | some lead =>
      match readTails lead.bits lead.low lead.high lead.tails bs with
      | .ok code =>
        decodeFrom (offset + 1 + lead.tails) (Char.ofNat code :: done) (bs.drop lead.tails)
      | .error (right, cause) => .error ⟨cause, offset, offset + 1 + right, b⟩
termination_by bytes.length

def isCutHalf : List UInt8 → Bool
  | [first, second] => first.toNat == 0xED && 0xA0 ≤ second.toNat && second.toNat ≤ 0xBF
  | _ => false

def decodePart (bytes : List UInt8) : Except Flaw (List Char × List UInt8) :=
  match decodeFrom 0 [] bytes with
  | .ok cs => .ok (cs, [])
  | .error flaw =>
    let cut := bytes.drop flaw.start
    -- What is cut off may go on in the next portion.
    if flaw.cause = .cutOff || isCutHalf cut then
      (decodeFrom 0 [] (bytes.take flaw.start)).map fun cs => (cs, cut)
    else .error flaw

def decode (bytes : ByteArray) : Except Flaw String :=
  (decodeFrom 0 [] bytes.toList).map String.ofList

end Utf8

end QueryLinker.Text
