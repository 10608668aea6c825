import QueryLinker.Files.Tree

/-!
This module contains the reading of a text in portions. Bytes are taken from a file in chunks, and
each chunk becomes characters as a whole, together with the bytes of a character that the one before
it has cut off. So whether bytes are a text shows chunk by chunk, and what is said of those that are
none counts from the start of the chunk.
-/

namespace QueryLinker.Files

def leastChunk : Nat := 8192

structure OpenText where
  bytes : List UInt8
  cut : List UInt8 := []
  isReturned : Bool := false
  chars : List Char := []
  chunk : Nat × Nat := (0, 0)

namespace OpenText

def chunkSize (o : OpenText) (count : Nat) : Nat :=
  let (bytes, chars) := o.chunk
  max leastChunk (max count (bytes * count / chars))

def takeChunk (o : OpenText) (count : Nat) : Except Text.Utf8.Flaw (Bool × OpenText) := do
  let taken := o.bytes.take (o.chunkSize count)
  let isLast := taken.isEmpty
  let (cs, cut) ←
    if isLast then do pure (← Text.Utf8.decodeFrom 0 [] o.cut, [])
    else Text.Utf8.decodePart (o.cut ++ taken)
  let cs := if o.isReturned && (isLast || !cs.isEmpty) then '\r' :: cs else cs
  let waits := o.isReturned && !isLast && cs.isEmpty
  let isReturned := !isLast && cs.getLast? == some '\r'
  let chars := Text.unifyNewlines (if isReturned then cs.dropLast else cs)
  return (!isLast,
    { bytes := o.bytes.drop taken.length, cut, isReturned := isReturned || waits, chars
      chunk := (taken.length, chars.length) })

def readChars (o : OpenText) (count : Nat) : Nat → Except Text.Utf8.Flaw (List Char × OpenText)
  | 0 => .ok ([], o)
  | fuel + 1 => do
    let found := o.chars.take count
    let o := { o with chars := o.chars.drop count }
    if count ≤ found.length then return (found, o)
    let (isRead, o) ← o.takeChunk (count - found.length)
    if !isRead then return (found, o)
    let (more, o) ← o.readChars (count - found.length) fuel
    return (found ++ more, o)

def portions (o : OpenText) (count : Nat) :
    Nat → List (List Char) × Option Text.Utf8.Flaw
  | 0 => ([], none)
  | fuel + 1 =>
    match o.readChars count (o.bytes.length + 2) with
    | .error flaw => ([], some flaw)
    | .ok (cs, o) =>
      if cs.isEmpty then ([], none)
      else
        let (more, flaw?) := o.portions count fuel
        (cs :: more, flaw?)

end OpenText

def portionsOf (count : Nat) (content : ByteArray) : List (List Char) × Option Text.Utf8.Flaw :=
  OpenText.portions { bytes := content.toList } count (content.size + 1)

end QueryLinker.Files
