import QueryLinker.Files.Portion
import QueryLinker.Yaml.Flaw

/-!
This module contains the text of a YAML file as far as it can be read. A file is read in portions,
each of which is looked at when its first character is asked for; what is wrong with one of them
shows then. So whatever is wrong with the text before it shows first.
-/

namespace QueryLinker.Yaml

structure Source where
  text : List Char
  flaw? : Option Flaw := none
deriving DecidableEq, Repr

namespace Source

def isAllowed (c : Char) : Bool :=
  let n := c.toNat
  n == 0x09 || n == 0x0A || n == 0x0D || (0x20 ≤ n && n ≤ 0x7E) || n == 0x85 ||
    (0xA0 ≤ n && n ≤ 0xFFFD) || 0x10000 ≤ n

def portionSize : Nat := 4096

def ofPortions (flaw? : Option Flaw) (offset : Nat) : List (List Char) → Source
  | [] => ⟨[], flaw?⟩
  | cs :: portions =>
    match cs.findIdx? fun c => !isAllowed c with
    | some index => ⟨[], some (.unprintable (cs.getD index ' ') (offset + index))⟩
    | none =>
      let more := ofPortions flaw? (offset + cs.length) portions
      { more with text := cs ++ more.text }

def ofBytes (content : ByteArray) : Source :=
  let (portions, flaw?) := Files.portionsOf portionSize content
  let flaw? := flaw?.map Flaw.notText
  match portions with
  | first :: second :: others => ofPortions flaw? 0 ((first ++ second) :: others)
  | first => if flaw?.isSome then ⟨[], flaw?⟩ else ofPortions none 0 first

end Source

end QueryLinker.Yaml
