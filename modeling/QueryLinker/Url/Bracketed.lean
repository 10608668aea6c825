import QueryLinker.Text.Lines

/-!
This module contains the addresses that a URL may hold between square brackets: addresses of version
six of the internet protocol and of later versions.
-/

namespace QueryLinker.Url

def isHexDigit (c : Char) : Bool :=
  c.isDigit || ('a' ≤ c && c ≤ 'f') || ('A' ≤ c && c ≤ 'F')

def isOctet (cs : List Char) : Bool :=
  !cs.isEmpty && cs.all Char.isDigit && cs.length ≤ 3 &&
    (cs.length == 1 || cs.head? != some '0') && (String.ofList cs).toNat?.any (· ≤ 255)

def isVersion4 (cs : List Char) : Bool :=
  let octets := Text.splitAt '.' cs
  octets.length == 4 && octets.all isOctet

def isHextet (cs : List Char) : Bool :=
  !cs.isEmpty && cs.all isHexDigit && cs.length ≤ 4

def innerGaps (parts : List (List Char)) : List Nat :=
  (List.range parts.length).filter fun i =>
    0 < i && i + 1 < parts.length && (parts.getD i []).isEmpty

def areHextets (parts : List (List Char)) : Bool :=
  3 ≤ parts.length && parts.length ≤ 9 &&
    match innerGaps parts with
    | [] => parts.length == 8 && parts.all isHextet
    | [gap] =>
      let before := parts.take gap
      let after := parts.drop (gap + 1)
      let before := if before == [[]] then [] else before
      let after := if after == [[]] then [] else after
      before.all isHextet && after.all isHextet && before.length + after.length < 8
    | _ => false

def isVersion6 (cs : List Char) : Bool :=
  let address := cs.takeWhile (· != '%')
  let zone := cs.dropWhile (· != '%')
  let zoneOk := zone.isEmpty || (1 < zone.length && !zone.tail.contains '%')
  let parts := Text.splitAt ':' address
  let last := parts.getLastD []
  let parts? :=
    if last.contains '.' then
      if isVersion4 last then some (parts.dropLast ++ [['0'], ['0']]) else none
    else some parts
  zoneOk && !address.contains '/' && 3 ≤ parts.length && parts?.any areHextets

def isLaterVersion (cs : List Char) : Bool :=
  match cs with
  | 'v' :: cs =>
    match cs.takeWhile isHexDigit, cs.dropWhile isHexDigit with
    | _ :: _, '.' :: c :: cs => (c :: cs).all (· != '\n')
    | _, _ => false
  | _ => false

end QueryLinker.Url
