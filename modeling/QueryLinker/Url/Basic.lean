import QueryLinker.Text.Quoted
import QueryLinker.Url.Bracketed

/-!
This module contains URLs: the host that stands in one, for the names of files, and the address of
the query endpoint that belongs to a base address.
-/

namespace QueryLinker.Url

inductive Flaw where
  | unbalancedBracket
  | notAnAddress (text : String)
  | version4InBrackets
  | badLaterVersion
  | hiddenDelimiter (authority : String)
deriving DecidableEq, Repr

namespace Flaw

def message : Flaw → String
  | .unbalancedBracket => "Invalid IPv6 URL"
  | .notAnAddress text => Text.quoted text ++ " does not appear to be an IPv4 or IPv6 address"
  | .version4InBrackets => "An IPv4 address cannot be in brackets"
  | .badLaterVersion => "IPvFuture address is invalid"
  | .hiddenDelimiter authority =>
    "netloc '" ++ authority ++ "' contains invalid characters under NFKC normalization"

end Flaw

structure Parts where
  scheme : List Char
  authority : List Char
  path : List Char
deriving DecidableEq, Repr

def isSchemeChar (c : Char) : Bool :=
  c.isAlphanum || c == '+' || c == '-' || c == '.'

def takeScheme (cs : List Char) : List Char × List Char :=
  match cs.dropWhile (· != ':') with
  | ':' :: rest =>
    let scheme := cs.takeWhile (· != ':')
    if scheme.head?.any Char.isAlpha && scheme.all isSchemeChar then
      (scheme.map Char.toLower, rest)
    else
      ([], cs)
  | _ => ([], cs)

def hidesDelimiter (c : Char) : Bool :=
  c == '℀' || c == '℁' || c == '℅' || c == '℆' || c == '／' || c == '⁇' || c == '⁈' || c == '⁉' ||
    c == '︖' || c == '﹖' || c == '？' || c == '﹟' || c == '＃' || c == '﹫' || c == '＠' ||
    c == '⩴' || c == '︓' || c == '﹕' || c == '：'

def checkHost (host : List Char) : Except Flaw Unit :=
  if host.head? == some 'v' then
    if isLaterVersion host then .ok () else .error .badLaterVersion
  else if isVersion4 host then .error .version4InBrackets
  else if isVersion6 host then .ok ()
  else .error (.notAnAddress (String.ofList host))

def afterLast (mark : Char) (cs : List Char) : List Char :=
  (cs.reverse.takeWhile (· != mark)).reverse

def checkBrackets (authority : List Char) : Except Flaw Unit :=
  let opens := authority.contains '['
  let closes := authority.contains ']'
  if opens != closes then .error .unbalancedBracket
  else if !opens then .ok ()
  else
    let place := afterLast '@' authority
    -- Where brackets stand before the `@` alone, the host has to be an address all the same.
    if !place.contains '[' then checkHost (place.takeWhile (· != ':'))
    else
      match place with
      | '[' :: bracketed =>
        -- Only a port may stand behind the brackets.
        let port := (bracketed.dropWhile (· != ']')).drop 1
        if port.isEmpty || port.head? == some ':' then
          checkHost (bracketed.takeWhile (· != ']'))
        else .error .unbalancedBracket
      | _ => .error .unbalancedBracket

def schemesWithParameters : List String :=
  ["", "ftp", "hdl", "prospero", "http", "imap", "https", "shttp", "rtsp", "rtspu", "sip",
   "sips", "mms", "sftp", "tel"]

def dropParameters (path : List Char) : List Char :=
  let last := afterLast '/' path
  let front := path.take (path.length - last.length)
  front ++ last.takeWhile (· != ';')

def parts (url : String) : Except Flaw Parts := do
  let cs := url.toList.dropWhile fun c => c.toNat ≤ 0x20
  let cs := cs.filter fun c => c != '\t' && c != '\r' && c != '\n'
  let (scheme, rest) := takeScheme cs
  let (authority, rest) :=
    match rest with
    | '/' :: '/' :: rest =>
      let ends (c : Char) : Bool := c == '/' || c == '?' || c == '#'
      (rest.takeWhile fun c => !ends c, rest.dropWhile fun c => !ends c)
    | rest => ([], rest)
  checkBrackets authority
  let path := (rest.takeWhile (· != '#')).takeWhile (· != '?')
  if authority.any hidesDelimiter then throw (.hiddenDelimiter (String.ofList authority))
  let path :=
    if schemesWithParameters.contains (String.ofList scheme) then dropParameters path else path
  return ⟨scheme, authority, path⟩

def hostName (url : String) : Except Flaw String :=
  if url.startsWith "file://" then .ok "file"
  else do
    let parts ← parts url
    let host := if parts.authority.isEmpty then parts.path else parts.authority
    return String.ofList ((host.takeWhile (· != ':')).map fun c => if c == '/' then '_' else c)

def trimSlashes (url : String) : String :=
  String.ofList (url.toList.reverse.dropWhile (· == '/')).reverse

def endpoint (url : String) : String :=
  let url := trimSlashes url
  if url.endsWith "/graphql" then url ++ "/" else url ++ "/graphql/"

end QueryLinker.Url
