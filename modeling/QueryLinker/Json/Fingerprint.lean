import QueryLinker.Digest.Sha256
import QueryLinker.Json.Printer

/-!
This module contains the fingerprint of a JSON value: the beginning of the digest of its canonical
text. It does not depend on the order of members.
-/

namespace QueryLinker.Json

def fingerprintSize : Nat := 16

def fingerprint (value : Json) : String :=
  String.ofList
    ((Digest.sha256 value.canonicalText.toUTF8.toList).toList.take fingerprintSize)

def textFingerprint (text : String) : String :=
  (Json.str text).fingerprint

end QueryLinker.Json
