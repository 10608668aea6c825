import QueryLinker.Json.Fingerprint
import QueryLinker.Path.Basic
import QueryLinker.Url.Basic

/-!
This module contains the places of cached schemas. The file of an endpoint is named for its host,
for readers, and for a digest of its whole address, which keeps endpoints of one host apart.
-/

namespace QueryLinker.SchemaCache

def digestSize : Nat := 8

def filePath (directory url : String) : Except Url.Flaw String := do
  let host ← Url.hostName url
  let digest := String.ofList ((Json.textFingerprint url).toList.take digestSize)
  return Path.join [directory, host ++ "-" ++ digest ++ ".json"]

end QueryLinker.SchemaCache
