import QueryLinker.Console.Argument
import QueryLinker.Console.Emoji
import QueryLinker.Console.Line
import QueryLinker.Console.Style
import QueryLinker.Text.Quoted

/-!
This module contains texts with style tags. A tag stands in brackets and begins with a small letter
or one of `#`, `/` and `@`; it styles what follows, up to the tag that closes it, and is not shown
itself. Behind an equals sign, parameters may follow the name of a style, and are part of what is
written of it. A tag with `@` names something that is called when what it marks is chosen, and may
give arguments. A backslash in front of a tag makes it plain text; of several backslashes, each two
stand for one. Names of emoji are replaced in every stretch of plain text.
-/

namespace QueryLinker.Console.Markup

def opensTag (c : Char) : Bool :=
  c.isLower || c == '#' || c == '/' || c == '@'

def tagBody? (cs : List Char) : Option (List Char × List Char) :=
  if cs.head?.any opensTag then
    match cs.dropWhile fun c => c != ']' && c != '[' with
    | ']' :: rest => some (cs.takeWhile fun c => c != ']' && c != '[', rest)
    | _ => none
  else none

theorem length_of_tagBody? {cs body rest : List Char} (h : tagBody? cs = some (body, rest)) :
    rest.length < cs.length := by
  unfold tagBody? at h
  split at h
  · split at h
    · next heq =>
      simp only [Option.some.injEq, Prod.mk.injEq] at h
      have hle := (List.dropWhile_sublist (fun c => c != ']' && c != '[') (l := cs)).length_le
      rw [heq, List.length_cons, h.2] at hle
      exact hle
    · cases h
  · cases h

inductive Piece where
  | plain (cs : List Char)
  | tag (body : List Char) (offset : Nat)
deriving DecidableEq, Repr

def plain? (cs : List Char) : List Piece :=
  if cs.isEmpty then [] else [.plain cs]

/--
The pieces of a text. `before` are the characters since the last tag, the last one first, and
`slashes` the number of backslashes behind them. A tag that is plain text is a stretch of its own,
and so are the backslashes in front of a tag.
-/
def piecesFrom (before : List Char) (slashes offset : Nat) : List Char → List Piece
  | [] => plain? (List.replicate slashes '\\' ++ before).reverse
  | '\\' :: cs => piecesFrom before (slashes + 1) (offset + 1) cs
  | '[' :: cs =>
    match h : tagBody? cs with
    | none => piecesFrom ('[' :: (List.replicate slashes '\\' ++ before)) 0 (offset + 1) cs
    | some (body, rest) =>
      have := length_of_tagBody? h
      let found := if slashes % 2 = 1 then .plain ('[' :: body ++ [']']) else .tag body offset
      plain? before.reverse ++ plain? (List.replicate (slashes / 2) '\\') ++
        found :: piecesFrom [] 0 (offset + body.length + 2) rest
  | c :: cs => piecesFrom (c :: (List.replicate slashes '\\' ++ before)) 0 (offset + 1) cs
termination_by cs => cs.length

def dropSlashes : List Char → List Char
  | [] => []
  | '\\' :: '[' :: cs => '[' :: dropSlashes cs
  | c :: cs => c :: dropSlashes cs

inductive Flaw where
  | notOpen (tag : String) (offset : Nat)
  | nothingOpen (offset : Nat)
  | noArguments (given : String) (flaw : ArgumentFlaw)
  | noNumber (flaw : Number.IntegerFlaw)
deriving DecidableEq, Repr

def Flaw.message : Flaw → String
  | .notOpen tag offset =>
    "closing tag '[" ++ tag ++ "]' at position " ++ toString offset ++ " doesn't match any open tag"
  | .nothingOpen offset =>
    "closing tag '[/]' at position " ++ toString offset ++ " has nothing to close"
  | .noArguments given flaw => flaw.message given
  | .noNumber flaw => flaw.message

structure OpenTag where
  name : String
  parameters? : Option (List Char)
  start : Nat
deriving DecidableEq, Repr

namespace OpenTag

def isCall (t : OpenTag) : Bool :=
  t.name.startsWith "@"

def stretch (t : OpenTag) (stop : Nat) : Stretch :=
  let parameters := (t.parameters?.map fun cs => " " ++ String.ofList cs).getD ""
  ⟨t.start, stop, t.name ++ parameters⟩

def checkArguments (t : OpenTag) : Except Flaw Unit :=
  let parameters := t.parameters?.getD []
  if parameters.isEmpty then .ok ()
  else (Argument.check (trim parameters)).mapError (.noArguments (String.ofList parameters))

end OpenTag

def closeLast? (name : String) : List OpenTag → Option (OpenTag × List OpenTag)
  | [] => none
  | t :: ts =>
    if t.name == name then some (t, ts)
    else (closeLast? name ts).map fun (found, others) => (found, t :: others)

structure Rendering where
  shown : List Char := []
  opened : List OpenTag := []
  stretches : List Stretch := []

namespace Rendering

def normal (name : List Char) : Except Flaw String :=
  (styleName (String.ofList name)).mapError .noNumber

def addTag (r : Rendering) (body : List Char) (offset : Nat) : Except Flaw Rendering := do
  match body.takeWhile (· != '=') with
  | '/' :: name =>
    let (t, opened) ←
      match trim name, r.opened with
      | [], [] => throw (.nothingOpen offset)
      | [], t :: others => pure (t, others)
      | name, opened =>
        match closeLast? (← normal name) opened with
        | some found => pure found
        | none => throw (.notOpen (String.ofList body) offset)
    if t.isCall then
      t.checkArguments
      return { r with opened }
    else return { r with opened, stretches := t.stretch r.shown.length :: r.stretches }
  | name =>
    let parameters? :=
      match body.dropWhile (· != '=') with
      | [] => none
      | _ :: parameters => some parameters
    return { r with opened := ⟨← normal name, parameters?, r.shown.length⟩ :: r.opened }

def add (r : Rendering) : Piece → Except Flaw Rendering
  | .plain cs =>
    return { r with shown := (sent (Emoji.replace (dropSlashes cs))).reverse ++ r.shown }
  | .tag body offset => r.addTag body offset

/--
The text with its stretches by their starts. Tags that are still open style up to the end; of
stretches with one start, the one that was closed last comes first.
-/
def finish (r : Rendering) : StyledText :=
  let stretches := r.opened.reverse.map (·.stretch r.shown.length) ++ r.stretches
  ⟨r.shown.reverse, stretches.mergeSort fun a b => a.start ≤ b.start⟩

end Rendering

def render (text : String) : Except Flaw StyledText :=
  let cs := text.toList
  if cs.contains '[' then
    ((piecesFrom [] 0 0 cs).foldlM Rendering.add {}).map Rendering.finish
  else .ok ⟨sent (Emoji.replace cs), []⟩

def checkStyles (t : StyledText) : Except Flaw Unit :=
  t.stretches.forM fun s =>
    match Style.ofText s.style with
    | .error (.noNumber flaw) => .error (.noNumber flaw)
    -- What is no style at all does not count.
    | _ => .ok ()

def shownLines (lines : List StyledText) : Except Flaw (List String) := do
  lines.forM checkStyles
  return lines.map (·.text)

end QueryLinker.Console.Markup
