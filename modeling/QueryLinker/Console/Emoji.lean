import QueryLinker.Console.EmojiNames
import QueryLinker.Text.Blank
import QueryLinker.Text.LetterCase

/-!
This module contains emoji that are given by their names between colons. A name may end in `-text`
or `-emoji`, which asks for a way to show the emoji. A name that is not known is left as it is.
-/

namespace QueryLinker.Console.Emoji

def pairs : List String → List (String × String)
  | name :: emoji :: rest => (name, emoji) :: pairs rest
  | _ => []

def table : List (String × String) :=
  allNames.flatMap fun text =>
    let words := (text.split Char.isWhitespace).toList.map (·.toString)
    pairs (words.filter fun word => !word.isEmpty)

def variants : List (String × Char) :=
  [("-emoji", '\ufe0f'), ("-text", '\ufe0e')]

def ofName? (name : String) : Option String :=
  match variants.find? fun (ending, _) => name.endsWith ending with
  | some (ending, mark) =>
    (table.lookup (Text.lower (String.ofList (name.toList.take (name.length - ending.length))))).map
      fun emoji => emoji.push mark
  | none => table.lookup (Text.lower name)

def isNameChar (c : Char) : Bool :=
  c != ':' && !Text.isBlank c

def replace : List Char → List Char
  | [] => []
  | c :: cs =>
    if c == ':' then
      match h : cs.dropWhile isNameChar with
      | ':' :: rest =>
        have : rest.length < cs.length := by
          have hle := (List.dropWhile_sublist isNameChar (l := cs)).length_le
          rw [h, List.length_cons] at hle
          exact hle
        let name := cs.takeWhile isNameChar
        match ofName? (String.ofList name) with
        | some emoji => emoji.toList ++ replace rest
        | none => ':' :: name ++ ':' :: replace rest
      | _ => ':' :: replace cs
    else c :: replace cs
termination_by cs => cs.length

end QueryLinker.Console.Emoji
