import QueryLinker.Link.Location
import QueryLinker.Text.Alphanumeric
import QueryLinker.Text.Blank

/-!
This module contains the GraphQL texts that are embedded in source files: templates between
backticks that are tagged with the word `graphql`. GraphQL itself has no backticks, so that a
template ends at the first one.
-/

namespace QueryLinker

structure TaggedTemplate where
  body : String
  place : TemplateLocation
  isHook : Bool
  isStaticQuery : Bool
deriving DecidableEq, Repr

namespace TaggedTemplate

def tag : List Char := "graphql".toList

def startsWord (before : List Char) : Bool :=
  !before.head?.any Text.isWordChar

structure Occurrence where
  opening : List Char
  body : List Char
  rest : List Char

def behind? : List Char → List Char → Option (List Char)
  | [], cs => some cs
  | _ :: _, [] => none
  | p :: ps, c :: cs => if p == c then behind? ps cs else none

def occurrence? (cs : List Char) : Option Occurrence :=
  match behind? tag cs with
  | none => none
  | some afterTag =>
    let blanks := afterTag.takeWhile Text.isBlank
    match afterTag.dropWhile Text.isBlank with
    | '\x60' :: inside =>
      match inside.dropWhile (· != '\x60') with
      | '\x60' :: rest => some ⟨tag ++ blanks ++ ['\x60'], inside.takeWhile (· != '\x60'), rest⟩
      | _ => none
    | _ => none

theorem eq_append_of_behind? {ps cs rest : List Char} (h : behind? ps cs = some rest) :
    cs = ps ++ rest := by
  fun_induction behind? ps cs with
  | case1 cs => simpa using h
  | case2 => simp at h
  | case3 p ps c cs hp ih =>
    simp only [beq_iff_eq] at hp
    simp [hp, ih h]
  | case4 => simp at h

theorem eq_append_of_occurrence? {cs : List Char} {o : Occurrence} (h : occurrence? cs = some o) :
    cs = o.opening ++ (o.body ++ '\x60' :: o.rest) := by
  simp only [occurrence?] at h
  split at h
  · simp at h
  next afterTag hTag =>
    split at h
    next inside hInside =>
      split at h
      next rest hRest =>
        simp only [Option.some.injEq] at h
        subst h
        have hBlanks := List.takeWhile_append_dropWhile (p := Text.isBlank) (l := afterTag)
        have hBody := List.takeWhile_append_dropWhile (p := (· != '\x60')) (l := inside)
        rw [hInside] at hBlanks
        rw [hRest] at hBody
        rw [eq_append_of_behind? hTag]
        simp only [List.append_assoc, List.cons_append, List.nil_append]
        rw [hBody, hBlanks]
      · simp at h
    · simp at h

theorem length_rest_lt {cs : List Char} {o : Occurrence} (h : occurrence? cs = some o) :
    o.rest.length < cs.length := by
  have := congrArg List.length (eq_append_of_occurrence? h)
  simp at this
  omega

def endsInHook (before : List Char) : Bool :=
  match before.dropWhile Text.isBlank with
  | '(' :: before =>
    (behind? "useStaticQuery".toList.reverse (before.dropWhile Text.isBlank)).isSome
  | _ => false

def isInElement (element : List Char) (before : List Char) : Bool :=
  let inside := before.takeWhile (· != '<')
  (before.dropWhile (· != '<')).head? == some '<' && startsWord before &&
    match behind? element inside.reverse with
    | some (c :: _) => !Text.isWordChar c
    | _ => false

def endsInElement (before : List Char) : Bool :=
  match before.dropWhile Text.isBlank with
  | '\x7b' :: before =>
    match before.dropWhile Text.isBlank with
    | '=' :: before =>
      match behind? "query".toList.reverse (before.dropWhile Text.isBlank) with
      | some before => isInElement "StaticQuery".toList before
      | none => false
    | _ => false
  | _ => false

def placeAfter (before : List Char) : TemplateLocation :=
  ⟨Int.ofNat (before.count '\n' + 1), Int.ofNat (before.takeWhile (· != '\n')).length⟩

def ofOccurrence (before : List Char) (o : Occurrence) : TaggedTemplate :=
  let isHook := endsInHook before
  { body := String.ofList o.body
    place := placeAfter (o.opening.reverse ++ before)
    isHook, isStaticQuery := isHook || endsInElement before }

/--
The templates of a text behind `before`, the last character first. What is inside a template is no
tag, and a template of blanks does not count.
-/
def scan (before cs : List Char) : List TaggedTemplate :=
  match cs with
  | [] => []
  | c :: rest =>
    match h : (if startsWord before then occurrence? (c :: rest) else none) with
    | none => scan (c :: before) rest
    | some o =>
      have := length_rest_lt (Option.ite_none_right_eq_some.mp h).2
      let found := scan ('\x60' :: (o.body.reverse ++ (o.opening.reverse ++ before))) o.rest
      if o.body.all Text.isBlank then found else ofOccurrence before o :: found
termination_by cs.length
decreasing_by
  . exact Nat.lt_succ_self _
  . assumption

def extract (text : String) : List TaggedTemplate :=
  scan [] text.toList

end TaggedTemplate

end QueryLinker
