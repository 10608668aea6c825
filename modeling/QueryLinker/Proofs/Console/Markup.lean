import Mathlib.Data.List.Infix
import QueryLinker.Console.Markup
import QueryLinker.Proofs.Console.Layout
import QueryLinker.Proofs.Except

/-!
This module contains what is shown of texts with tags. A text whose tags open and close one style
after the other is shown without them, and its styles can be shown if they ask for no number that is
none. A text that holds nothing that could be taken for a tag, an escape or the name of an emoji is
shown as it is.
-/

namespace QueryLinker.Console

theorem map_toString_split (s : String) (isGap : Char → Bool) :
    (s.split isGap).toList.map (·.toString) =
      (List.splitOnP isGap s.toList).map String.ofList := by
  rw [← String.toList_split_bool]
  rfl

theorem Style.words_eq (text : String) : Style.words text =
    ((List.splitOnP Text.isBlank text.toList).map String.ofList).filter fun word =>
      !word.isEmpty := by
  unfold Style.words
  rw [map_toString_split]

theorem Emoji.replace_append {xs : List Char} (h : ':' ∉ xs) (ys : List Char) :
    Emoji.replace (xs ++ ys) = xs ++ Emoji.replace ys := by
  induction xs with
  | nil => rfl
  | cons c xs ih =>
    rw [List.mem_cons, not_or] at h
    rw [List.cons_append, Emoji.replace, if_neg (by simpa using Ne.symm h.1), ih h.2,
      List.cons_append]

theorem Emoji.replace_of_not_mem {cs : List Char} (h : ':' ∉ cs) : Emoji.replace cs = cs := by
  have happend := Emoji.replace_append h []
  rwa [Emoji.replace, List.append_nil] at happend

namespace Markup

def IsShown (style : String) : Prop :=
  ∀ flaw, Style.ofText style ≠ .error (.noNumber flaw)

theorem checkStyles_eq_ok {t : StyledText} (h : ∀ style ∈ styles t, IsShown style) :
    checkStyles t = .ok () := by
  apply forM_eq_ok
  intro s hs
  split
  . next flaw hflaw => exact absurd hflaw (h _ (List.mem_map_of_mem hs) flaw)
  . rfl

theorem shownLines_eq_ok {width : Nat} {t : StyledText} (h : ∀ style ∈ styles t, IsShown style) :
    shownLines (Console.lines width t) = .ok ((Console.lines width t).map StyledText.text) := by
  unfold shownLines
  rw [forM_eq_ok fun line hline =>
    checkStyles_eq_ok fun style hstyle => h style (styles_lines hline hstyle)]
  rfl

end Markup

/-! Styles by one colour. -/

def isPlainWord (word : String) : Bool :=
  Text.lower word == word && word != "on" && word != "not" && word != "link"

def isColorWord (word : String) : Bool :=
  isPlainWord word && attribute? word == none && word.toList.head? != some '#' &&
    word.toList.getLast? != some ')'

theorem checkColor_of_word {word : String} (h : isColorWord word = true) :
    checkColor word = .ok () ∨ checkColor word = .error .noStyle := by
  simp only [isColorWord, isPlainWord, Bool.and_eq_true, beq_iff_eq, bne_iff_ne] at h
  rcases h with ⟨⟨⟨⟨⟨⟨hlower, _⟩, _⟩, _⟩, _⟩, hhash⟩, hbracket⟩
  have hnone (beginning : String) : inBrackets? beginning word.toList = none := by
    unfold inBrackets?
    dsimp only
    rw [if_neg (by simp [hbracket])]
  unfold checkColor
  dsimp only
  rewrite [hlower, hnone, hnone]
  split
  . exact .inl rfl
  . split
    . next heq => simp [heq] at hhash
    . next heq _ => cases heq
    . next heq _ _ => cases heq
    . exact .inr rfl

theorem Style.ofWords_color (style : Style) {word : String} (h : isColorWord word = true) :
    style.ofWords [word] = .ok { style with color? := some word } ∨
      style.ofWords [word] = .error .noStyle := by
  have hcolor := checkColor_of_word h
  simp only [isColorWord, isPlainWord, Bool.and_eq_true, beq_iff_eq, bne_iff_ne] at h
  rcases h with ⟨⟨⟨⟨⟨⟨hlower, hon⟩, hnot⟩, hlink⟩, hattribute⟩, _⟩, _⟩
  rw [Style.ofWords, hlower]
  simp only [beq_iff_eq, if_neg hon, if_neg hnot, if_neg hlink, hattribute]
  rcases hcolor with h | h
  . rw [h]
    exact .inl rfl
  . rw [h]
    exact .inr rfl

theorem Style.ofWords_attribute (style : Style) {name : String} (words : List String)
    (hname : isPlainWord name = true) (hattribute : attribute? name = some name) :
    style.ofWords (name :: words) =
      { style with attributes := (name, true) :: style.attributes }.ofWords words := by
  simp only [isPlainWord, Bool.and_eq_true, beq_iff_eq, bne_iff_ne] at hname
  rcases hname with ⟨⟨⟨hlower, hon⟩, hnot⟩, hlink⟩
  rw [Style.ofWords.eq_def]
  simp only [hlower, beq_iff_eq, if_neg hon, if_neg hnot, if_neg hlink, hattribute]

theorem Style.ofText_of_words {text : String} {words : List String}
    (h : ((List.splitOnP Text.isBlank text.toList).map String.ofList).filter
      (fun word => !word.isEmpty) = words) (hnone : words ≠ ["none"]) :
    Style.ofText text = Style.ofWords {} words := by
  rw [Style.ofText, Style.words_eq, h, if_neg (by simpa using hnone)]

structure IsNormal (text : String) : Prop where
  known : ∃ style : Style, style.text = text ∧
    (Style.ofText text = .ok style ∨ Style.ofText text = .error .noStyle)
  lower : Text.lower (String.ofList (trim text.toList)) = text

namespace IsNormal

variable {text word : String}

theorem styleName (h : IsNormal text) : styleName text = .ok text := by
  rcases h.known with ⟨style, hnormal, h' | h'⟩
  . unfold Console.styleName
    rw [h', ← hnormal]
  . unfold Console.styleName
    rw [h']
    dsimp only
    rw [h.lower]

theorem isShown (h : IsNormal text) : Markup.IsShown text := by
  intro flaw hflaw
  rcases h.known with ⟨style, _, h' | h'⟩
  . cases h'.symm.trans hflaw
  . cases h'.symm.trans hflaw

theorem of_color (style : Style) (word : String) (hword : isColorWord word = true)
    (hwords : Style.ofText text = style.ofWords [word])
    (hnormal : { style with color? := some word }.text = text)
    (hlower : Text.lower (String.ofList (trim text.toList)) = text) : IsNormal text := by
  refine ⟨⟨_, hnormal, ?_⟩, hlower⟩
  rw [hwords]
  exact style.ofWords_color hword

theorem dim : IsNormal "dim" := by
  refine ⟨⟨{ attributes := [("dim", true)] }, by decide, .inl ?_⟩, by decide⟩
  have hwords : Style.ofText "dim" = Style.ofWords {} ["dim"] :=
    Style.ofText_of_words rfl (by decide)
  exact hwords.trans (Style.ofWords_attribute {} [] (by decide) (by decide))

theorem red : IsNormal "red" :=
  of_color {} "red" (by decide) (Style.ofText_of_words rfl (by decide)) (by decide) (by decide)

theorem green : IsNormal "green" :=
  of_color {} "green" (by decide) (Style.ofText_of_words rfl (by decide)) (by decide) (by decide)

theorem cyan : IsNormal "cyan" :=
  of_color {} "cyan" (by decide) (Style.ofText_of_words rfl (by decide)) (by decide) (by decide)

theorem ofText_bold {text : String} {words : List String}
    (h : ((List.splitOnP Text.isBlank text.toList).map String.ofList).filter
      (fun word => !word.isEmpty) = "bold" :: words) :
    Style.ofText text = Style.ofWords { attributes := [("bold", true)] } words := by
  rw [Style.ofText_of_words h (by simp), Style.ofWords_attribute _ _ (by decide) (by decide)]

theorem boldRed : IsNormal "bold red" :=
  of_color _ "red" (by decide) (ofText_bold rfl) (by decide) (by decide)

theorem boldCyan : IsNormal "bold cyan" :=
  of_color _ "cyan" (by decide) (ofText_bold rfl) (by decide) (by decide)

end IsNormal

namespace Markup

namespace Rendering

variable {r : Rendering} {cs shown : List Char} {offset : Nat} {name : String} {t : OpenTag}
  {others : List OpenTag}

theorem add_plain (h : sent (Emoji.replace (dropSlashes cs)) = shown) :
    r.add (.plain cs) = .ok { r with shown := shown.reverse ++ r.shown } := by
  rw [← h]
  rfl

theorem normal_of_styleName (h : styleName (String.ofList cs) = .ok name) :
    normal cs = .ok name := by
  unfold normal
  rw [h]
  rfl

theorem takeWhile_of_not_mem (h : '=' ∉ cs) : cs.takeWhile (· != '=') = cs := by
  rw [List.takeWhile_eq_self_iff]
  intro c hc
  rw [bne_iff_ne]
  rintro rfl
  exact h hc

theorem add_open (hslash : cs.head? ≠ some '/') (hequals : '=' ∉ cs)
    (hname : styleName (String.ofList cs) = .ok name) :
    r.add (.tag cs offset) =
      .ok { r with opened := ⟨name, none, r.shown.length⟩ :: r.opened } := by
  have hrest : cs.dropWhile (· != '=') = [] := by
    have happend := List.takeWhile_append_dropWhile (p := (· != '=')) (l := cs)
    rw [takeWhile_of_not_mem hequals] at happend
    exact List.append_right_eq_self.mp happend
  unfold add addTag
  dsimp only
  rw [takeWhile_of_not_mem hequals, hrest]
  split
  next => exact absurd rfl hslash
  next =>
    rw [normal_of_styleName hname]
    rfl

theorem add_close (hequals : '=' ∉ cs) (htrim : trim cs = cs) (hne : cs ≠ [])
    (hname : styleName (String.ofList cs) = .ok name)
    (hopened : closeLast? name r.opened = some (t, others)) (hcall : t.isCall = false) :
    r.add (.tag ('/' :: cs) offset) =
      .ok { r with opened := others, stretches := t.stretch r.shown.length :: r.stretches } := by
  have htake : ('/' :: cs).takeWhile (· != '=') = '/' :: cs :=
    takeWhile_of_not_mem (by simpa using hequals)
  unfold add addTag
  dsimp only
  rw [htake]
  split
  next name' heq =>
    cases heq
    rw [htrim]
    cases cs with
    | nil => exact absurd rfl hne
    | cons c cs =>
      dsimp only
      rw [normal_of_styleName hname]
      simp only [bind, Except.bind, hopened, pure, Except.pure, hcall]
      rfl
  next hslash => exact absurd rfl (hslash cs)

end Rendering

/-! Texts without tags. -/

def TagFree (cs : List Char) : Prop :=
  ∀ rest, '[' :: rest <:+ cs → tagBody? rest = none

instance : DecidablePred TagFree := fun cs =>
  decidable_of_iff (∀ rest ∈ cs.tails, rest.head? = some '[' → tagBody? rest.tail = none) <| by
    simp only [TagFree, List.mem_tails]
    constructor
    . exact fun h rest hrest => h _ hrest rfl
    . intro h rest hrest hhead
      rcases List.head?_eq_some_iff.mp hhead with ⟨rest, rfl⟩
      exact h rest hrest

namespace TagFree

variable {c : Char} {xs ys cs : List Char}

theorem of_not_mem (h : '[' ∉ cs) : TagFree cs := by
  intro rest hrest
  exact absurd (hrest.subset (List.mem_cons_self ..)) h

theorem tail (h : TagFree (c :: cs)) : TagFree cs :=
  fun rest hrest => h rest (hrest.trans (List.suffix_cons c cs))

theorem cons (hc : c = '[' → tagBody? cs = none) (h : TagFree cs) : TagFree (c :: cs) := by
  intro rest hrest
  rcases List.suffix_cons_iff.mp hrest with heq | hrest
  . cases heq
    exact hc rfl
  . exact h rest hrest

theorem append (hxs : '[' ∉ xs) (hys : TagFree ys) : TagFree (xs ++ ys) := by
  induction xs with
  | nil => exact hys
  | cons c xs ih =>
    rw [List.mem_cons, not_or] at hxs
    exact cons (fun hc => absurd hc.symm hxs.1) (ih hxs.2)

end TagFree

theorem tagBody?_append {cs : List Char} (h : tagBody? cs = none) (more : List Char) :
    tagBody? (cs ++ '[' :: more) = none := by
  unfold tagBody? at h ⊢
  split
  . next hopens =>
    have hhead : cs.head?.any opensTag = true := by
      cases cs with
      | nil => simp [opensTag] at hopens
      | cons c cs => exact hopens
    rw [if_pos hhead] at h
    rw [List.dropWhile_append]
    cases hdrop : cs.dropWhile fun c => c != ']' && c != '[' with
    | nil => simp
    | cons c rest =>
      rw [hdrop] at h
      simp only [List.isEmpty_cons, Bool.false_eq_true, if_false, List.cons_append]
      by_cases hc : c = ']'
      . subst hc
        cases h
      . split
        . next heq =>
          rw [List.cons.injEq] at heq
          exact absurd heq.1 hc
        . rfl
  . rfl

theorem tagBody?_body {body : List Char} (hopens : body.head?.any opensTag = true)
    (hbrackets : ∀ c ∈ body, (c != ']' && c != '[') = true) (rest : List Char) :
    tagBody? (body ++ ']' :: rest) = some (body, rest) := by
  have hhead : (body ++ ']' :: rest).head?.any opensTag = true := by
    cases body with
    | nil => simp at hopens
    | cons c body => exact hopens
  unfold tagBody?
  rw [if_pos hhead, List.dropWhile_append_of_pos hbrackets, List.takeWhile_append_of_pos hbrackets]
  simp

theorem replicate_succ_append (n : Nat) (cs : List Char) :
    List.replicate (n + 1) '\\' ++ cs = List.replicate n '\\' ++ '\\' :: cs := by
  rw [List.replicate_succ', List.append_assoc, List.singleton_append]

theorem piecesFrom_of_tagFree {cs : List Char} (h : TagFree cs) (before : List Char)
    (slashes offset : Nat) :
    piecesFrom before slashes offset cs =
      plain? (before.reverse ++ List.replicate slashes '\\' ++ cs) := by
  fun_induction piecesFrom before slashes offset cs with
  | case1 => simp
  | case2 before slashes offset cs ih =>
    rw [ih h.tail, List.append_assoc, replicate_succ_append, List.append_assoc]
  | case3 before slashes offset cs hnone ih =>
    rw [ih h.tail]
    simp
  | case4 before slashes offset cs body rest hbody =>
    have := h cs (List.suffix_refl _)
    simp [this] at hbody
  | case5 before slashes offset c cs hslash hbracket ih =>
    rw [ih h.tail]
    simp

def tagPiece (body : List Char) (slashes offset : Nat) : Piece :=
  if slashes % 2 = 1 then .plain ('[' :: body ++ [']']) else .tag body offset

theorem piecesFrom_bracket {before cs : List Char} {slashes offset : Nat} (h : tagBody? cs = none) :
    piecesFrom before slashes offset ('[' :: cs) =
      piecesFrom ('[' :: (List.replicate slashes '\\' ++ before)) 0 (offset + 1) cs := by
  rw [piecesFrom]
  split
  . rfl
  . next heq => cases h.symm.trans heq

theorem piecesFrom_tag {before cs body rest : List Char} {slashes offset : Nat}
    (h : tagBody? cs = some (body, rest)) :
    piecesFrom before slashes offset ('[' :: cs) =
      plain? before.reverse ++ plain? (List.replicate (slashes / 2) '\\') ++
        tagPiece body slashes offset :: piecesFrom [] 0 (offset + body.length + 2) rest := by
  rw [piecesFrom]
  split
  . next heq => cases h.symm.trans heq
  . next heq =>
    rw [h] at heq
    cases heq
    rfl

theorem piecesFrom_append {xs body ys : List Char} (hxs : TagFree xs)
    (hbody : tagBody? (body ++ ']' :: ys) = some (body, ys)) (before : List Char)
    (slashes offset : Nat) :
    ∃ plain n, plain ++ List.replicate n '\\' =
        before.reverse ++ (List.replicate slashes '\\' ++ xs) ∧
      piecesFrom before slashes offset (xs ++ '[' :: (body ++ ']' :: ys)) =
        plain? plain ++ plain? (List.replicate (n / 2) '\\') ++
          tagPiece body n (offset + xs.length) ::
            piecesFrom [] 0 (offset + xs.length + body.length + 2) ys := by
  induction xs generalizing before slashes offset with
  | nil => exact ⟨before.reverse, slashes, by simp, piecesFrom_tag hbody⟩
  | cons c xs ih =>
    rcases Decidable.em (c = '\\') with rfl | hslash
    . rcases ih hxs.tail before (slashes + 1) (offset + 1) with ⟨plain, n, hplain, hpieces⟩
      refine ⟨plain, n, ?_, ?_⟩
      . rw [hplain, replicate_succ_append]
      . rw [List.cons_append, piecesFrom, hpieces, List.length_cons, Nat.add_right_comm offset 1,
          Nat.add_assoc offset xs.length 1]
    . have hbefore : (c :: (List.replicate slashes '\\' ++ before)).reverse ++
          (List.replicate 0 '\\' ++ xs) =
          before.reverse ++ (List.replicate slashes '\\' ++ c :: xs) := by
        simp
      have hstep : piecesFrom before slashes offset (c :: (xs ++ '[' :: (body ++ ']' :: ys))) =
          piecesFrom (c :: (List.replicate slashes '\\' ++ before)) 0 (offset + 1)
            (xs ++ '[' :: (body ++ ']' :: ys)) := by
        rcases Decidable.em (c = '[') with rfl | hbracket
        . exact piecesFrom_bracket (tagBody?_append (hxs xs (List.suffix_refl _)) _)
        . rw [piecesFrom]
          . exact hslash
          . exact hbracket
      rcases ih hxs.tail (c :: (List.replicate slashes '\\' ++ before)) 0 (offset + 1) with
        ⟨plain, n, hplain, hpieces⟩
      refine ⟨plain, n, hplain.trans hbefore, ?_⟩
      rw [List.cons_append, hstep, hpieces, List.length_cons, Nat.add_right_comm offset 1,
        Nat.add_assoc offset xs.length 1]

/-! What is shown of texts with spans. -/

def shownOf (cs : List Char) : List Char :=
  sent (Emoji.replace (dropSlashes cs))

namespace Rendering

variable {r : Rendering} {cs xs body ys : List Char} {pieces : List Piece} {offset : Nat}

theorem foldlM_plain? (r : Rendering) (cs : List Char) (pieces : List Piece) :
    (plain? cs ++ pieces).foldlM add r =
      pieces.foldlM add { r with shown := (shownOf cs).reverse ++ r.shown } := by
  cases cs with
  | nil => simp [plain?, shownOf, dropSlashes, Emoji.replace, sent]
  | cons c cs => rfl

theorem foldlM_tagFree (h : TagFree cs) : (piecesFrom [] 0 offset cs).foldlM add r =
    .ok { r with shown := (shownOf cs).reverse ++ r.shown } := by
  have hpieces := foldlM_plain? r cs []
  rw [List.append_nil] at hpieces
  rw [piecesFrom_of_tagFree h]
  exact hpieces

theorem foldlM_append (hxs : TagFree xs) (hslash : xs.getLast? ≠ some '\\')
    (hbody : tagBody? (body ++ ']' :: ys) = some (body, ys)) :
    (piecesFrom [] 0 offset (xs ++ '[' :: (body ++ ']' :: ys))).foldlM add r = (do
      let r ← add { r with shown := (shownOf xs).reverse ++ r.shown }
        (.tag body (offset + xs.length))
      (piecesFrom [] 0 (offset + xs.length + body.length + 2) ys).foldlM add r) := by
  rcases piecesFrom_append hxs hbody [] 0 offset with ⟨plain, n, hplain, hpieces⟩
  have hn : n = 0 := by
    cases n with
    | zero => rfl
    | succ n =>
      refine absurd ?_ hslash
      have hxs : xs = plain ++ List.replicate n '\\' ++ ['\\'] := by
        simpa [List.replicate_succ'] using hplain.symm
      rw [hxs, List.getLast?_concat]
  subst hn
  have hplain : plain = xs := by simpa using hplain
  rw [hpieces, hplain, List.append_assoc, foldlM_plain?]
  rfl

end Rendering

structure Bare (cs : List Char) : Prop where
  tagFree : TagFree cs
  slash : cs.getLast? ≠ some '\\'

instance : DecidablePred Bare := fun cs =>
  decidable_of_iff (TagFree cs ∧ cs.getLast? ≠ some '\\')
    ⟨fun h => ⟨h.1, h.2⟩, fun h => ⟨h.tagFree, h.slash⟩⟩

namespace Bare

theorem of_not_mem {cs : List Char} (hbracket : '[' ∉ cs) (hslash : '\\' ∉ cs) : Bare cs :=
  ⟨.of_not_mem hbracket, fun hlast => hslash (List.mem_of_getLast? hlast)⟩

theorem append {xs ys : List Char} (hbracket : '[' ∉ xs) (hslash : xs.getLast? ≠ some '\\')
    (hys : Bare ys) : Bare (xs ++ ys) := by
  refine ⟨TagFree.append hbracket hys.tagFree, ?_⟩
  rw [List.getLast?_append]
  cases hlast : ys.getLast? with
  | none => exact hslash
  | some c =>
    rw [Option.some_or, ← hlast]
    exact hys.slash

end Bare

def isTagName (style : String) : Bool :=
  style.toList.head?.any Char.isLower &&
    style.toList.all (fun c => c != ']' && c != '[' && c != '=') &&
      trim style.toList == style.toList && !style.startsWith "@"

section

variable {r : Rendering} {style : String} {t : OpenTag} {others : List OpenTag} {offset : Nat}
  (hname : isTagName style = true)

include hname

theorem tagBody?_open (rest : List Char) :
    tagBody? (style.toList ++ ']' :: rest) = some (style.toList, rest) := by
  simp only [isTagName, Bool.and_eq_true, List.all_eq_true] at hname
  apply tagBody?_body
  . have hlower := hname.1.1.1
    rw [Option.any_eq_true] at hlower ⊢
    rcases hlower with ⟨c, hc, hlower⟩
    exact ⟨c, hc, by simp [opensTag, hlower]⟩
  . intro c hc
    simp [hname.1.1.2 c hc]

theorem tagBody?_close (rest : List Char) :
    tagBody? ('/' :: style.toList ++ ']' :: rest) = some ('/' :: style.toList, rest) := by
  simp only [isTagName, Bool.and_eq_true, List.all_eq_true] at hname
  apply tagBody?_body rfl
  rw [List.forall_mem_cons]
  refine ⟨rfl, fun c hc => ?_⟩
  simp [hname.1.1.2 c hc]

theorem add_openTag (hstyle : IsNormal style) : r.add (.tag style.toList offset) =
    .ok { r with opened := ⟨style, none, r.shown.length⟩ :: r.opened } := by
  simp only [isTagName, Bool.and_eq_true, List.all_eq_true, bne_iff_ne] at hname
  apply Rendering.add_open
  . intro hhead
    simp [hhead] at hname
  . exact fun hmem => (hname.1.1.2 _ hmem).2 rfl
  . rw [String.ofList_toList]
    exact hstyle.styleName

theorem add_closeTag (hstyle : IsNormal style) (hopened : r.opened = t :: others)
    (ht : t.name = style) : r.add (.tag ('/' :: style.toList) offset) =
      .ok { r with opened := others, stretches := t.stretch r.shown.length :: r.stretches } := by
  simp only [isTagName, Bool.and_eq_true, List.all_eq_true, bne_iff_ne, beq_iff_eq,
    Bool.not_eq_true'] at hname
  apply Rendering.add_close
  . exact fun hmem => (hname.1.1.2 _ hmem).2 rfl
  . exact hname.1.2
  . intro hnil
    simp [hnil] at hname
  . rw [String.ofList_toList]
    exact hstyle.styleName
  . rw [hopened, closeLast?, if_pos (by simpa using ht)]
  . rw [OpenTag.isCall, ht, hname.2]

end

structure Span where
  before : String
  style : String
  inner : String
  isTagName : isTagName style = true
  isNormal : IsNormal style
  bareBefore : Bare before.toList
  bareInner : Bare inner.toList

namespace Span

def ofPlain (before style inner : String) (hname : Markup.isTagName style = true)
    (hstyle : IsNormal style) (hbracket : '[' ∉ before.toList ++ inner.toList)
    (hslash : '\\' ∉ before.toList ++ inner.toList) : Span where
  before
  style
  inner
  isTagName := hname
  isNormal := hstyle
  bareBefore := .of_not_mem (fun h => hbracket (List.mem_append_left _ h))
    fun h => hslash (List.mem_append_left _ h)
  bareInner := .of_not_mem (fun h => hbracket (List.mem_append_right _ h))
    fun h => hslash (List.mem_append_right _ h)

def followedBy (s : Span) (rest : List Char) : List Char :=
  s.before.toList ++ '[' :: (s.style.toList ++ ']' ::
    (s.inner.toList ++ '[' :: ('/' :: s.style.toList ++ ']' :: rest)))

def shown (s : Span) : List Char :=
  shownOf s.before.toList ++ shownOf s.inner.toList

end Span

namespace Rendering

variable {r : Rendering} {offset : Nat}

theorem foldlM_span (s : Span) (rest : List Char) :
    ∃ offset' stretch, stretch.style = s.style ∧
      (piecesFrom [] 0 offset (s.followedBy rest)).foldlM add r =
        (piecesFrom [] 0 offset' rest).foldlM add
          { r with shown := s.shown.reverse ++ r.shown, stretches := stretch :: r.stretches } := by
  unfold Span.followedBy
  rw [foldlM_append s.bareBefore.tagFree s.bareBefore.slash (tagBody?_open s.isTagName _),
    add_openTag s.isTagName s.isNormal]
  dsimp only [bind, Except.bind]
  rw [foldlM_append s.bareInner.tagFree s.bareInner.slash (tagBody?_close s.isTagName _),
    add_closeTag s.isTagName s.isNormal rfl rfl]
  dsimp only [bind, Except.bind]
  rw [Span.shown, List.reverse_append, List.append_assoc]
  exact ⟨_, _, String.append_empty, rfl⟩

theorem foldlM_spans (r : Rendering) (offset : Nat) (spans : List Span) {rest : List Char}
    (hrest : TagFree rest) :
    ∃ stretches, (∀ s ∈ stretches, s.style ∈ spans.map (·.style)) ∧
      (piecesFrom [] 0 offset (spans.foldr Span.followedBy rest)).foldlM add r =
        .ok { r with
          shown := (spans.flatMap Span.shown ++ shownOf rest).reverse ++ r.shown
          stretches := stretches ++ r.stretches } := by
  induction spans generalizing r offset with
  | nil => exact ⟨[], by simp, foldlM_tagFree hrest⟩
  | cons s spans ih =>
    rcases foldlM_span s (spans.foldr Span.followedBy rest) with ⟨offset', stretch, hstretch, hspan⟩
    rcases ih _ offset' with ⟨stretches, hstretches, hspans⟩
    refine ⟨stretches ++ [stretch], ?_, ?_⟩
    . intro s' hs'
      rw [List.map_cons, List.mem_cons]
      rcases List.mem_append.mp hs' with hs' | hs'
      . exact .inr (hstretches s' hs')
      . rw [List.mem_singleton.mp hs']
        exact .inl hstretch
    . rw [List.foldr_cons, hspan, hspans]
      simp

end Rendering

theorem addTag_closing {r r' : Rendering} {name : List Char} {offset : Nat}
    (hopened : r.opened = []) : r.addTag ('/' :: name) offset ≠ .ok r' := by
  intro h
  unfold Rendering.addTag at h
  rw [hopened, List.takeWhile_cons_of_pos (by decide)] at h
  dsimp only at h
  split at h
  . split at h
    . cases h
    . next heq => cases heq
    . rcases bind_eq_ok_iff.mp h with ⟨name, _, h⟩
      cases h
  . next hslash => exact absurd rfl (hslash _)

theorem foldlM_closing {r' : Rendering} (r : Rendering) (offset : Nat) (spans : List Span)
    {xs name ys : List Char} (hopened : r.opened = []) (hxs : Bare xs)
    (hname : ∀ c ∈ name, (c != ']' && c != '[') = true) :
    (piecesFrom [] 0 offset (spans.foldr Span.followedBy
      (xs ++ '[' :: ('/' :: name ++ ']' :: ys)))).foldlM Rendering.add r ≠ .ok r' := by
  induction spans generalizing r offset with
  | nil =>
    have hbody : tagBody? ('/' :: name ++ ']' :: ys) = some ('/' :: name, ys) :=
      tagBody?_body rfl (List.forall_mem_cons.mpr ⟨rfl, hname⟩) ys
    rw [List.foldr_nil, Rendering.foldlM_append hxs.tagFree hxs.slash hbody]
    intro h
    rcases bind_eq_ok_iff.mp h with ⟨r'', hadd, _⟩
    have hnone : { r with shown := (shownOf xs).reverse ++ r.shown }.opened = [] := hopened
    exact addTag_closing hnone hadd
  | cons s spans ih =>
    rcases Rendering.foldlM_span s (spans.foldr Span.followedBy
      (xs ++ '[' :: ('/' :: name ++ ']' :: ys))) with ⟨offset', stretch, _, hspan⟩
    rw [List.foldr_cons, hspan]
    exact ih _ offset' hopened

theorem mem_styles_finish {r : Rendering} {style : String} (h : style ∈ styles r.finish)
    (hopened : r.opened = []) : style ∈ r.stretches.map (·.style) := by
  unfold styles Rendering.finish at h
  dsimp only at h
  rw [hopened] at h
  rcases List.mem_map.mp h with ⟨s, hs, rfl⟩
  exact List.mem_map_of_mem (by simpa using hs)

theorem dropSlashes_of_not_mem {cs : List Char} (h : '[' ∉ cs) : dropSlashes cs = cs := by
  fun_induction dropSlashes cs with
  | case1 => rfl
  | case2 => simp at h
  | case3 c cs _ ih => rw [ih (List.not_mem_of_not_mem_cons h)]

theorem render_spans {text : String} (spans : List Span) {rest : List Char} (hrest : TagFree rest)
    (htext : text.toList = spans.foldr Span.followedBy rest) :
    ∃ t, render text = .ok t ∧ t.chars = spans.flatMap Span.shown ++ shownOf rest ∧
      styles t ⊆ spans.map (·.style) := by
  unfold render
  dsimp only
  split
  . rcases Rendering.foldlM_spans {} 0 spans hrest with ⟨stretches, hstyles, hspans⟩
    rw [htext, hspans]
    refine ⟨_, rfl, ?_, ?_⟩
    . simp [Rendering.finish]
    . intro style hstyle
      have hmem := mem_styles_finish hstyle rfl
      rw [List.append_nil] at hmem
      rcases List.mem_map.mp hmem with ⟨s, hs, rfl⟩
      exact hstyles s (by simpa using hs)
  . next hbracket =>
    have hbracket : '[' ∉ text.toList := by simpa using hbracket
    cases spans with
    | nil =>
      refine ⟨_, rfl, ?_, by simp [styles]⟩
      rw [List.foldr_nil] at htext
      rw [htext] at hbracket ⊢
      rw [List.flatMap_nil, List.nil_append, shownOf, dropSlashes_of_not_mem hbracket]
    | cons s spans => simp [htext, Span.followedBy] at hbracket

theorem render_closing {text : String} {t : StyledText} (spans : List Span)
    {xs name ys : List Char} (hxs : Bare xs) (hname : ∀ c ∈ name, (c != ']' && c != '[') = true)
    (htext : text.toList =
      spans.foldr Span.followedBy (xs ++ '[' :: ('/' :: name ++ ']' :: ys))) :
    render text ≠ .ok t := by
  have hbracket : '[' ∈ text.toList := by
    rw [htext]
    cases spans <;> simp [Span.followedBy]
  intro h
  unfold render at h
  dsimp only at h
  rw [if_pos (by simpa using hbracket), htext, map_eq_ok_iff] at h
  rcases h with ⟨r, hfold, _⟩
  exact foldlM_closing {} 0 spans rfl hxs hname hfold

/-! Texts that are shown as they are. -/

/-- A text without tags, without a backslash that would be dropped, and without names of emoji. -/
structure Literal (cs : List Char) : Prop where
  tagFree : TagFree cs
  escape : ¬ ['\\', '['] <:+: cs
  emoji : Emoji.replace cs = cs

instance : DecidablePred Literal := fun cs =>
  decidable_of_iff (TagFree cs ∧ ¬ ['\\', '['] <:+: cs ∧ Emoji.replace cs = cs)
    ⟨fun h => ⟨h.1, h.2.1, h.2.2⟩, fun h => ⟨h.tagFree, h.escape, h.emoji⟩⟩

theorem dropSlashes_of_not_infix {cs : List Char} (h : ¬ ['\\', '['] <:+: cs) :
    dropSlashes cs = cs := by
  fun_induction dropSlashes cs with
  | case1 => rfl
  | case2 cs => exact absurd ⟨[], cs, rfl⟩ h
  | case3 c cs _ ih => rw [ih fun hcs => h (hcs.trans (List.suffix_cons c cs).isInfix)]

theorem sent_of_printable {cs : List Char} (h : Text.Printable cs) : sent cs = cs := by
  unfold sent
  rw [List.filter_eq_self]
  intro c hc
  rw [Bool.not_eq_true', Bool.eq_false_iff]
  intro hdropped
  have hprintable := h c hc
  simp only [isDropped, Bool.or_eq_true, beq_iff_eq] at hdropped
  rcases hdropped with (((rfl | rfl) | rfl) | rfl) | rfl <;> revert hprintable <;> decide +kernel

namespace Literal

variable {cs : List Char}

theorem shownOf_eq (h : Literal cs) (hprintable : Text.Printable cs) : shownOf cs = cs := by
  rw [shownOf, dropSlashes_of_not_infix h.escape, h.emoji, sent_of_printable hprintable]

theorem cons_blank (h : Literal cs) : Literal (' ' :: cs) := by
  have hblank : '[' ∉ [' '] := by decide
  refine ⟨TagFree.append hblank h.tagFree, ?_, ?_⟩
  . rw [List.infix_cons_iff]
    rintro (hstarts | hwithin)
    . simp at hstarts
    . exact h.escape hwithin
  . rw [Emoji.replace, if_neg (by decide), h.emoji]

end Literal

/-! Only literal texts are shown as they are: a tag takes its bracket away, or a backslash. -/

def marks (cs : List Char) : Nat :=
  cs.countP fun c => c == '[' || c == '\\'

theorem marks_append (xs ys : List Char) : marks (xs ++ ys) = marks xs + marks ys :=
  List.countP_append

theorem marks_cons (c : Char) (cs : List Char) : marks (c :: cs) = marks [c] + marks cs :=
  marks_append [c] cs

theorem marks_reverse (cs : List Char) : marks cs.reverse = marks cs :=
  List.countP_reverse

theorem marks_slashes (n : Nat) : marks (List.replicate n '\\') = n := by
  simp [marks, List.countP_replicate]

theorem dropSlashes_sublist (cs : List Char) : (dropSlashes cs).Sublist cs := by
  fun_induction dropSlashes cs with
  | case1 => exact .slnil
  | case2 cs ih => exact .cons _ (.cons_cons _ ih)
  | case3 c cs _ ih => exact .cons_cons _ ih

theorem marks_dropSlashes_lt {cs : List Char} (h : ['\\', '['] <:+: cs) :
    marks (dropSlashes cs) < marks cs := by
  fun_induction dropSlashes cs with
  | case1 => simp at h
  | case2 cs =>
    have hle : marks (dropSlashes cs) ≤ marks cs := (dropSlashes_sublist cs).countP_le
    have hslash : marks ['\\'] = 1 := rfl
    rw [marks_cons '\\', marks_cons '[', marks_cons '[' cs]
    omega
  | case3 c cs hne ih =>
    rw [marks_cons, marks_cons c cs]
    rcases List.infix_cons_iff.mp h with ⟨rest, hrest⟩ | h
    . cases hrest
      exact absurd rfl (hne rest rfl)
    . exact Nat.add_lt_add_left (ih h) _

section

variable {r r' : Rendering} {cs : List Char}

theorem marks_shownOf (hcolon : ':' ∉ cs) : marks (shownOf cs) ≤ marks (dropSlashes cs) := by
  have hdrop := dropSlashes_sublist cs
  rw [shownOf, Emoji.replace_of_not_mem fun hmem => hcolon (hdrop.subset hmem)]
  exact List.filter_sublist.countP_le

theorem marks_shown (r : Rendering) (cs : List Char) (hcolon : ':' ∉ cs) :
    marks ((shownOf cs).reverse ++ r.shown) ≤ marks r.shown + marks cs := by
  have hle : marks (dropSlashes cs) ≤ marks cs := (dropSlashes_sublist cs).countP_le
  rw [marks_append, marks_reverse, Nat.add_comm]
  exact Nat.add_le_add_left (Nat.le_trans (marks_shownOf hcolon) hle) _

theorem shown_of_addTag {body : List Char} {offset : Nat} (h : r.addTag body offset = .ok r') :
    r'.shown = r.shown := by
  unfold Rendering.addTag at h
  split at h
  . extract_lets goOn at h
    have hgoOn : ∀ x, goOn x = .ok r' → r'.shown = r.shown := by
      rintro ⟨t, opened⟩ h
      dsimp only [goOn] at h
      split at h
      . rcases bind_eq_ok_iff.mp h with ⟨_, _, h⟩
        cases h
        rfl
      . cases h
        rfl
    clear_value goOn
    split at h
    . cases h
    . rw [pure_bind] at h
      exact hgoOn _ h
    . rcases bind_eq_ok_iff.mp h with ⟨name, _, h⟩
      split at h
      . exact hgoOn _ h
      . cases h
  . rcases bind_eq_ok_iff.mp h with ⟨name, _, h⟩
    cases h
    rfl

theorem marks_tagPiece {body : List Char} {slashes offset : Nat} (hcolon : ':' ∉ body)
    (h : r.add (tagPiece body slashes offset) = .ok r') :
    marks r'.shown + slashes / 2 < marks r.shown + (slashes + 1 + marks body) := by
  have hopen : marks ['['] = 1 := rfl
  have hclose : marks [']'] = 0 := rfl
  unfold tagPiece at h
  split at h
  . next hodd =>
    cases h
    have hle := marks_shown r ('[' :: body ++ [']']) (by simp [hcolon])
    rw [marks_append ('[' :: body), marks_cons] at hle
    change marks ((shownOf _).reverse ++ _) + _ < _
    omega
  . rw [shown_of_addTag h]
    omega

theorem tagBody?_eq_some {body rest : List Char} (h : tagBody? cs = some (body, rest)) :
    cs = body ++ ']' :: rest := by
  unfold tagBody? at h
  split at h
  . split at h
    . next hdrop =>
      have happend :=
        List.takeWhile_append_dropWhile (p := fun c => c != ']' && c != '[') (l := cs)
      rw [Option.some.injEq, Prod.mk.injEq] at h
      rw [hdrop, h.1, h.2] at happend
      exact happend.symm
    . cases h
  . cases h

theorem marks_pushed (c : Char) (slashes : Nat) (before : List Char) :
    marks (c :: (List.replicate slashes '\\' ++ before)) = marks before + slashes + marks [c] := by
  rw [marks_cons, marks_append, marks_slashes]
  omega

/-- No mark is added to those of a text and `count` others, and a tag in the text takes one away. -/
structure KeepsMarks (r r' : Rendering) (count : Nat) (cs : List Char) : Prop where
  le : marks r'.shown ≤ marks r.shown + (count + marks cs)
  lt : ¬ TagFree cs → marks r'.shown < marks r.shown + (count + marks cs)

namespace KeepsMarks

theorem cons {c : Char} {count : Nat} (h : KeepsMarks r r' (count + marks [c]) cs)
    (hc : c = '[' → tagBody? cs = none) : KeepsMarks r r' count (c :: cs) := by
  have hmarks := marks_cons c cs
  rcases h with ⟨hle, hlt⟩
  refine ⟨by omega, fun htags => ?_⟩
  have hlt := hlt fun hfree => htags (hfree.cons hc)
  omega

theorem nil {before : List Char} {slashes : Nat} (hbefore : ':' ∉ before)
    (h : (plain? (List.replicate slashes '\\' ++ before).reverse).foldlM Rendering.add r =
      .ok r') : KeepsMarks r r' (marks before + slashes) [] := by
  have hfold := Rendering.foldlM_plain? r (List.replicate slashes '\\' ++ before).reverse []
  rw [List.append_nil] at hfold
  cases hfold.symm.trans h
  have hle := marks_shown r (List.replicate slashes '\\' ++ before).reverse (by simp [hbefore])
  rw [marks_reverse (List.replicate slashes '\\' ++ before),
    marks_append (List.replicate slashes '\\'), marks_slashes] at hle
  refine ⟨?_, fun htags => absurd (TagFree.of_not_mem (by simp)) htags⟩
  dsimp only
  omega

theorem tag {before body rest : List Char} {slashes offset : Nat} {pieces : List Piece}
    (hbefore : ':' ∉ before) (hbody : ':' ∉ body)
    (h : (plain? before.reverse ++ plain? (List.replicate (slashes / 2) '\\') ++
      tagPiece body slashes offset :: pieces).foldlM Rendering.add r = .ok r')
    (hpieces : ∀ {r''}, pieces.foldlM Rendering.add r'' = .ok r' → KeepsMarks r'' r' 0 rest) :
    KeepsMarks r r' (marks before + slashes) ('[' :: (body ++ ']' :: rest)) := by
  rw [List.append_assoc, Rendering.foldlM_plain?, Rendering.foldlM_plain?, List.foldlM_cons,
    bind_eq_ok_iff] at h
  rcases h with ⟨r'', hadd, h⟩
  have hrest := (hpieces h).le
  have htag := marks_tagPiece hbody hadd
  have hplain := marks_shown r before.reverse (by simpa using hbefore)
  have hslashes := marks_shown { r with shown := (shownOf before.reverse).reverse ++ r.shown }
    (List.replicate (slashes / 2) '\\') (by simp)
  rw [marks_reverse before] at hplain
  rw [marks_slashes] at hslashes
  have hmarks : marks ('[' :: (body ++ ']' :: rest)) = 1 + (marks body + marks rest) := by
    rw [marks_cons, marks_append, marks_cons ']']
    simp [marks]
  dsimp only at htag hslashes
  have hlt : marks r'.shown <
      marks r.shown + (marks before + slashes + marks ('[' :: (body ++ ']' :: rest))) := by omega
  exact ⟨Nat.le_of_lt hlt, fun _ => hlt⟩

end KeepsMarks

theorem keepsMarks_foldlM {before : List Char} {slashes offset : Nat} (hbefore : ':' ∉ before)
    (hcolon : ':' ∉ cs)
    (h : (piecesFrom before slashes offset cs).foldlM Rendering.add r = .ok r') :
    KeepsMarks r r' (marks before + slashes) cs := by
  fun_induction piecesFrom before slashes offset cs generalizing r with
  | case1 before slashes offset => exact .nil hbefore h
  | case2 before slashes offset cs ih =>
    rw [List.mem_cons, not_or] at hcolon
    exact (ih hbefore hcolon.2 h).cons fun hc => absurd hc (by decide)
  | case3 before slashes offset cs hnone ih =>
    rw [List.mem_cons, not_or] at hcolon
    have hmarks := ih (by simp [hbefore]) hcolon.2 h
    rw [marks_pushed] at hmarks
    exact hmarks.cons fun _ => hnone
  | case4 before slashes offset cs body rest hbody _ found =>
    rename_i ih
    have hcs := tagBody?_eq_some hbody
    subst hcs
    simp only [List.mem_cons, List.mem_append, not_or] at hcolon
    rcases hcolon with ⟨_, hcolonBody, _, hcolonRest⟩
    exact .tag hbefore hcolonBody h fun hpieces => ih (by simp) hcolonRest hpieces
  | case5 before slashes offset c cs hslash hbracket ih =>
    rw [List.mem_cons, not_or] at hcolon
    have hmarks := ih (by simp [hbefore, hcolon.1]) hcolon.2 h
    rw [marks_pushed] at hmarks
    exact hmarks.cons fun hc => absurd hc hbracket

end

theorem render_eq_self_iff {text : String} (hprintable : Text.Printable text.toList)
    (hcolon : ':' ∉ text.toList) :
    (∃ t, render text = .ok t ∧ t.chars = text.toList) ↔ Literal text.toList := by
  constructor
  . rintro ⟨t, ht, hchars⟩
    have hfree : TagFree text.toList := by
      apply Classical.byContradiction
      intro htags
      have hbracket : '[' ∈ text.toList :=
        Decidable.byContradiction fun hnot => htags (.of_not_mem hnot)
      unfold render at ht
      dsimp only at ht
      rw [if_pos (by simpa using hbracket), map_eq_ok_iff] at ht
      rcases ht with ⟨r, hfold, rfl⟩
      have hlt := (keepsMarks_foldlM (by simp) hcolon hfold).lt htags
      have hshown : marks r.shown = marks text.toList := by
        rw [← hchars, ← marks_reverse]
        rfl
      have hnil : marks [] = 0 := rfl
      dsimp only at hlt
      omega
    refine ⟨hfree, fun hescape => ?_, Emoji.replace_of_not_mem hcolon⟩
    rcases render_spans [] hfree rfl with ⟨t', ht', hshown, _⟩
    cases ht.symm.trans ht'
    have hlt := Nat.lt_of_le_of_lt (marks_shownOf hcolon) (marks_dropSlashes_lt hescape)
    have hself : shownOf text.toList = text.toList := hshown.symm.trans hchars
    rw [hself] at hlt
    exact Nat.lt_irrefl _ hlt
  . intro h
    rcases render_spans [] h.tagFree rfl with ⟨t, ht, hchars, _⟩
    exact ⟨t, ht, hchars.trans (h.shownOf_eq hprintable)⟩

end Markup

end QueryLinker.Console
