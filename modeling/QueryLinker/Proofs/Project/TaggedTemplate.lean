import Mathlib.Data.List.TakeWhile
import QueryLinker.Project.TaggedTemplate

/-!
This module contains that the places of templates are right: a position in the text of a template,
moved by where the template starts, is the position of the same character in the file. It also
contains that the templates of a source file are those that are to be found in it: of all places
where a tag with its template stands, the ones that a search from the left comes to, but for those
with a template of blanks.
-/

namespace QueryLinker

namespace Text

def Position.next (p : Position) (c : Char) : Position :=
  if c = '\n' then ⟨p.line + 1, 1⟩ else ⟨p.line, p.column + 1⟩

def positionAt (cs : List Char) (i : Nat) : Position :=
  (cs.take i).foldl Position.next ⟨1, 1⟩

end Text

open Text

namespace TemplateLocation

variable {t : TemplateLocation}

theorem translate_eq_iff {p q : Position} :
    t.translate (.ofPosition q) = .ofPosition p ↔
      (q.line + t.line - 1 = p.line ∧
        q.column + (if q.line = 1 then t.column else 0) = p.column) := by
  have hfirst : (q.line : Int) = 1 ↔ q.line = 1 := by omega
  simp [translate, Location.ofPosition, hfirst]

theorem translate_next {p q : Position} (hq : 1 ≤ q.line)
    (h : t.translate (.ofPosition q) = .ofPosition p) (c : Char) :
    t.translate (.ofPosition (q.next c)) = .ofPosition (p.next c) := by
  rw [translate_eq_iff] at h ⊢
  unfold Position.next
  split
  . -- The next line is not the first one, so its columns stay as they are.
    dsimp only
    rw [if_neg (by omega)]
    omega
  . dsimp only
    omega

theorem translate_foldl_next {p q : Position} (hq : 1 ≤ q.line)
    (h : t.translate (.ofPosition q) = .ofPosition p) (cs : List Char) :
    t.translate (.ofPosition (cs.foldl Position.next q)) =
      .ofPosition (cs.foldl Position.next p) := by
  induction cs generalizing p q with
  | nil => exact h
  | cons c cs ih =>
    rw [List.foldl_cons, List.foldl_cons]
    apply ih
    . unfold Position.next
      split
      . simp
      . exact hq
    . exact translate_next hq h c

end TemplateLocation

namespace TaggedTemplate

theorem translate_placeAfter (before : List Char) :
    (placeAfter before).translate (.ofPosition ⟨1, 1⟩) =
      .ofPosition (before.reverse.foldl Position.next ⟨1, 1⟩) := by
  rw [TemplateLocation.translate_eq_iff, if_pos rfl]
  unfold placeAfter
  induction before with
  | nil => simp
  | cons c before ih =>
    rw [List.reverse_cons, List.foldl_append, List.foldl_cons, List.foldl_nil]
    generalize before.reverse.foldl Position.next ⟨1, 1⟩ = p at ih
    unfold Position.next
    by_cases hc : c = '\n'
    . simp [hc] at ih ⊢
      omega
    . simp [hc] at ih ⊢
      omega

theorem text_of_occurrence {before cs : List Char} {o : Occurrence}
    (h : (if startsWord before then occurrence? cs else none) = some o) :
    before.reverse ++ cs =
      ('\x60' :: (o.body.reverse ++ (o.opening.reverse ++ before))).reverse ++ o.rest := by
  split at h
  . rw [eq_append_of_occurrence? h]
    simp
  . simp at h

theorem exists_append_of_mem_scan {before cs : List Char} {t : TaggedTemplate}
    (h : t ∈ scan before cs) :
    ∃ front body rest, before.reverse ++ cs = front ++ (body ++ rest) ∧
      t.body = String.ofList body ∧ t.place = placeAfter front.reverse := by
  fun_induction scan before cs with
  | case1 => simp at h
  | case2 before c rest hnone ih => simpa using ih h
  | case3 before c rest o hsome _ found hblank ih =>
    rw [text_of_occurrence hsome]
    exact ih h
  | case4 before c rest o hsome _ found hblank ih =>
    rw [text_of_occurrence hsome]
    rcases List.mem_cons.mp h with rfl | h
    . refine ⟨before.reverse ++ o.opening, o.body, '\x60' :: o.rest, ?_, rfl, ?_⟩
      . simp
      . simp [ofOccurrence]
    . exact ih h

/--
Every template stands in the file, and each position in its text is translated to the position of
the same character in the file.
-/
theorem extract_translates {text : String} {t : TaggedTemplate} (h : t ∈ extract text) :
    ∃ o, o + t.body.length ≤ text.length ∧
      (text.toList.drop o).take t.body.length = t.body.toList ∧
      ∀ p ≤ t.body.length, t.place.translate (.ofPosition (positionAt t.body.toList p)) =
        .ofPosition (positionAt text.toList (o + p)) := by
  rcases exists_append_of_mem_scan h with ⟨front, body, rest, htext, hbody, hplace⟩
  rw [List.reverse_nil, List.nil_append] at htext
  have hlength : t.body.length = body.length := by rw [hbody, String.length_ofList]
  refine ⟨front.length, ?_, ?_, ?_⟩
  . have := congrArg List.length htext
    simp only [String.length_toList, List.length_append] at this
    omega
  . rw [htext, hlength, hbody, String.toList_ofList]
    simp
  . intro p hp
    rw [hlength] at hp
    unfold positionAt
    rw [htext, hbody, String.toList_ofList, hplace, List.take_length_add_append,
      List.take_append_of_le_length hp, List.foldl_append]
    apply TemplateLocation.translate_foldl_next
    . exact Nat.le_refl 1
    . rw [translate_placeAfter, List.reverse_reverse]

theorem extract_translates_two :
    let text := "a\n graphql\x60\n\x7b b \x7d\x60, graphql\x60\x7b c \x7d\x60"
    let t : TaggedTemplate := ⟨"\x7b c \x7d", ⟨3, 16⟩, false, false⟩
    t ∈ extract text ∧ ∃ o, o + t.body.length ≤ text.length ∧
      (text.toList.drop o).take t.body.length = t.body.toList ∧
      ∀ p ≤ t.body.length, t.place.translate (.ofPosition (positionAt t.body.toList p)) =
        .ofPosition (positionAt text.toList (o + p)) := by
  intro text t
  have h : t ∈ extract text := by decide +kernel
  exact ⟨h, extract_translates h⟩

end TaggedTemplate

namespace Text

def IsWordBoundary (cs : List Char) (i : Nat) : Prop :=
  (cs.take i).getLast?.any isWordChar ≠ (cs.drop i).head?.any isWordChar

end Text

namespace TaggedTemplate

structure Stretch where
  start : Nat
  blanks : List Char
  body : List Char

namespace Stretch

def opening (s : Stretch) : List Char :=
  tag ++ s.blanks ++ ['\x60']

def letters (s : Stretch) : List Char :=
  s.opening ++ (s.body ++ ['\x60'])

def stop (s : Stretch) : Nat :=
  s.start + s.letters.length

def isBlank (s : Stretch) : Bool :=
  s.body.all Text.isBlank

structure Occurs (cs : List Char) (s : Stretch) : Prop where
  boundary : Text.IsWordBoundary cs s.start
  letters : s.letters <+: cs.drop s.start
  blanks : ∀ c ∈ s.blanks, Text.isBlank c
  body : '\x60' ∉ s.body

def template (cs : List Char) (s : Stretch) : TaggedTemplate :=
  ofOccurrence (cs.take s.start).reverse ⟨s.opening, s.body, cs.drop s.stop⟩

end Stretch

/--
What a search from the left chooses from a position on: the first stretch that starts there or
later, and then what it chooses from the end of that stretch on.
-/
inductive Chosen (cs : List Char) : Nat → List Stretch → Prop where
  | none {i} (h : ∀ s : Stretch, s.Occurs cs → s.start < i) : Chosen cs i []
  | next {i s later} (hs : s.Occurs cs) (hi : i ≤ s.start)
      (hfirst : ∀ s' : Stretch, s'.Occurs cs → i ≤ s'.start → s.start ≤ s'.start)
      (hlater : Chosen cs s.stop later) : Chosen cs i (s :: later)

variable {cs before : List Char} {o : Occurrence} {s s' : Stretch} {i : Nat}

theorem tag_eq : tag = ['g', 'r', 'a', 'p', 'h', 'q', 'l'] := by
  rfl

theorem behind?_append (ps cs : List Char) : behind? ps (ps ++ cs) = some cs := by
  induction ps with
  | nil => rfl
  | cons p ps ih => simp [behind?, ih]

theorem exists_of_occurrence? (h : occurrence? cs = some o) :
    ∃ blanks, (∀ c ∈ blanks, Text.isBlank c) ∧ '\x60' ∉ o.body ∧
      o.opening = tag ++ blanks ++ ['\x60'] := by
  unfold occurrence? at h
  split at h
  . simp at h
  next afterTag _ =>
    split at h
    next inside _ =>
      split at h
      next rest _ =>
        simp only [Option.some.injEq] at h
        subst h
        refine ⟨_, ?_, ?_, rfl⟩
        . intro c hc
          exact List.mem_takeWhile_imp hc
        . intro hmem
          simpa using List.mem_takeWhile_imp hmem
      . simp at h
    . simp at h

theorem occurrence?_append {blanks body : List Char} (rest : List Char)
    (hblanks : ∀ c ∈ blanks, Text.isBlank c) (hbody : '\x60' ∉ body) :
    occurrence? (tag ++ (blanks ++ '\x60' :: (body ++ '\x60' :: rest))) =
      some ⟨tag ++ blanks ++ ['\x60'], body, rest⟩ := by
  have hquote : ¬ Text.isBlank '\x60' := by decide
  have hinside : ∀ c ∈ body, (c != '\x60') = true := by
    intro c hc
    rw [bne_iff_ne]
    rintro rfl
    exact hbody hc
  simp [occurrence?, behind?_append, List.dropWhile_append_of_pos hblanks,
    List.takeWhile_append_of_pos hblanks, List.dropWhile_cons_of_neg hquote,
    List.takeWhile_cons_of_neg hquote, List.dropWhile_append_of_pos hinside,
    List.takeWhile_append_of_pos hinside]

theorem isWordBoundary_iff {rest : List Char} :
    Text.IsWordBoundary (before.reverse ++ (tag ++ rest)) before.length ↔ startsWord before := by
  have htag : Text.isWordChar 'g' = true := by decide
  have hlength : before.length = before.reverse.length := by simp
  unfold Text.IsWordBoundary startsWord
  rw [hlength, List.take_left, List.drop_left, List.getLast?_reverse]
  change _ ≠ Text.isWordChar 'g' ↔ _
  simp [htag]

namespace Stretch

theorem letters_eq (s : Stretch) (rest : List Char) :
    s.letters ++ rest = tag ++ (s.blanks ++ '\x60' :: (s.body ++ '\x60' :: rest)) := by
  simp [letters, opening]

theorem length_letters_pos (s : Stretch) : 0 < s.letters.length := by
  unfold letters
  simp only [List.length_append, List.length_singleton]
  omega

theorem drop_stop (hs : s.start = before.length) (rest : List Char) :
    (before.reverse ++ (s.letters ++ rest)).drop s.stop = rest := by
  rw [stop, hs, ← List.append_assoc]
  apply List.drop_left'
  simp

theorem occurs_iff (hs : s.start = before.length) :
    s.Occurs (before.reverse ++ cs) ↔ startsWord before ∧ (∀ c ∈ s.blanks, Text.isBlank c) ∧
      '\x60' ∉ s.body ∧ ∃ rest, cs = s.letters ++ rest := by
  have hdrop : (before.reverse ++ cs).drop s.start = cs := by
    rw [hs]
    apply List.drop_left'
    simp
  constructor
  . intro h
    rcases h.letters with ⟨rest, hrest⟩
    rw [hdrop] at hrest
    have hboundary := h.boundary
    rw [← hrest, letters_eq, hs, isWordBoundary_iff] at hboundary
    exact ⟨hboundary, h.blanks, h.body, rest, hrest.symm⟩
  . rintro ⟨hword, hblanks, hbody, rest, hcs⟩
    refine ⟨?_, ?_, hblanks, hbody⟩
    . rw [hcs, letters_eq, hs]
      exact isWordBoundary_iff.mpr hword
    . rw [hdrop]
      exact ⟨rest, hcs.symm⟩

end Stretch

theorem occurrence?_eq_some_iff :
    (if startsWord before then occurrence? cs else none) = some o ↔
      ∃ s : Stretch, s.Occurs (before.reverse ++ cs) ∧ s.start = before.length ∧
        o = ⟨s.opening, s.body, (before.reverse ++ cs).drop s.stop⟩ := by
  constructor
  . intro h
    split at h
    next hword =>
      rcases exists_of_occurrence? h with ⟨blanks, hblanks, hbody, hopening⟩
      let s : Stretch := ⟨before.length, blanks, o.body⟩
      have hcs : cs = s.letters ++ o.rest := by
        rw [eq_append_of_occurrence? h, hopening]
        simp [s, Stretch.letters, Stretch.opening]
      refine ⟨s, (Stretch.occurs_iff rfl).mpr ⟨hword, hblanks, hbody, o.rest, hcs⟩, rfl, ?_⟩
      rw [hcs, Stretch.drop_stop rfl]
      rcases o with ⟨opening, body, rest⟩
      dsimp only at hopening
      rw [hopening]
      rfl
    . simp at h
  . rintro ⟨s, hs, hstart, rfl⟩
    rcases (Stretch.occurs_iff hstart).mp hs with ⟨hword, hblanks, hbody, rest, hcs⟩
    rw [if_pos hword, hcs, Stretch.drop_stop hstart, Stretch.letters_eq,
      occurrence?_append rest hblanks hbody]
    rfl

namespace Stretch

theorem Occurs.exists_split (h : s.Occurs cs) :
    ∃ (before rest : List Char), cs = before.reverse ++ (s.letters ++ rest) ∧
      s.start = before.length := by
  rcases h.letters with ⟨rest, hrest⟩
  refine ⟨(cs.take s.start).reverse, rest, ?_, ?_⟩
  . rw [hrest]
    simp
  . have := congrArg List.length hrest
    simp at this
    have := s.length_letters_pos
    simp
    omega

theorem Occurs.eq_of_start (h : s.Occurs cs) (h' : s'.Occurs cs) (hstart : s'.start = s.start) :
    s' = s := by
  rcases h.exists_split with ⟨before, rest, rfl, hs⟩
  have hfound := occurrence?_eq_some_iff.mpr ⟨s, h, hs, rfl⟩
  have hfound' := occurrence?_eq_some_iff.mpr ⟨s', h', hstart.trans hs, rfl⟩
  rw [hfound, Option.some.injEq, Occurrence.mk.injEq] at hfound'
  rcases s with ⟨start, blanks, body⟩
  rcases s' with ⟨start', blanks', body'⟩
  simp [opening] at hfound' hstart
  simp [hstart, hfound']

theorem Occurs.head (h : s.Occurs cs) : cs[s.start]? = some 'g' := by
  rcases h.exists_split with ⟨before, rest, rfl, hs⟩
  rw [letters_eq, hs, List.getElem?_append_right (by simp)]
  simp [tag_eq]

theorem Occurs.not_isBlank (h : s.Occurs cs) (h' : s'.Occurs cs) (hstart : s.start < s'.start)
    (hstop : s'.start < s.stop) : ¬ s.isBlank := by
  intro hblank
  have hletter : 'g' ∈ s.letters.tail := by
    have hhead := h'.head
    rcases h.exists_split with ⟨before, rest, rfl, hs⟩
    unfold stop at hstop
    rw [hs] at hstart hstop
    rw [List.getElem?_append_right (by simp; omega), List.length_reverse,
      List.getElem?_append_left (by omega),
      show s'.start - before.length = s'.start - before.length - 1 + 1 by omega,
      ← List.getElem?_tail] at hhead
    exact List.mem_of_getElem? hhead
  have hg : ¬ Text.isBlank 'g' := by decide
  simp [Stretch.letters, opening, tag_eq] at hletter
  rcases hletter with hletter | hletter
  . exact hg (h.blanks _ hletter)
  . exact hg (List.all_eq_true.mp hblank _ hletter)

end Stretch

namespace Chosen

variable {chosen : List Stretch}

theorem skip (h : Chosen cs (i + 1) chosen) (hnone : ∀ s : Stretch, s.Occurs cs → s.start ≠ i) :
    Chosen cs i chosen := by
  have hlater (s : Stretch) (hs : s.Occurs cs) (hi : i ≤ s.start) : i + 1 ≤ s.start := by
    have := hnone s hs
    omega
  cases h with
  | none h =>
    apply Chosen.none
    intro s hs
    have := h s hs
    have := hnone s hs
    omega
  | next hs hi hfirst hrest =>
    apply Chosen.next hs (by omega) _ hrest
    intro s' hs' hi'
    exact hfirst s' hs' (hlater s' hs' hi')

theorem unique {other : List Stretch} (h : Chosen cs i chosen) (h' : Chosen cs i other) :
    other = chosen := by
  induction h generalizing other with
  | none h =>
    cases h' with
    | none => rfl
    | next hs' hi' =>
      have := h _ hs'
      omega
  | next hs hi hfirst _ ih =>
    cases h' with
    | none h' =>
      have := h' _ hs
      omega
    | next hs' hi' hfirst' hlater' =>
      have hle := hfirst _ hs' hi'
      have hge := hfirst' _ hs hi
      cases hs.eq_of_start hs' (by omega)
      rw [ih hlater']

theorem start_le (h : Chosen cs i chosen) : ∀ s ∈ chosen, i ≤ s.start := by
  induction h with
  | none => simp
  | next hs hi _ _ ih =>
    intro s' hs'
    rcases List.mem_cons.mp hs' with rfl | hs'
    . exact hi
    . have := ih s' hs'
      unfold Stretch.stop at this
      omega

theorem occurs (h : Chosen cs i chosen) : ∀ s ∈ chosen, s.Occurs cs := by
  induction h with
  | none => simp
  | next hs _ _ _ ih => exact List.forall_mem_cons.mpr ⟨hs, ih⟩

theorem pairwise (h : Chosen cs i chosen) :
    chosen.Pairwise fun s s' => s.stop ≤ s'.start := by
  induction h with
  | none => simp
  | next _ _ _ hlater ih => exact List.pairwise_cons.mpr ⟨hlater.start_le, ih⟩

theorem mem_or_inside (h : Chosen cs i chosen) (hs : s.Occurs cs) (hi : i ≤ s.start) :
    s ∈ chosen ∨ ∃ s' ∈ chosen, s'.Occurs cs ∧ s'.start < s.start ∧ s.start < s'.stop := by
  induction h with
  | none h =>
    have := h s hs
    omega
  | @next i s' later hs' hi' hfirst _ ih =>
    by_cases hstart : s.start = s'.start
    . left
      simp [hs'.eq_of_start hs hstart]
    by_cases hstop : s.start < s'.stop
    . right
      have := hfirst s hs hi
      exact ⟨s', by simp, hs', by omega, hstop⟩
    rcases ih (by omega) with hmem | ⟨s'', hmem, hinside⟩
    . exact .inl (List.mem_cons_of_mem _ hmem)
    . exact .inr ⟨s'', List.mem_cons_of_mem _ hmem, hinside⟩

end Chosen

theorem exists_next {later : List Stretch}
    (hsome : (if startsWord before then occurrence? cs else none) = some o)
    (hlater : Chosen (before.reverse ++ cs)
      ('\x60' :: (o.body.reverse ++ (o.opening.reverse ++ before))).length later) :
    ∃ s : Stretch, Chosen (before.reverse ++ cs) before.length (s :: later) ∧
      s.isBlank = o.body.all Text.isBlank ∧
      s.template (before.reverse ++ cs) = ofOccurrence before o := by
  rcases occurrence?_eq_some_iff.mp hsome with ⟨s, hs, hstart, rfl⟩
  have hstop : ('\x60' :: (s.body.reverse ++ (s.opening.reverse ++ before))).length = s.stop := by
    simp [Stretch.stop, Stretch.letters, hstart]
    omega
  rw [hstop] at hlater
  refine ⟨s, .next hs (by omega) ?_ hlater, rfl, ?_⟩
  . intro s' _ hs'
    omega
  . rw [Stretch.template, hstart, List.take_left' (by simp), List.reverse_reverse]

theorem exists_chosen (before cs : List Char) :
    ∃ chosen, Chosen (before.reverse ++ cs) before.length chosen ∧
      scan before cs =
        (chosen.filter (!·.isBlank)).map (Stretch.template (before.reverse ++ cs)) := by
  fun_induction scan before cs with
  | case1 before =>
    refine ⟨[], .none ?_, rfl⟩
    intro s hs
    rcases hs.exists_split with ⟨front, rest, htext, hstart⟩
    have := congrArg List.length htext
    simp at this
    have := s.length_letters_pos
    omega
  | case2 before c rest hnone ih =>
    rcases ih with ⟨chosen, hchosen, hscan⟩
    rw [List.reverse_cons, List.append_assoc] at hchosen hscan
    refine ⟨chosen, hchosen.skip ?_, hscan⟩
    intro s hs hstart
    have hsome := occurrence?_eq_some_iff.mpr ⟨s, hs, hstart, rfl⟩
    cases hnone.symm.trans hsome
  | case3 before c rest o hsome _ found hblank ih =>
    rcases ih with ⟨chosen, hchosen, hscan⟩
    rw [← text_of_occurrence hsome] at hchosen hscan
    rcases exists_next hsome hchosen with ⟨s, hnext, hs, _⟩
    exact ⟨s :: chosen, hnext, by simp [hs, hblank, found, hscan]⟩
  | case4 before c rest o hsome _ found hblank ih =>
    rcases ih with ⟨chosen, hchosen, hscan⟩
    rw [← text_of_occurrence hsome] at hchosen hscan
    rcases exists_next hsome hchosen with ⟨s, hnext, hs, htemplate⟩
    exact ⟨s :: chosen, hnext, by simp [hs, hblank, found, hscan, htemplate]⟩

/--
The templates of a file are those of the stretches that a search from the left chooses, without the
ones of blanks. There is one such choice; its stretches follow each other, and every other stretch
starts inside of one whose template is returned.
-/
theorem extract_chooses (text : String) :
    ∃ chosen, (∀ other, Chosen text.toList 0 other ↔ other = chosen) ∧
      extract text = (chosen.filter (!·.isBlank)).map (Stretch.template text.toList) ∧
      (∀ s ∈ chosen, s.Occurs text.toList ∧ '\x60' ∉ (s.template text.toList).body.toList) ∧
      (chosen.Pairwise fun s s' => s.stop ≤ s'.start) ∧
      ∀ s : Stretch, s.Occurs text.toList → s ∉ chosen →
        ∃ s' ∈ chosen, s'.isBlank = false ∧ s'.start < s.start ∧ s.start < s'.stop := by
  rcases exists_chosen [] text.toList with ⟨chosen, hchosen, hscan⟩
  refine ⟨chosen, ?_, hscan, ?_, hchosen.pairwise, ?_⟩
  . intro other
    constructor
    . exact hchosen.unique
    . rintro rfl
      exact hchosen
  . intro s hs
    have hoccurs := hchosen.occurs s hs
    refine ⟨hoccurs, ?_⟩
    simpa [Stretch.template, ofOccurrence] using hoccurs.body
  . intro s hs hmem
    rcases hchosen.mem_or_inside hs (Nat.zero_le _) with hin | ⟨s', hmem', hs', hstart, hstop⟩
    . exact absurd hin hmem
    . exact ⟨s', hmem', by simpa using hs'.not_isBlank hs hstart hstop, hstart, hstop⟩

-- A blank template, a tag in a word, a tag in a template, and a template without an end.
example :
    let text := "graphql\x60 \x60 xgraphql\x60a\x60 graphql\x60b graphql\x60 c\x60graphql\x60d"
    (extract text).map (·.body) = ["b graphql"] := by
  decide +kernel

end TaggedTemplate

end QueryLinker
