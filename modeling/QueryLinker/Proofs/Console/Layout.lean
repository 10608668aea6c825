import Mathlib.Data.List.DropRight
import QueryLinker.Console.Table
import QueryLinker.Text.Printable

/-!
This module contains what becomes of texts that fit: a line that is not too wide is printed as it
is, and the rows of a table for which there is room are the texts of its cells, filled up with
blanks. Wherever a text is cut, its parts have no other styles than the text.
-/

namespace QueryLinker

namespace Text

/-! The cells of a text. -/

section

variable {last? : Option Char} {c : Char} {cs xs : List Char}

theorem cellsFrom_joiner (hjoiner : isJoiner c = true) (d : Char) :
    cellsFrom last? (c :: d :: cs) = cellsFrom last? cs := by
  simp [cellsFrom, hjoiner]

theorem cellsFrom_mark (hjoiner : isJoiner c = false) (hmark : isEmojiMark c = true) :
    cellsFrom last? (c :: cs) = addedCells last? + cellsFrom none cs := by
  cases cs <;> simp [cellsFrom, hjoiner, hmark]

theorem cellsFrom_other (hjoiner : isJoiner c = false) (hmark : isEmojiMark c = false) :
    cellsFrom last? (c :: cs) =
      cellWidthOf c + cellsFrom (if cellWidthOf c = 0 then last? else some c) cs := by
  cases cs <;> simp [cellsFrom, hjoiner, hmark]

theorem cellsFrom_none_le (last? : Option Char) (cs : List Char) :
    cellsFrom none cs ≤ cellsFrom last? cs := by
  fun_induction cellsFrom last? cs with
  | case1 => exact Nat.le_refl _
  | case2 last? c hjoiner => simp [cellsFrom, hjoiner]
  | case3 last? c hjoiner d cs ih =>
    rw [cellsFrom_joiner hjoiner]
    exact ih
  | case4 last? c cs hjoiner hmark ih =>
    rw [cellsFrom_mark (by simpa using hjoiner) hmark]
    exact Nat.add_le_add_right (Nat.zero_le _) _
  | case5 last? c cs hjoiner hmark size ih =>
    rw [cellsFrom_other (by simpa using hjoiner) (by simpa using hmark)]
    apply Nat.add_le_add_left
    by_cases hsize : cellWidthOf c = 0
    . rw [if_pos hsize]
      exact ih
    . rw [if_neg hsize, if_neg hsize]

theorem getLast?_any_of_cons {p : Char → Bool} {c : Char} {cs : List Char}
    (h : (c :: cs).getLast?.any p = false) : cs.getLast?.any p = false := by
  cases cs with
  | nil => rfl
  | cons d cs => rwa [List.getLast?_cons_cons] at h

theorem exists_cellsFrom_append (last? : Option Char) (hend : xs.getLast?.any isJoiner = false) :
    ∃ later?, ∀ ys, cellsFrom last? (xs ++ ys) = cellsFrom last? xs + cellsFrom later? ys := by
  fun_induction cellsFrom last? xs with
  | case1 last? => exact ⟨last?, fun ys => by rw [List.nil_append, Nat.zero_add]⟩
  | case2 last? c hjoiner => simp [hjoiner] at hend
  | case3 last? c hjoiner d cs ih =>
    rcases ih (getLast?_any_of_cons (getLast?_any_of_cons hend)) with ⟨later?, hlater⟩
    refine ⟨later?, fun ys => ?_⟩
    rw [List.cons_append, List.cons_append, cellsFrom_joiner hjoiner, hlater]
  | case4 last? c cs hjoiner hmark ih =>
    rcases ih (getLast?_any_of_cons hend) with ⟨later?, hlater⟩
    refine ⟨later?, fun ys => ?_⟩
    rw [List.cons_append, cellsFrom_mark (by simpa using hjoiner) hmark, hlater, Nat.add_assoc]
  | case5 last? c cs hjoiner hmark size ih =>
    rcases ih (getLast?_any_of_cons hend) with ⟨later?, hlater⟩
    refine ⟨later?, fun ys => ?_⟩
    rw [List.cons_append, cellsFrom_other (by simpa using hjoiner) (by simpa using hmark), hlater,
      Nat.add_assoc]

theorem cellWidth_add_le (hend : xs.getLast?.any isJoiner = false) (ys : List Char) :
    cellWidth xs + cellWidth ys ≤ cellWidth (xs ++ ys) := by
  rcases exists_cellsFrom_append none hend with ⟨later?, hlater⟩
  unfold cellWidth
  rw [hlater]
  exact Nat.add_le_add_left (cellsFrom_none_le later? ys) _

theorem cellsFrom_le_append (last? : Option Char) (xs ys : List Char) :
    cellsFrom last? xs ≤ cellsFrom last? (xs ++ ys) := by
  fun_induction cellsFrom last? xs with
  | case1 => exact Nat.zero_le _
  | case2 => exact Nat.zero_le _
  | case3 last? c hjoiner d cs ih =>
    rw [List.cons_append, List.cons_append, cellsFrom_joiner hjoiner]
    exact ih
  | case4 last? c cs hjoiner hmark ih =>
    rw [List.cons_append, cellsFrom_mark (by simpa using hjoiner) hmark]
    exact Nat.add_le_add_left ih _
  | case5 last? c cs hjoiner hmark size ih =>
    rw [List.cons_append, cellsFrom_other (by simpa using hjoiner) (by simpa using hmark)]
    exact Nat.add_le_add_left ih _

theorem cellsFrom_blanks (last? : Option Char) (n : Nat) :
    cellsFrom last? (List.replicate n ' ') = n := by
  induction n generalizing last? with
  | zero => rfl
  | succ n ih =>
    rw [List.replicate_succ, cellsFrom_other (by decide) (by decide), ih, Nat.add_comm]
    rfl

theorem cellWidth_append_blanks (hend : xs.getLast?.any isJoiner = false) (n : Nat) :
    cellWidth (xs ++ List.replicate n ' ') = cellWidth xs + n := by
  rcases exists_cellsFrom_append none hend with ⟨later?, hlater⟩
  unfold cellWidth
  rw [hlater, cellsFrom_blanks]

end

/-! Printable characters. -/

theorem inRanges_of_mem {ranges : List (Nat × Nat)} {first last : Nat} {c : Char}
    (h : (first, last) ∈ ranges) (hfirst : first ≤ c.toNat) (hlast : c.toNat ≤ last) :
    inRanges ranges c = true := by
  rw [inRanges, List.any_eq_true]
  exact ⟨_, h, by simp [hfirst, hlast]⟩

theorem blankRanges_unprintable :
    ∀ blank ∈ blankRanges, ∃ range ∈ unprintableRanges, range.1 ≤ blank.1 ∧
      (blank.2 ≤ range.2 ∨ blank.2 = 32 ∧ range.2 = 31) := by
  decide +kernel

theorem eq_blank_of_isBlank {c : Char} (hblank : isBlank c = true) (h : isPrintable c = true) :
    c = ' ' := by
  rw [isBlank, inRanges, List.any_eq_true] at hblank
  rcases hblank with ⟨blank, hmem, hin⟩
  rw [Bool.and_eq_true, decide_eq_true_iff, decide_eq_true_iff] at hin
  rcases blankRanges_unprintable blank hmem with ⟨range, hrange, hfirst, hlast⟩
  have hnot : ¬ c.toNat ≤ range.2 := by
    intro hle
    have hinside := inRanges_of_mem hrange (Nat.le_trans hfirst hin.1) hle
    rw [isPrintable, hinside] at h
    cases h
  have hsize : c.toNat = 32 := by omega
  rw [← Char.ofNat_toNat c, hsize]

theorem not_isPrintable_of_isLineBreak {c : Char} (h : isLineBreak c = true) :
    isPrintable c = false := by
  simp only [isLineBreak, Bool.or_eq_true, beq_iff_eq] at h
  have hbreaks : (['\n', '\r', '\x0b', '\x0c', '\x1c', '\x1d', '\x1e', '\u0085', '\u2028',
      '\u2029'].all fun c => !isPrintable c) = true := by
    decide +kernel
  rw [List.all_eq_true] at hbreaks
  rw [← Bool.not_eq_true']
  apply hbreaks
  simpa [or_assoc] using h

theorem isPrintable_of_ascii {c : Char} (h : 32 ≤ c.toNat ∧ c.toNat ≤ 126) :
    isPrintable c = true := by
  have hranges : ∀ range ∈ unprintableRanges, range.2 < 32 ∨ 126 < range.1 := by
    decide +kernel
  rw [isPrintable, Bool.not_eq_true', inRanges, List.any_eq_false]
  rintro ⟨first, last⟩ hrange
  rcases hranges _ hrange with hlast | hfirst <;> simp <;> omega

def Printable (cs : List Char) : Prop :=
  ∀ c ∈ cs, isPrintable c = true

instance : DecidablePred Printable := fun cs =>
  decidable_of_iff
    ((cs.all fun c => decide (32 ≤ c.toNat ∧ c.toNat ≤ 126) || isPrintable c) = true) <| by
    simp only [List.all_eq_true, Bool.or_eq_true, decide_eq_true_eq]
    exact ⟨fun h c hc => (h c hc).elim isPrintable_of_ascii id, fun h c hc => .inr (h c hc)⟩

namespace Printable

variable {cs : List Char}

theorem of_ascii (h : ∀ c ∈ cs, 32 ≤ c.toNat ∧ c.toNat ≤ 126) : Printable cs :=
  fun c hc => isPrintable_of_ascii (h c hc)

theorem not_mem (h : Printable cs) {c : Char} (hc : isPrintable c = false) : c ∉ cs := by
  intro hmem
  rw [h c hmem] at hc
  cases hc

theorem not_joiner (h : Printable cs) : cs.getLast?.any isJoiner = false := by
  cases hlast : cs.getLast? with
  | none => rfl
  | some c =>
    have hne : c ≠ '\u200d' := by
      rintro rfl
      exact h.not_mem (by decide +kernel) (List.mem_of_getLast? hlast)
    simpa [isJoiner] using hne

theorem splitLines (h : Printable cs) : splitLines cs = if cs.isEmpty then [] else [cs] := by
  have hgo (line cs : List Char) (h : Printable cs) : splitLines.go line cs =
      if (cs.reverse ++ line).isEmpty then [] else [line.reverse ++ cs] := by
    fun_induction splitLines.go line cs with
    | case1 line => simp_all
    | case2 => simp_all
    | case3 line cs ih =>
      exact absurd (List.mem_cons_self ..) (h.not_mem (not_isPrintable_of_isLineBreak rfl))
    | case4 line c cs _ hbreak =>
      exact absurd (List.mem_cons_self ..) (h.not_mem (not_isPrintable_of_isLineBreak hbreak))
    | case5 line c cs _ hbreak ih =>
      rw [ih fun d hd => h d (List.mem_cons_of_mem _ hd)]
      simp
  rw [Text.splitLines, hgo [] cs h]
  simp

end Printable

end Text

namespace Console

open Text

/-! A line that fits. -/

theorem cellWidth_dropLastBlanks_le (cs : List Char) :
    cellWidth (dropLastBlanks cs) ≤ cellWidth cs := by
  have hkept : dropLastBlanks cs <+: cs := List.rdropWhile_prefix isBlank cs
  rcases hkept with ⟨blanks, hblanks⟩
  conv_rhs => rw [← hblanks]
  exact cellsFrom_le_append none _ _

theorem not_isJoiner_of_isBlank {c : Char} (h : isBlank c = true) : isJoiner c = false := by
  rw [Bool.eq_false_iff]
  intro hjoiner
  rw [isJoiner, beq_iff_eq] at hjoiner
  rw [hjoiner] at h
  revert h
  decide

section

variable {overflow : Overflow} {limit used : Nat} {line word blanks cs : List Char}

theorem fill_cons_of_fits {words : List (List Char)} (h : used + cellWidth word ≤ limit) :
    fill overflow limit line used (word :: words) =
      fill overflow limit (line ++ word) (used + cellWidth word) words := by
  have hsize := cellWidth_dropLastBlanks_le word
  rw [fill]
  dsimp only
  rw [if_pos (by omega)]

theorem fill_words_go (hword : word ≠ []) (hblanks : ∀ c ∈ blanks, isBlank c = true)
    (hfits : used + cellWidth ((blanks ++ word).reverse ++ cs) ≤ limit) :
    fill overflow limit line used (words.go word blanks cs) =
      [line ++ ((blanks ++ word).reverse ++ cs)] := by
  induction cs generalizing word blanks line used with
  | nil =>
    rw [List.append_nil] at hfits ⊢
    unfold words.go
    rw [if_neg (by simpa using hword), fill_cons_of_fits hfits]
    rfl
  | cons c cs ih =>
    unfold words.go
    split
    . next hblank =>
      have hrest : (c :: blanks ++ word).reverse ++ cs = (blanks ++ word).reverse ++ c :: cs := by
        simp
      rw [ih hword (List.forall_mem_cons.mpr ⟨hblank, hblanks⟩) (by rwa [hrest]), hrest]
    . split
      . next hempty =>
        have hnone : blanks = [] := by simpa [hword] using hempty
        subst hnone
        have hrest : ([] ++ (c :: ([] ++ word))).reverse ++ cs =
            ([] ++ word).reverse ++ c :: cs := by
          simp
        rw [ih (by simp) (by simp) (by rwa [hrest]), hrest]
      . next hne =>
        -- The word ends in a blank, so the next one takes the cells that it takes alone.
        have hend : (blanks ++ word).reverse.getLast?.any isJoiner = false := by
          cases blanks with
          | nil => simp at hne
          | cons b blanks =>
            have hb := not_isJoiner_of_isBlank (hblanks b (by simp))
            simp [hb]
        have hadd := cellWidth_add_le hend (c :: cs)
        have hrest : ([] ++ [c]).reverse ++ cs = c :: cs := rfl
        rw [fill_cons_of_fits (by omega), ih (by simp) (by simp) (by rw [hrest]; omega), hrest,
          List.append_assoc]

theorem fill_words_go_nil (hblanks : ∀ c ∈ blanks, isBlank c = true)
    (hfits : cellWidth (blanks.reverse ++ cs) ≤ limit) :
    words.go [] blanks cs = [] ∨
      fill overflow limit [] 0 (words.go [] blanks cs) = [blanks.reverse ++ cs] := by
  induction cs generalizing blanks with
  | nil => exact .inl rfl
  | cons c cs ih =>
    unfold words.go
    split
    . next hblank =>
      have hrest : (c :: blanks).reverse ++ cs = blanks.reverse ++ c :: cs := by simp
      have hcons := ih (List.forall_mem_cons.mpr ⟨hblank, hblanks⟩) (by rwa [hrest])
      rwa [hrest] at hcons
    . right
      rw [if_pos (by simp)]
      have hrest : ([] ++ (c :: (blanks ++ []))).reverse ++ cs = blanks.reverse ++ c :: cs := by
        simp
      rw [fill_words_go (by simp) (by simp) (by rw [hrest]; omega), hrest]
      rfl

theorem fill_words (overflow : Overflow) (hfits : cellWidth cs ≤ limit) :
    words cs = [] ∨ fill overflow limit [] 0 (words cs) = [cs] :=
  fill_words_go_nil (by simp : ∀ c ∈ ([] : List Char), isBlank c = true) hfits

theorem withChars_chars (t : StyledText) : t.withChars t.chars = t := by
  unfold StyledText.withChars
  dsimp only
  rw [if_pos (Nat.le_refl _)]

theorem chars_withChars (t : StyledText) (cs : List Char) : (t.withChars cs).chars = cs := by
  unfold StyledText.withChars
  dsimp only
  split <;> rfl

theorem trimEnd_of_fits {t : StyledText}
    (h : t.chars.length ≤ limit ∨ dropLastBlanks t.chars = t.chars) : trimEnd limit t = t := by
  have hmin : min (t.chars.length - (dropLastBlanks t.chars).length) (t.chars.length - limit) =
      0 := by
    rcases h with h | h
    . omega
    . rw [h]
      omega
  unfold trimEnd
  dsimp only
  rw [hmin, Nat.sub_zero, List.take_length, withChars_chars]

theorem chars_trimEnd (limit : Nat) (t : StyledText) : (trimEnd limit t).chars <+: t.chars := by
  unfold trimEnd
  dsimp only
  rw [chars_withChars]
  exact List.take_prefix _ _

theorem cutLine_of_fits {line : StyledText} (h : cellWidth line.chars ≤ limit) :
    cutLine overflow limit line = line := by
  unfold cutLine
  rw [if_pos h]

theorem wrap_of_fits {t : StyledText} (htab : '\t' ∉ t.chars) (hfits : cellWidth t.chars ≤ limit) :
    wrap overflow limit t = [trimEnd limit t] := by
  have hexpand : expandTabs t = t := by
    unfold expandTabs
    rw [if_neg (by simpa using htab)]
  have hcut : cellWidth (trimEnd limit t).chars ≤ limit := by
    rcases chars_trimEnd limit t with ⟨rest, hrest⟩
    have hle := cellsFrom_le_append none (trimEnd limit t).chars rest
    rw [hrest] at hle
    exact Nat.le_trans hle hfits
  unfold wrap
  dsimp only
  rw [hexpand]
  split
  . rw [List.map_singleton, cutLine_of_fits hcut]
  . next hne =>
    rcases fill_words overflow hfits with hnil | hone
    . exact absurd hnil hne
    . rw [hone, List.map_singleton, StyledText.divide, if_pos (by simp), List.map_singleton,
        cutLine_of_fits hcut]

end

/-! The lines of a text. -/

theorem splitAt_eq_splitOn (separator : Char) (cs : List Char) :
    splitAt separator cs = cs.splitOn separator := by
  have hgo (current cs : List Char) : splitAt.go separator current cs =
      List.splitOnPPrepend (· == separator) cs current := by
    induction cs generalizing current with
    | nil => rfl
    | cons c cs ih =>
      rw [splitAt.go, List.splitOnPPrepend, ih, ih]
  exact hgo [] cs

theorem chars_piecesFrom {t : StyledText} (before : List Char) {parts : List (List Char)}
    (h : t.chars = before ++ parts.flatten) :
    (t.piecesFrom before.length (parts.map List.length)).map StyledText.chars = parts := by
  induction parts generalizing before with
  | nil => rfl
  | cons part parts ih =>
    rw [List.flatten_cons, ← List.append_assoc] at h
    have hrest := ih _ h
    rw [List.length_append] at hrest
    have hpart : (t.extract before.length (before.length + part.length)).chars = part := by
      rw [StyledText.chars_extract, h, List.append_assoc, ← List.append_assoc before,
        ← List.length_append, List.take_left, List.drop_left]
    rw [List.map_cons, StyledText.piecesFrom, List.map_cons, hrest, hpart]

theorem chars_divide {t : StyledText} {parts : List (List Char)} (h : t.chars = parts.flatten)
    (hne : parts ≠ []) :
    (t.divide (parts.map List.length)).map StyledText.chars = parts := by
  unfold StyledText.divide
  split
  . next hone =>
    rcases parts with _ | ⟨part, _ | _⟩
    . exact absurd rfl hne
    . simp [h]
    . simp at hone
  . exact chars_piecesFrom [] h

theorem map_length_intersperse (parts : List (List Char)) (c : Char) :
    (parts.intersperse [c]).map List.length = (parts.map List.length).intersperse 1 := by
  fun_induction List.intersperse [c] parts with
  | case1 => rfl
  | case2 => rfl
  | case3 part parts hne ih =>
    rcases parts with _ | ⟨next, parts⟩
    . exact absurd rfl hne
    . simpa [List.intersperse] using ih

theorem filter_intersperse {parts : List (List Char)} {separator : List Char}
    (h : separator ∉ parts) : (parts.intersperse separator).filter (· != separator) = parts := by
  fun_induction List.intersperse separator parts with
  | case1 => rfl
  | case2 part =>
    rw [List.mem_singleton] at h
    simp [Ne.symm h]
  | case3 part parts _ ih =>
    rw [List.mem_cons, not_or] at h
    have hpart : (part != separator) = true := by simpa using Ne.symm h.1
    simp [hpart, ih h.2]

theorem not_mem_of_mem_splitAt {separator : Char} {cs part : List Char}
    (h : part ∈ splitAt separator cs) : separator ∉ part := by
  have hgo (current cs : List Char) (hcurrent : separator ∉ current)
      (hpart : part ∈ splitAt.go separator current cs) : separator ∉ part := by
    induction cs generalizing current with
    | nil =>
      rw [splitAt.go, List.mem_singleton] at hpart
      rw [hpart]
      simpa using hcurrent
    | cons c cs ih =>
      rw [splitAt.go] at hpart
      split at hpart
      . rcases List.mem_cons.mp hpart with rfl | hpart
        . simpa using hcurrent
        . exact ih [] (by simp) hpart
      . next hc =>
        refine ih (c :: current) ?_ hpart
        rw [List.mem_cons, not_or]
        exact ⟨fun heq => hc (by simp [heq]), hcurrent⟩
  exact hgo [] cs (by simp) h

theorem splitAt_ne_nil (separator : Char) (cs : List Char) : splitAt separator cs ≠ [] := by
  rw [splitAt_eq_splitOn]
  exact List.splitOnP_ne_nil _ _

theorem chars_writtenLines (t : StyledText) :
    (writtenLines t).map StyledText.chars = splitAt '\n' t.chars := by
  have hflatten : t.chars = ((splitAt '\n' t.chars).intersperse ['\n']).flatten := by
    rw [splitAt_eq_splitOn]
    exact (List.intercalate_splitOn '\n').symm
  have hne : (splitAt '\n' t.chars).intersperse ['\n'] ≠ [] := by
    rcases List.exists_cons_of_ne_nil (splitAt_ne_nil '\n' t.chars) with ⟨part, parts, hparts⟩
    rw [hparts]
    cases parts <;> simp [List.intersperse]
  have hchars := chars_divide hflatten hne
  rw [map_length_intersperse] at hchars
  unfold writtenLines
  dsimp only
  rw [show (fun part : StyledText => part.chars != ['\n']) =
      (fun cs : List Char => cs != ['\n']) ∘ StyledText.chars from rfl, ← List.filter_map, hchars]
  apply filter_intersperse
  intro hmem
  exact not_mem_of_mem_splitAt hmem (by simp)

structure Fits (width : Nat) (line : List Char) : Prop where
  noTab : '\t' ∉ line
  width_le : cellWidth line ≤ width
  size : line.length ≤ width ∨ dropLastBlanks line = line

instance (width : Nat) (line : List Char) : Decidable (Fits width line) :=
  decidable_of_iff ('\t' ∉ line ∧ cellWidth line ≤ width ∧
      (line.length ≤ width ∨ dropLastBlanks line = line))
    ⟨fun h => ⟨h.1, h.2.1, h.2.2⟩, fun h => ⟨h.noTab, h.width_le, h.size⟩⟩

theorem lines_of_fits {width : Nat} {t : StyledText}
    (h : ∀ line ∈ splitAt '\n' t.chars, Fits width line) : lines width t = writtenLines t := by
  have hwrap : ∀ line ∈ writtenLines t, wrap .fold width line = [line] := by
    intro line hline
    have hfits := h line.chars (by
      rw [← chars_writtenLines]
      exact List.mem_map_of_mem hline)
    rw [wrap_of_fits hfits.noTab hfits.width_le, trimEnd_of_fits hfits.size]
  unfold lines
  rw [List.flatMap_congr hwrap, List.flatMap_singleton']

theorem text_lines_of_fits {width : Nat} {t : StyledText}
    (h : ∀ line ∈ splitAt '\n' t.chars, Fits width line) :
    (lines width t).map StyledText.text = (splitAt '\n' t.chars).map String.ofList := by
  rw [lines_of_fits h, ← chars_writtenLines, List.map_map]
  rfl

/-! The styles of a text and of its parts. -/

def styles (t : StyledText) : List String :=
  t.stretches.map (·.style)

section

variable {t line : StyledText}

theorem styles_withChars (t : StyledText) (cs : List Char) :
    styles (t.withChars cs) ⊆ styles t := by
  unfold styles StyledText.withChars
  dsimp only
  split
  . exact List.Subset.refl _
  . intro style hstyle
    simp only [List.map_map, List.mem_map, List.mem_filter] at hstyle ⊢
    rcases hstyle with ⟨s, ⟨hs, _⟩, rfl⟩
    exact ⟨s, hs, rfl⟩

theorem styles_extract (t : StyledText) (start stop : Nat) :
    styles (t.extract start stop) ⊆ styles t := by
  intro style hstyle
  simp only [styles, StyledText.extract, List.mem_map, List.mem_filterMap] at hstyle ⊢
  rcases hstyle with ⟨s', ⟨s, hs, hsome⟩, rfl⟩
  split at hsome
  . cases hsome
    exact ⟨s, hs, rfl⟩
  . cases hsome

theorem styles_piecesFrom {start : Nat} {sizes : List Nat} (h : line ∈ t.piecesFrom start sizes) :
    styles line ⊆ styles t := by
  induction sizes generalizing start with
  | nil => cases h
  | cons size sizes ih =>
    rcases List.mem_cons.mp h with rfl | h
    . exact styles_extract t _ _
    . exact ih h

theorem styles_divide {sizes : List Nat} (h : line ∈ t.divide sizes) : styles line ⊆ styles t := by
  unfold StyledText.divide at h
  split at h
  . rw [List.mem_singleton.mp h]
    exact List.Subset.refl _
  . exact styles_piecesFrom h

theorem styles_addBlanks (t : StyledText) (count : Nat) :
    styles (t.addBlanks count) = styles t := by
  unfold styles StyledText.addBlanks
  rw [List.map_map]
  apply List.map_congr_left
  intro s _
  rw [Function.comp_apply]
  split <;> rfl

theorem styles_joinFrom (before : StyledText) (ts : List StyledText) :
    styles (before.joinFrom ts) = styles before ++ ts.flatMap styles := by
  induction ts generalizing before with
  | nil => simp [StyledText.joinFrom]
  | cons t ts ih =>
    rw [StyledText.joinFrom, ih, List.flatMap_cons, ← List.append_assoc]
    simp [styles, Function.comp_def]

theorem styles_expandParts {parts : List StyledText} {column : Nat}
    (hparts : ∀ part ∈ parts, styles part ⊆ styles t) (h : line ∈ expandParts column parts) :
    styles line ⊆ styles t := by
  induction parts generalizing column with
  | nil => cases h
  | cons part parts ih =>
    rw [List.forall_mem_cons] at hparts
    unfold expandParts at h
    dsimp only at h
    split at h
    . rcases List.mem_cons.mp h with rfl | h
      . rw [styles_addBlanks]
        exact List.Subset.trans (styles_withChars _ _) hparts.1
      . exact ih hparts.2 h
    . rcases List.mem_cons.mp h with rfl | h
      . exact hparts.1
      . exact ih hparts.2 h

theorem styles_expandTabs (t : StyledText) : styles (expandTabs t) ⊆ styles t := by
  unfold expandTabs
  split
  . rw [StyledText.join, styles_joinFrom]
    intro style hstyle
    rcases List.mem_flatMap.mp hstyle with ⟨part, hpart, hstyle⟩
    exact styles_expandParts (fun part hpart => styles_divide hpart) hpart hstyle
  . exact List.Subset.refl _

theorem styles_cutLine (overflow : Overflow) (limit : Nat) (t : StyledText) :
    styles (cutLine overflow limit t) ⊆ styles t := by
  unfold cutLine
  split
  . exact List.Subset.refl _
  . cases overflow <;> exact styles_withChars _ _

theorem styles_wrap {overflow : Overflow} {limit : Nat} (h : line ∈ wrap overflow limit t) :
    styles line ⊆ styles t := by
  unfold wrap at h
  rcases List.mem_map.mp h with ⟨part, hpart, rfl⟩
  have hpart : styles part ⊆ styles (expandTabs t) := by
    split at hpart
    . rw [List.mem_singleton.mp hpart]
      exact List.Subset.refl _
    . exact styles_divide hpart
  exact List.Subset.trans (styles_cutLine _ _ _) (List.Subset.trans (styles_withChars _ _)
    (List.Subset.trans hpart (styles_expandTabs t)))

theorem styles_writtenLines (h : line ∈ writtenLines t) : styles line ⊆ styles t :=
  styles_divide (List.mem_filter.mp h).1

theorem styles_lines {width : Nat} (h : line ∈ lines width t) : styles line ⊆ styles t := by
  rcases List.mem_flatMap.mp h with ⟨part, hpart, hline⟩
  exact List.Subset.trans (styles_wrap hline) (styles_writtenLines hpart)

end

/-! Tables. -/

section

variable {α β γ : Type}

theorem foldl_max_const (xs : List β) (n : Nat) : (xs.map fun _ => n).foldl max n = n := by
  induction xs with
  | nil => rfl
  | cons x xs ih => rwa [List.map_cons, List.foldl_cons, max_self]

theorem transpose_map [Inhabited α] {xs : List β} (h : xs ≠ []) (ys : List γ) (g : β → γ → α) :
    transpose (xs.map fun x => ys.map fun y => g x y) = ys.map fun y => xs.map fun x => g x y := by
  unfold transpose
  dsimp only
  rw [List.map_map]
  have hcount : (xs.map (List.length ∘ fun x => ys.map fun y => g x y)).foldl max 0 =
      ys.length := by
    simp only [Function.comp_def, List.length_map]
    rcases List.exists_cons_of_ne_nil h with ⟨x, xs, rfl⟩
    rw [List.map_cons, List.foldl_cons, Nat.zero_max, foldl_max_const]
  rw [hcount]
  apply List.ext_getElem
  . simp
  . intro i hi hi'
    rw [List.length_map, List.length_range] at hi
    simp [hi]

def columnsOf [Inhabited α] (n : Nat) (rows : List (List α)) : List (List α) :=
  (List.range n).map fun i => rows.map fun row => row.getD i default

theorem map_getD_range [Inhabited α] {row : List α} {n : Nat} (h : row.length = n) :
    ((List.range n).map fun i => row.getD i default) = row := by
  apply List.ext_getElem
  . simp [h]
  . intro i hi hi'
    simp [hi']

theorem transpose_eq_columnsOf [Inhabited α] {n : Nat} {rows : List (List α)} (hrows : rows ≠ [])
    (hlength : ∀ row ∈ rows, row.length = n) : transpose rows = columnsOf n rows := by
  have hgrid : (rows.map fun row => (List.range n).map fun i => row.getD i default) = rows := by
    conv_rhs => rw [← List.map_id rows]
    exact List.map_congr_left fun row hrow => map_getD_range (hlength row hrow)
  conv_lhs => rw [← hgrid]
  exact transpose_map hrows _ _

theorem transpose_columnsOf [Inhabited α] {n : Nat} {rows : List (List α)} (hn : 0 < n)
    (hlength : ∀ row ∈ rows, row.length = n) : transpose (columnsOf n rows) = rows := by
  have hrange : List.range n ≠ [] := by simp; omega
  rw [columnsOf, transpose_map hrange rows fun i row => row.getD i default]
  conv_rhs => rw [← List.map_id rows]
  exact List.map_congr_left fun row hrow => map_getD_range (hlength row hrow)

end

/-! The cells of a table for which there is room. -/

section

variable {cs : List Char} {t : StyledText} {room : Nat}

theorem splitAt_of_not_mem {separator : Char} (h : separator ∉ cs) :
    splitAt separator cs = [cs] := by
  rw [splitAt_eq_splitOn]
  apply List.splitOnP_eq_singleton
  intro c hc
  rw [beq_eq_false_iff_ne]
  rintro rfl
  exact h hc

theorem writtenLines_of_not_mem (h : '\n' ∉ t.chars) : writtenLines t = [t] := by
  have hne : (t.chars != ['\n']) = true := by
    rw [bne_iff_ne]
    intro heq
    rw [heq] at h
    simp at h
  unfold writtenLines
  dsimp only
  rw [splitAt_of_not_mem h, StyledText.divide, if_pos (by simp)]
  simp [hne]

theorem textWidth_eq (h : Printable t.chars) : textWidth t = cellWidth t.chars := by
  unfold textWidth
  rw [h.splitLines]
  cases t.chars with
  | nil => rfl
  | cons c cs => simp

theorem fitCells_of_le (h : cellWidth cs ≤ room) :
    fitCells room cs = cs ++ List.replicate (room - cellWidth cs) ' ' := by
  unfold fitCells
  dsimp only
  rw [if_pos h]

theorem exists_trimEnd_append (room : Nat) (h : Printable t.chars) :
    ∃ n, t.chars = (trimEnd room t).chars ++ List.replicate n ' ' := by
  let kept := t.chars.length -
    min (t.chars.length - (dropLastBlanks t.chars).length) (t.chars.length - room)
  have hkept : (trimEnd room t).chars = t.chars.take kept := by
    unfold trimEnd
    dsimp only
    rw [chars_withChars]
  have hdropped : ∀ c ∈ t.chars.drop kept, c = ' ' := by
    intro c hc
    have hsplit : dropLastBlanks t.chars ++ t.chars.rtakeWhile isBlank = t.chars :=
      List.rdropWhile_append_rtakeWhile
    have hsuffix : t.chars.drop kept <:+ t.chars.rtakeWhile isBlank := by
      have hle : (dropLastBlanks t.chars).length ≤ kept := by
        have hlength : (dropLastBlanks t.chars).length ≤ t.chars.length :=
          (List.rdropWhile_prefix isBlank t.chars).length_le
        omega
      have hdrop := congrArg (List.drop kept) hsplit
      rw [List.drop_append, List.drop_eq_nil_of_le hle, List.nil_append] at hdrop
      rw [← hdrop]
      exact List.drop_suffix _ _
    exact eq_blank_of_isBlank (List.mem_rtakeWhile_imp (hsuffix.subset hc))
      (h c (List.mem_of_mem_drop hc))
  refine ⟨(t.chars.drop kept).length, ?_⟩
  rw [hkept, ← List.eq_replicate_iff.mpr ⟨rfl, hdropped⟩, List.take_append_drop]

theorem fitCells_trimEnd (h : Printable t.chars) (hfits : cellWidth t.chars ≤ room) :
    fitCells room (fitCells room (trimEnd room t).chars) =
      t.chars ++ List.replicate (room - cellWidth t.chars) ' ' := by
  rcases exists_trimEnd_append room h with ⟨n, hn⟩
  have hjoiner : (trimEnd room t).chars.getLast?.any isJoiner = false := by
    apply Printable.not_joiner
    intro c hc
    exact h c ((chars_trimEnd room t).subset hc)
  have hwidth := cellWidth_append_blanks hjoiner n
  rw [← hn] at hwidth
  have hfull := cellWidth_append_blanks hjoiner (room - cellWidth (trimEnd room t).chars)
  have hfit : fitCells room (trimEnd room t).chars = (trimEnd room t).chars ++
      List.replicate (room - cellWidth (trimEnd room t).chars) ' ' := fitCells_of_le (by omega)
  rw [hfit, fitCells_of_le (by omega), hfull]
  conv_rhs => rw [hn, List.append_assoc, List.replicate_append_replicate]
  rw [List.append_assoc, List.replicate_append_replicate, ← hn]
  congr 2
  omega

def cellText (size : Nat) (cs : List Char) : List Char :=
  ' ' :: cs ++ List.replicate (size - paddingWidth - cellWidth cs) ' ' ++ [' ']

theorem cellLines_of_fits {size : Nat} (hsize : paddingWidth < size) (h : Printable t.chars)
    (hfits : cellWidth t.chars + paddingWidth ≤ size) :
    cellLines size t = [trimEnd (size - paddingWidth) t] := by
  unfold cellLines
  dsimp only
  rw [if_neg (by omega), writtenLines_of_not_mem (h.not_mem (not_isPrintable_of_isLineBreak rfl)),
    List.flatMap_singleton,
    wrap_of_fits (h.not_mem (by decide +kernel)) (Nat.le_sub_of_add_le hfits)]

theorem padded_trimEnd {size : Nat} (h : Printable t.chars)
    (hfits : cellWidth t.chars + paddingWidth ≤ size) :
    padded size (trimEnd (size - paddingWidth) t).chars = cellText size t.chars := by
  unfold padded
  dsimp only
  rw [fitCells_trimEnd h (Nat.le_sub_of_add_le hfits)]
  rfl

theorem styles_cellLines {size : Nat} {line : StyledText} (h : line ∈ cellLines size t) :
    styles line ⊆ styles t := by
  unfold cellLines at h
  dsimp only at h
  split at h
  . cases h
  . rcases List.mem_flatMap.mp h with ⟨part, hpart, hline⟩
    exact List.Subset.trans (styles_wrap hline) (styles_writtenLines hpart)

end

/-! Tables for which there is room. -/

def neededWidths (n : Nat) (rows : List (List (List Char))) : List Nat :=
  (columnsOf n rows).map fun column => (column.map cellWidth).foldl max 0 + paddingWidth

def rowText (sizes : List Nat) (row : List (List Char)) : List Char :=
  (sizes.zip row).flatMap fun (size, cs) => cellText size cs

section

variable {n : Nat} {rows : List (List StyledText)} {sizes : List Nat}

theorem isInfix_rowText {row : List (List Char)} (hlength : row.length ≤ sizes.length)
    {cs : List Char} (h : cs ∈ row) : cs <:+: rowText sizes row := by
  induction row generalizing sizes with
  | nil => cases h
  | cons text row ih =>
    cases sizes with
    | nil => simp at hlength
    | cons size sizes =>
      rw [rowText, List.zip_cons_cons, List.flatMap_cons]
      rcases List.mem_cons.mp h with rfl | h
      . have hcell : cs <:+: cellText size cs :=
          ⟨[' '], List.replicate (size - paddingWidth - cellWidth cs) ' ' ++ [' '],
            by simp [cellText]⟩
        exact hcell.trans (List.prefix_append _ _).isInfix
      . exact (ih (Nat.le_of_succ_le_succ hlength) h).trans (List.suffix_append _ _).isInfix

theorem le_foldl {f : Nat → Nat → Nat} (hleft : ∀ a b, a ≤ f a b) (hright : ∀ a b, b ≤ f a b)
    {start size : Nat} (h : size ≤ start ∨ size ∈ sizes) : size ≤ sizes.foldl f start := by
  induction sizes generalizing start with
  | nil => simpa using h
  | cons other sizes ih =>
    rw [List.foldl_cons]
    apply ih
    rcases h with h | h
    . exact .inl (Nat.le_trans h (hleft _ _))
    . rcases List.mem_cons.mp h with rfl | h
      . exact .inl (hright _ _)
      . exact .inr h

theorem le_foldl_max {size : Nat} (h : size ∈ sizes) : size ≤ sizes.foldl max 0 :=
  le_foldl Nat.le_max_left Nat.le_max_right (.inr h)

theorem le_total {size : Nat} (h : size ∈ sizes) : size ≤ total sizes :=
  le_foldl Nat.le_add_right (fun _ _ => Nat.le_add_left _ _) (.inr h)

theorem collapse_of_fits {limit : Nat} (h : total sizes ≤ limit) (fuel : Nat) :
    collapse limit fuel sizes = sizes := by
  cases fuel with
  | zero => rfl
  | succ fuel =>
    unfold collapse
    dsimp only
    rw [if_pos (Nat.sub_eq_zero_of_le h)]

theorem columnsOf_map {α β : Type} [Inhabited α] [Inhabited β] (f : α → β)
    {rows : List (List α)} (hlength : ∀ row ∈ rows, row.length = n) :
    columnsOf n (rows.map (·.map f)) = (columnsOf n rows).map (·.map f) := by
  unfold columnsOf
  rw [List.map_map]
  apply List.map_congr_left
  intro i hi
  rw [List.mem_range] at hi
  rw [Function.comp_apply, List.map_map, List.map_map]
  apply List.map_congr_left
  intro row hrow
  have hlt : i < row.length := by rwa [hlength row hrow]
  simp [hlt]

theorem mem_of_mem_columnsOf {α : Type} [Inhabited α] {rows : List (List α)}
    (hlength : ∀ row ∈ rows, row.length = n) {column : List α} (hcolumn : column ∈ columnsOf n rows)
    {x : α} (hx : x ∈ column) : ∃ row ∈ rows, x ∈ row := by
  rcases List.mem_map.mp hcolumn with ⟨i, hi, rfl⟩
  rcases List.mem_map.mp hx with ⟨row, hrow, rfl⟩
  have hlt : i < row.length := by
    rw [hlength row hrow]
    exact List.mem_range.mp hi
  refine ⟨row, hrow, ?_⟩
  rw [List.getD_eq_getElem?_getD, List.getElem?_eq_getElem hlt, Option.getD_some]
  exact List.getElem_mem hlt

theorem cellWidth_add_le_of_mem_zip {rows : List (List (List Char))} {row : List (List Char)}
    (hrow : row ∈ rows) (hlength : row.length = n) {size : Nat} {cs : List Char}
    (h : (size, cs) ∈ (neededWidths n rows).zip row) : cellWidth cs + paddingWidth ≤ size := by
  rcases List.mem_iff_getElem.mp h with ⟨i, hi, heq⟩
  rw [List.getElem_zip, Prod.mk.injEq] at heq
  rcases heq with ⟨hsize, hcs⟩
  have hlt : i < row.length := by
    rw [List.length_zip] at hi
    omega
  have hmem : cellWidth cs ∈ (rows.map fun row => row.getD i default).map cellWidth := by
    apply List.mem_map_of_mem
    refine List.mem_map.mpr ⟨row, hrow, ?_⟩
    rw [List.getD_eq_getElem?_getD, List.getElem?_eq_getElem hlt, Option.getD_some, hcs]
  rw [← hsize]
  simp only [neededWidths, columnsOf, List.getElem_map, List.getElem_range]
  exact Nat.add_le_add_right (le_foldl_max hmem) _

theorem paddingWidth_lt_of_mem {rows : List (List (List Char))} {row : List (List Char)}
    (hrow : row ∈ rows) (hlength : row.length = n) (hseen : ∀ cs ∈ row, 0 < cellWidth cs) :
    ∀ size ∈ neededWidths n rows, paddingWidth < size := by
  intro size hsize
  rcases List.mem_iff_getElem.mp hsize with ⟨i, hi, rfl⟩
  have hlt : i < row.length := by
    rw [hlength]
    simpa [neededWidths, columnsOf] using hi
  have hmem : ((neededWidths n rows)[i], row[i]) ∈ (neededWidths n rows).zip row := by
    have hzip : i < ((neededWidths n rows).zip row).length := by
      rw [List.length_zip]
      omega
    rw [← List.getElem_zip (h := hzip)]
    exact List.getElem_mem hzip
  have hle := cellWidth_add_le_of_mem_zip hrow hlength hmem
  have hpos := hseen row[i] (List.getElem_mem hlt)
  omega

theorem zip_map_zip {α β γ : Type} (f : α × β → γ) (xs : List α) (ys : List β) :
    xs.zip ((xs.zip ys).map f) = (xs.zip ys).map fun p => (p.1, f p) := by
  induction xs generalizing ys with
  | nil => rfl
  | cons x xs ih =>
    cases ys with
    | nil => rfl
    | cons y ys => simp [ih]

section

variable {row : List StyledText} (hprintable : ∀ t ∈ row, Printable t.chars)
  (hfits : ∀ p ∈ sizes.zip row, paddingWidth < p.1 ∧ cellWidth p.2.chars + paddingWidth ≤ p.1)

include hprintable hfits

theorem paddedLines_of_fits :
    (sizes.zip ((sizes.zip row).map fun (size, t) => cellLines size t)).map
      (fun (size, lines) =>
        (size, lines.map fun (line : StyledText) => padded size line.chars)) =
      (sizes.zip row).map fun (size, t) => (size, [cellText size t.chars]) := by
  rw [zip_map_zip, List.map_map]
  apply List.map_congr_left
  rintro ⟨size, t⟩ hp
  have ht := hprintable t (List.of_mem_zip hp).2
  rcases hfits _ hp with ⟨hsize, hwidth⟩
  dsimp only [Function.comp_apply]
  rw [cellLines_of_fits hsize ht hwidth, List.map_singleton, padded_trimEnd ht hwidth]

theorem rowLines_of_fits :
    rowLines sizes ((sizes.zip row).map fun (size, t) => cellLines size t) =
      [rowText sizes (row.map StyledText.chars)] := by
  unfold rowLines
  dsimp only
  rw [paddedLines_of_fits hprintable hfits, List.map_map]
  have hheight : ((sizes.zip row).map ((fun p : Nat × List (List Char) => p.2.length) ∘
      fun p => (p.1, [cellText p.1 p.2.chars]))).foldl max 1 = 1 :=
    foldl_max_const _ 1
  rw [hheight, List.range_one, List.map_singleton, List.flatMap_map, rowText, List.zip_map_right,
    List.flatMap_map]
  rfl

end

def plainRows (rows : List (List StyledText)) : List (List (List Char)) :=
  rows.map (·.map StyledText.chars)

section

variable (hlength : ∀ row ∈ rows, row.length = n) (hrows : rows ≠ [])
  (hprintable : ∀ row ∈ rows, ∀ t ∈ row, Printable t.chars)
  {width : Nat} (hroom : total (neededWidths n (plainRows rows)) ≤ width)

include hlength hrows hprintable hroom

theorem columnWidths_of_fits :
    columnWidths width (columnsOf n rows) = neededWidths n (plainRows rows) := by
  have hneeded : neededWidths n (plainRows rows) = (columnsOf n rows).map fun column =>
      (column.map fun t => cellWidth t.chars).foldl max 0 + paddingWidth := by
    unfold neededWidths plainRows
    rw [columnsOf_map _ hlength, List.map_map]
    apply List.map_congr_left
    intro column _
    rw [Function.comp_apply, List.map_map]
    rfl
  have hsizes :
      (columnsOf n rows).map (columnWidth width) = neededWidths n (plainRows rows) := by
    rw [hneeded]
    apply List.map_congr_left
    intro column hcolumn
    have hwidths : column.map textWidth = column.map fun t => cellWidth t.chars := by
      apply List.map_congr_left
      intro t ht
      rcases mem_of_mem_columnsOf hlength hcolumn ht with ⟨row, hrow, ht⟩
      exact textWidth_eq (hprintable row hrow t ht)
    have hne : column.isEmpty = false := by
      rcases List.mem_map.mp hcolumn with ⟨i, _, rfl⟩
      simpa using hrows
    have hle : (column.map fun t => cellWidth t.chars).foldl max 0 + paddingWidth ≤ width := by
      refine Nat.le_trans (le_total ?_) hroom
      rw [hneeded]
      exact List.mem_map_of_mem hcolumn
    unfold columnWidth
    rw [hne, hwidths]
    exact Nat.min_eq_right hle
  unfold columnWidths
  dsimp only
  rw [hsizes]
  exact collapse_of_fits hroom _

theorem tableLines_of_fits (hn : 0 < n)
    (hvisible : ∀ size ∈ neededWidths n (plainRows rows), paddingWidth < size) :
    tableLines width (columnsOf n rows) = rows.map fun row =>
      String.ofList (rowText (neededWidths n (plainRows rows)) (row.map StyledText.chars)) := by
  unfold tableLines cellRows
  dsimp only
  rw [columnWidths_of_fits hlength hrows hprintable hroom, transpose_columnsOf hn hlength,
    List.flatMap_map, List.map_flatMap, ← List.flatMap_pure_eq_map]
  apply List.flatMap_congr
  intro row hrow
  rw [rowLines_of_fits (hprintable row hrow)]
  . rfl
  . rintro ⟨size, t⟩ hp
    refine ⟨hvisible size (List.of_mem_zip hp).1, ?_⟩
    have hmem : row.map StyledText.chars ∈ plainRows rows := List.mem_map_of_mem hrow
    apply cellWidth_add_le_of_mem_zip hmem (by rw [List.length_map, hlength row hrow])
    rw [List.zip_map_right]
    exact List.mem_map_of_mem (f := Prod.map id StyledText.chars) hp

end

theorem styles_cellRows (hn : 0 < n) (hlength : ∀ row ∈ rows, row.length = n)
    {width : Nat} {row : List (List StyledText)} {cell : List StyledText} {line : StyledText}
    (hrow : row ∈ cellRows width (columnsOf n rows)) (hcell : cell ∈ row) (hline : line ∈ cell) :
    ∃ row ∈ rows, ∃ t ∈ row, styles line ⊆ styles t := by
  unfold cellRows at hrow
  dsimp only at hrow
  rw [transpose_columnsOf hn hlength] at hrow
  rcases List.mem_map.mp hrow with ⟨texts, htexts, rfl⟩
  rcases List.mem_map.mp hcell with ⟨⟨size, t⟩, ht, rfl⟩
  exact ⟨texts, htexts, t, (List.of_mem_zip ht).2, styles_cellLines hline⟩

end

end Console

end QueryLinker
