import QueryLinker.Console.Block
import QueryLinker.Proofs.Console.Markup

/-!
This module contains what is printed of blocks: the lines of texts with tags, and the rows of
tables.
-/

namespace QueryLinker.Console

variable {width : Nat}

theorem print_eq_none_iff {blocks : List Block} :
    (print blocks width).2 = none ↔ ∀ block ∈ blocks, ∃ lines, block.lines width = .ok lines := by
  induction blocks with
  | nil => simp [print]
  | cons block blocks ih =>
    rw [List.forall_mem_cons, ← ih, print]
    cases block.lines width <;> simp

theorem print_cons {block : Block} {lines : List String} (h : block.lines width = .ok lines)
    (blocks : List Block) :
    print (block :: blocks) width = (lines ++ (print blocks width).1, (print blocks width).2) := by
  rw [print, h]

theorem print_append {blocks others : List Block} {lines : List String}
    (h : print blocks width = (lines, none)) :
    print (blocks ++ others) width = (lines ++ (print others width).1, (print others width).2) := by
  induction blocks generalizing lines with
  | nil =>
    cases h
    rfl
  | cons block blocks ih =>
    rw [print] at h
    rw [List.cons_append, print]
    split at h
    . cases h
    . next heq =>
      dsimp only at h
      rw [Prod.mk.injEq] at h
      rcases h with ⟨rfl, hflaw⟩
      rw [ih (Prod.ext rfl hflaw)]
      simp [List.append_assoc]

theorem exists_print_flatMap {α : Type} (blocks : α → List Block) (r : α → List String → Prop)
    {items : List α}
    (h : ∀ a ∈ items, ∃ lines, print (blocks a) width = (lines, none) ∧ r a lines) :
    ∃ entries, print (items.flatMap blocks) width = (entries.flatten, none) ∧
      List.Forall₂ r items entries := by
  induction items with
  | nil => exact ⟨[], rfl, .nil⟩
  | cons a items ih =>
    rw [List.forall_mem_cons] at h
    rcases h.1 with ⟨lines, hlines, ha⟩
    rcases ih h.2 with ⟨entries, hentries, hitems⟩
    refine ⟨lines :: entries, ?_, .cons ha hitems⟩
    rw [List.flatMap_cons, print_append hlines, hentries]
    rfl

namespace Markup

/-! Texts with tags. -/

theorem lines_tagged {text : String} (spans : List Span) {rest : List Char} (hrest : TagFree rest)
    (htext : text.toList = spans.foldr Span.followedBy rest) :
    ∃ t, (Block.tagged text).lines width = .ok ((Console.lines width t).map StyledText.text) ∧
      t.chars = spans.flatMap Span.shown ++ shownOf rest := by
  rcases render_spans spans hrest htext with ⟨t, hrender, hchars, hstyles⟩
  refine ⟨t, ?_, hchars⟩
  change (render text >>= fun t => shownLines (Console.lines width t)) = _
  rw [hrender]
  apply shownLines_eq_ok
  intro style hstyle
  rcases List.mem_map.mp (hstyles hstyle) with ⟨s, _, rfl⟩
  exact s.isNormal.isShown

theorem exists_lines_tagged {text : String} (spans : List Span) {rest : List Char}
    (htext : text.toList = spans.foldr Span.followedBy rest) (hrest : '[' ∉ rest) :
    ∃ lines, (Block.tagged text).lines width = .ok lines := by
  rcases lines_tagged spans (.of_not_mem hrest) htext with ⟨t, hlines, _⟩
  exact ⟨_, hlines⟩

theorem exists_lines_of_not_mem {text : String} (h : '[' ∉ text.toList) :
    ∃ lines, (Block.tagged text).lines width = .ok lines :=
  exists_lines_tagged [] rfl h

theorem lines_tagged_of_fits {text : String} (spans : List Span) {rest shown : List Char}
    (hrest : TagFree rest) (htext : text.toList = spans.foldr Span.followedBy rest)
    (hshown : spans.flatMap Span.shown ++ shownOf rest = shown)
    (hfits : ∀ line ∈ Text.splitAt '\n' shown, Fits width line) :
    (Block.tagged text).lines width = .ok ((Text.splitAt '\n' shown).map String.ofList) := by
  rcases lines_tagged spans hrest htext with ⟨t, hlines, hchars⟩
  rw [hshown] at hchars
  rw [hlines, text_lines_of_fits] <;> rw [hchars]
  exact hfits

/-! Tables. -/

section

variable {n : Nat} {rows : List (List String)} {styled : String → StyledText} (hn : 0 < n)
  (hrows : rows ≠ []) (hlength : ∀ row ∈ rows, row.length = n)
  (hrender : ∀ row ∈ rows, ∀ cell ∈ row, render cell = .ok (styled cell))

include hrows hlength hrender in
theorem mapM_render : (transpose rows).mapM (fun column => column.mapM render) =
    .ok (columnsOf n (rows.map (·.map styled))) := by
  rw [transpose_eq_columnsOf hrows hlength, columnsOf_map styled hlength]
  apply mapM_eq_ok_map
  intro column hcolumn
  apply mapM_eq_ok_map
  intro cell hcell
  rcases mem_of_mem_columnsOf hlength hcolumn hcell with ⟨row, hrow, hcell⟩
  exact hrender row hrow cell hcell

include hn hlength in
theorem forM_checkStyles
    (hstyles : ∀ row ∈ rows, ∀ cell ∈ row, ∀ style ∈ styles (styled cell), IsShown style) :
    ((cellRows width (columnsOf n (rows.map (·.map styled)))).forM fun row =>
      row.forM fun lines => lines.forM checkStyles) = .ok () := by
  have hlength' : ∀ row ∈ rows.map (·.map styled), row.length = n := by
    simpa using hlength
  apply forM_eq_ok
  intro row hrow
  apply forM_eq_ok
  intro cell hcell
  apply forM_eq_ok
  intro line hline
  apply checkStyles_eq_ok
  intro style hstyle
  rcases styles_cellRows hn hlength' hrow hcell hline with ⟨texts, htexts, t, ht, hsubset⟩
  rcases List.mem_map.mp htexts with ⟨cells, hcells, rfl⟩
  rcases List.mem_map.mp ht with ⟨cell', hcell', rfl⟩
  exact hstyles cells hcells cell' hcell' style (hsubset hstyle)

include hn hrows hlength hrender in
theorem lines_table_of_styled
    (hstyles : ∀ row ∈ rows, ∀ cell ∈ row, ∀ style ∈ styles (styled cell), IsShown style)
    (hprintable : ∀ row ∈ rows, ∀ cell ∈ row, Text.Printable (styled cell).chars)
    (hroom : total (neededWidths n (plainRows (rows.map (·.map styled)))) ≤ width)
    (hvisible : ∀ size ∈ neededWidths n (plainRows (rows.map (·.map styled))),
      paddingWidth < size) :
    (Block.table rows).lines width = .ok ((plainRows (rows.map (·.map styled))).map fun row =>
      String.ofList (rowText (neededWidths n (plainRows (rows.map (·.map styled)))) row)) := by
  have hlines := tableLines_of_fits (by simpa using hlength) (by simpa using hrows)
    (by simpa using hprintable) hroom hn hvisible
  dsimp only [Block.lines]
  rw [mapM_render hrows hlength hrender]
  dsimp only [bind, Except.bind]
  rw [forM_checkStyles hn hlength hstyles, hlines]
  conv_rhs => rw [plainRows, List.map_map]
  rfl

end

structure Shows (cell : String) (cs : List Char) : Prop where
  render : ∃ t, render cell = .ok t ∧ t.chars = cs ∧ ∀ style ∈ styles t, IsShown style
  printable : Text.Printable cs

theorem Shows.of_spans {cell : String} (spans : List Span) {rest : List Char}
    (hrest : TagFree rest) (hcell : cell.toList = spans.foldr Span.followedBy rest)
    (hprintable : Text.Printable (spans.flatMap Span.shown ++ shownOf rest)) :
    Shows cell (spans.flatMap Span.shown ++ shownOf rest) := by
  rcases render_spans spans hrest hcell with ⟨t, hrender, hchars, hstyles⟩
  refine ⟨⟨t, hrender, hchars, fun style hstyle => ?_⟩, hprintable⟩
  rcases List.mem_map.mp (hstyles hstyle) with ⟨s, _, rfl⟩
  exact s.isNormal.isShown

theorem Shows.of_literal {cell : String} (h : Literal cell.toList)
    (hprintable : Text.Printable cell.toList) : Shows cell cell.toList := by
  have hshown : [].flatMap Span.shown ++ shownOf cell.toList = cell.toList :=
    h.shownOf_eq hprintable
  have hspans := Shows.of_spans [] h.tagFree (rfl : cell.toList = _)
  rw [hshown] at hspans
  exact hspans hprintable

theorem Shows.eq_styled {cell : String} {cs : List Char} (h : Shows cell cs) :
    Markup.render cell = .ok ((Markup.render cell).toOption.getD default) ∧
      ((Markup.render cell).toOption.getD default).chars = cs ∧
        ∀ style ∈ styles ((Markup.render cell).toOption.getD default), IsShown style := by
  rcases h.render with ⟨t, ht, hchars, hstyles⟩
  rw [ht]
  exact ⟨rfl, hchars, hstyles⟩

theorem lines_table {n : Nat} {rows : List (List String)} {shown : List (List (List Char))}
    (hn : 0 < n) (hrows : rows ≠ []) (hlength : ∀ row ∈ rows, row.length = n)
    (hshows : List.Forall₂ (List.Forall₂ Shows) rows shown)
    (hroom : total (neededWidths n shown) ≤ width)
    (hvisible : ∀ size ∈ neededWidths n shown, paddingWidth < size) :
    (Block.table rows).lines width =
      .ok (shown.map fun row => String.ofList (rowText (neededWidths n shown) row)) := by
  let styled (cell : String) : StyledText := (render cell).toOption.getD default
  have hcells : ∀ row ∈ rows, ∀ cell ∈ row, ∃ cs, Shows cell cs := by
    intro row hrow cell hcell
    rcases exists_forall₂_iff.mp ⟨_, hshows⟩ row hrow with ⟨texts, htexts⟩
    exact exists_forall₂_iff.mp ⟨_, htexts⟩ cell hcell
  have hplain : plainRows (rows.map (·.map styled)) = shown := by
    unfold plainRows
    rw [← List.forall₂_eq_eq_eq, List.map_map, List.forall₂_map_left_iff]
    refine hshows.imp fun row texts htexts => ?_
    rw [← List.forall₂_eq_eq_eq, Function.comp_apply, List.map_map, List.forall₂_map_left_iff]
    exact htexts.imp fun cell cs hcell => hcell.eq_styled.2.1
  rw [← hplain] at hroom hvisible ⊢
  refine lines_table_of_styled hn hrows hlength ?_ ?_ ?_ hroom hvisible <;>
    intro row hrow cell hcell <;>
    rcases hcells row hrow cell hcell with ⟨cs, hcs⟩
  . exact hcs.eq_styled.1
  . exact hcs.eq_styled.2.2
  . rw [hcs.eq_styled.2.1]
    exact hcs.printable

end Markup

end QueryLinker.Console
