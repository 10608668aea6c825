import QueryLinker.Proofs.Console.Block
import QueryLinker.Project.Report

/-!
This module contains what a reader finds in a report: a row for every compiled query and an entry
for every error, which name the files as they are. For this the names must not look like tags, as
they are printed in texts with tags.
-/

namespace QueryLinker

open Console Text
open Console.Markup (Bare Literal Rendering Shows TagFree shownOf)

namespace CompiledQuery

def shownRow (q : CompiledQuery) : List (List Char) :=
  [q.path.toList, (if q.name.isEmpty then "<anonymous>" else q.name).toList, q.usage.toList,
    (q.id?.getD "").toList]

structure Listed (sizes : List Nat) (q : CompiledQuery) (row : String) : Prop where
  text : row = String.ofList (rowText sizes q.shownRow)
  path : q.path.toList <:+: row.toList
  id : (q.id?.getD "").toList <:+: row.toList

def texts (q : CompiledQuery) : List String :=
  [q.path, q.name, q.id?.getD ""]

theorem listed_rowText {sizes : List Nat} (hsizes : sizes.length = 4) (q : CompiledQuery) :
    q.Listed sizes (String.ofList (rowText sizes q.shownRow)) := by
  have hlength : q.shownRow.length ≤ sizes.length := Nat.le_of_eq hsizes.symm
  have hshown : ∀ cs ∈ q.shownRow, cs <:+: (String.ofList (rowText sizes q.shownRow)).toList := by
    rw [String.toList_ofList]
    exact fun cs hcs => isInfix_rowText hlength hcs
  exact ⟨rfl, hshown _ (by simp [shownRow]), hshown _ (by simp [shownRow])⟩

end CompiledQuery

namespace CompileError

def headLine (e : CompileError) : String :=
  "  ✖ " ++ e.kind.text ++ " " ++ e.whereabouts

def messageLines (e : CompileError) : List String :=
  (splitAt '\n' ("    " ++ e.message).toList).map String.ofList

def Heads (e : CompileError) (entry : List String) : Prop :=
  ∃ more, entry = e.headLine :: e.messageLines ++ more

end CompileError

namespace Summary

def titles : List String :=
  ["File", "Query", "Kind", "Id"]

def shownRows (s : Summary) : List (List (List Char)) :=
  titles.map String.toList :: s.queries.map (·.shownRow)

structure Printable (s : Summary) : Prop where
  queries : ∀ q ∈ s.queries, ∀ text ∈ q.texts, Text.Printable text.toList
  files : ∀ e ∈ s.errors, Text.Printable e.file.toList

structure HasRoom (width : Nat) (s : Summary) : Prop where
  table : total (neededWidths 4 s.shownRows) ≤ width
  heads : ∀ e ∈ s.errors, Fits width e.headLine.toList
  messages : ∀ e ∈ s.errors, ∀ line ∈ e.messageLines, Fits width line.toList

/-- Nothing in the texts of the report is taken for something else. -/
structure IsLiteral (s : Summary) : Prop where
  queries : ∀ q ∈ s.queries, ∀ text ∈ q.texts, Literal text.toList
  places : ∀ e ∈ s.errors, Literal e.whereabouts.toList
  messages : ∀ e ∈ s.errors, Emoji.replace e.message.toList = e.message.toList ∧
    sent e.message.toList = e.message.toList
  suggestions : ∀ e ∈ s.errors, ∀ name ∈ e.suggestion?, Bare name.toList

variable {width : Nat}

/-! The rows. -/

theorem shows_words : ∀ word ∈ titles ++ ["hook", "static", "page"], Shows word word.toList := by
  have hwords : ∀ word ∈ titles ++ ["hook", "static", "page"],
      Literal word.toList ∧ Text.Printable word.toList := by
    decide +kernel
  exact fun word hword => .of_literal (hwords word hword).1 (hwords word hword).2

theorem shows_titles :
    List.Forall₂ Shows titles (titles.map String.toList) := by
  rw [List.forall₂_map_right_iff, List.forall₂_same]
  exact fun title htitle => shows_words title (List.mem_append_left _ htitle)

theorem shows_anonymous : Shows "[dim]<anonymous>[/dim]" "<anonymous>".toList := by
  let anonymous : Markup.Span :=
    .ofPlain "" "dim" "<anonymous>" (by decide +kernel) .dim (by decide) (by decide)
  have hshown : [anonymous].flatMap Markup.Span.shown ++ shownOf [] = "<anonymous>".toList := by
    decide +kernel
  have hcell : "[dim]<anonymous>[/dim]".toList = [anonymous].foldr Markup.Span.followedBy [] := by
    simp [anonymous, Markup.Span.ofPlain, Markup.Span.followedBy]
  have hspans := Shows.of_spans [anonymous] (.of_not_mem (by decide)) hcell
  rw [hshown] at hspans
  exact hspans (by decide +kernel)

theorem shows_usage (q : CompiledQuery) : Shows q.usage q.usage.toList := by
  apply shows_words
  unfold CompiledQuery.usage
  split
  . simp
  . split <;> simp

theorem shows_row {q : CompiledQuery} (hprintable : ∀ text ∈ q.texts, Text.Printable text.toList)
    (hliteral : ∀ text ∈ q.texts, Literal text.toList) :
    List.Forall₂ Shows q.row q.shownRow := by
  have hshows : ∀ text ∈ q.texts, Shows text text.toList := fun text htext =>
    .of_literal (hliteral text htext) (hprintable text htext)
  have hname : Shows (if q.name.isEmpty then "[dim]<anonymous>[/dim]" else q.name)
      (if q.name.isEmpty then "<anonymous>" else q.name).toList := by
    split
    . exact shows_anonymous
    . exact hshows _ (by simp [CompiledQuery.texts])
  exact .cons (hshows _ (by simp [CompiledQuery.texts])) (.cons hname (.cons (shows_usage q)
    (.cons (hshows _ (by simp [CompiledQuery.texts])) .nil)))

theorem lines_queries {s : Summary} (hprintable : s.Printable) (hroom : s.HasRoom width)
    (hliteral : s.IsLiteral) :
    (Block.table (["File", "Query", "Kind", "Id"] :: s.queries.map (·.row))).lines width =
      .ok (s.shownRows.map fun row =>
        String.ofList (rowText (neededWidths 4 s.shownRows) row)) := by
  have htitles : titles.map String.toList ∈ s.shownRows := List.mem_cons_self
  refine Markup.lines_table (by decide) (by simp) ?_ ?_ hroom.table
    (paddingWidth_lt_of_mem htitles rfl (by decide +kernel))
  . rw [List.forall_mem_cons]
    refine ⟨rfl, fun row hrow => ?_⟩
    rcases List.mem_map.mp hrow with ⟨q, _, rfl⟩
    rfl
  . refine .cons shows_titles ?_
    rw [List.forall₂_map_left_iff, List.forall₂_map_right_iff, List.forall₂_same]
    exact fun q hq => shows_row (hprintable.queries q hq) (hliteral.queries q hq)

/-! The entries. -/

theorem printable_int (n : Int) : Text.Printable (toString n).toList := by
  have hnat (n : Nat) : ∀ c ∈ n.repr.toList, 32 ≤ c.toNat ∧ c.toNat ≤ 126 := by
    intro c hc
    rw [Nat.toList_repr] at hc
    have hrange : 48 ≤ c.toNat ∧ c.toNat ≤ 57 := by
      simpa [Char.isDigit, UInt32.le_iff_toNat_le] using
        Nat.isDigit_of_mem_toDigits (by decide) (by decide) hc
    omega
  apply Printable.of_ascii
  cases n with
  | ofNat n => exact hnat n
  | negSucc n =>
    change ∀ c ∈ ("-" ++ (n + 1).repr).toList, _
    rw [String.toList_append, List.forall_mem_append]
    exact ⟨by simp, hnat (n + 1)⟩

theorem printable_whereabouts {e : CompileError} (h : Text.Printable e.file.toList) :
    Text.Printable e.whereabouts.toList := by
  have hcolon : Text.Printable ":".toList := by decide +kernel
  unfold CompileError.whereabouts
  split
  . exact h
  . simp only [String.toList_append, Text.Printable, List.forall_mem_append]
    exact ⟨⟨⟨⟨h, hcolon⟩, printable_int _⟩, hcolon⟩, printable_int _⟩

theorem shown_kind (kind : ErrorKind) : Bare kind.text.toList ∧
    shownOf kind.text.toList = kind.text.toList ∧ '\n' ∉ kind.text.toList := by
  have htable : ∀ kind ∈ ErrorKind.all, Bare kind.text.toList ∧
      shownOf kind.text.toList = kind.text.toList ∧ '\n' ∉ kind.text.toList := by
    decide +kernel
  exact htable kind (by cases kind <;> decide)

def dimmed (before inner : String) (hbefore : Bare before.toList) (hinner : Bare inner.toList) :
    Markup.Span :=
  ⟨before, "dim", inner, by decide +kernel, .dim, hbefore, hinner⟩

def mark : Markup.Span :=
  .ofPlain "  " "red" "✖" (by decide +kernel) .red (by decide) (by decide)

section

variable {e : CompileError} (hprintable : Text.Printable e.file.toList)
  (hhead : Fits width e.headLine.toList) (hplace : Literal e.whereabouts.toList)
  (hmessage : ∀ line ∈ e.messageLines, Fits width line.toList)
  (hemoji : Emoji.replace e.message.toList = e.message.toList)
  (hsent : sent e.message.toList = e.message.toList)

include hprintable hhead hplace in
theorem lines_head :
    (Block.tagged
        ("  [red]✖[/red] [dim]" ++ e.kind.text ++ "[/dim] " ++ e.whereabouts)).lines width =
      .ok [e.headLine] := by
  rcases shown_kind e.kind with ⟨hbare, hkind, hbreak⟩
  let kind := dimmed " " e.kind.text (Bare.of_not_mem (by decide) (by decide)) hbare
  have hwhere := printable_whereabouts hprintable
  have hblank : Text.Printable (' ' :: e.whereabouts.toList) :=
    List.forall_mem_cons.mpr ⟨isPrintable_of_ascii (by decide), hwhere⟩
  have htext : ("  [red]✖[/red] [dim]" ++ e.kind.text ++ "[/dim] " ++ e.whereabouts).toList =
      [mark, kind].foldr Markup.Span.followedBy (' ' :: e.whereabouts.toList) := by
    simp [mark, kind, dimmed, Markup.Span.ofPlain, Markup.Span.followedBy]
  have hshown : [mark, kind].flatMap Markup.Span.shown ++ shownOf (' ' :: e.whereabouts.toList) =
      e.headLine.toList := by
    have hmark : mark.shown = "  ✖".toList := by decide +kernel
    have hgap : shownOf " ".toList = " ".toList := by decide +kernel
    have hdimmed : kind.shown = " ".toList ++ e.kind.text.toList :=
      congrArg₂ (· ++ ·) hgap hkind
    rw [hplace.cons_blank.shownOf_eq hblank]
    simp [CompileError.headLine, hmark, hdimmed]
  have hsplit : splitAt '\n' e.headLine.toList = [e.headLine.toList] := by
    apply splitAt_of_not_mem
    have hline := hwhere.not_mem
      (not_isPrintable_of_isLineBreak (by decide : isLineBreak '\n' = true))
    simp [CompileError.headLine, hbreak, hline]
  rw [Markup.lines_tagged_of_fits [mark, kind] hplace.cons_blank.tagFree htext hshown]
  . rw [hsplit, List.map_singleton, String.ofList_toList]
  . rw [hsplit, List.forall_mem_singleton]
    exact hhead

include hmessage hemoji hsent in
theorem lines_message :
    (Block.plain ("    " ++ e.message)).lines width = .ok e.messageLines := by
  have hshown : sent (Emoji.replace ("    " ++ e.message).toList) =
      ("    " ++ e.message).toList := by
    rw [String.toList_append, Emoji.replace_append (by decide), hemoji, sent, List.filter_append]
    exact congrArg₂ (· ++ ·) (by decide) hsent
  dsimp only [Block.lines]
  rw [hshown, text_lines_of_fits]
  . rfl
  . intro line hline
    have hmem := hmessage (String.ofList line) (List.mem_map_of_mem hline)
    rwa [String.toList_ofList] at hmem

theorem exists_lines_suggestion {name : String} (h : Bare name.toList) :
    ∃ lines, (Block.tagged ("    [dim]closest fragment: " ++ name ++ "[/dim]")).lines width =
      .ok lines := by
  have hinner : Bare ("closest fragment: " ++ name).toList := by
    rw [String.toList_append]
    exact Bare.append (by decide) (by decide) h
  let span := dimmed "    " ("closest fragment: " ++ name)
    (Bare.of_not_mem (by decide) (by decide)) hinner
  have htext : ("    [dim]closest fragment: " ++ name ++ "[/dim]").toList =
      [span].foldr Markup.Span.followedBy [] := by
    simp [span, dimmed, Markup.Span.followedBy]
  rcases Markup.lines_tagged [span] (.of_not_mem (by decide)) htext with ⟨t, hlines, _⟩
  exact ⟨_, hlines⟩

include hprintable hhead hplace hmessage hemoji hsent in
theorem exists_print_error (hsuggestion : ∀ name ∈ e.suggestion?, Bare name.toList) :
    ∃ entry, print e.blocks width = (entry, none) ∧ e.Heads entry := by
  unfold CompileError.blocks
  dsimp only
  split
  . next name hname =>
    rcases exists_lines_suggestion (hsuggestion name hname) with ⟨more, hmore⟩
    rw [print_cons (lines_head hprintable hhead hplace),
      print_cons (lines_message hmessage hemoji hsent), print_cons hmore]
    exact ⟨_, rfl, more ++ [], rfl⟩
  . rw [print_cons (lines_head hprintable hhead hplace),
      print_cons (lines_message hmessage hemoji hsent)]
    exact ⟨_, rfl, [], rfl⟩

end

/-! The report. -/

def title : Markup.Span :=
  .ofPlain "\n" "bold cyan" "Compiled Queries" (by decide +kernel) .boldCyan (by decide) (by decide)

theorem toList_title : "\n[bold cyan]Compiled Queries[/bold cyan]\n".toList =
    [title].foldr Markup.Span.followedBy ['\n'] := by
  simp [title, Markup.Span.ofPlain, Markup.Span.followedBy]

def noQueries : Markup.Span :=
  .ofPlain "  " "dim" "No queries compiled" (by decide +kernel) .dim (by decide) (by decide)

theorem toList_noQueries : "  [dim]No queries compiled[/dim]".toList =
    [noQueries].foldr Markup.Span.followedBy [] := by
  simp [noQueries, Markup.Span.ofPlain, Markup.Span.followedBy]

def noErrors : Markup.Span :=
  .ofPlain "\n" "green" "✓ No errors" (by decide +kernel) .green (by decide) (by decide)

theorem toList_noErrors : "\n[green]✓ No errors[/green]".toList =
    [noErrors].foldr Markup.Span.followedBy [] := by
  simp [noErrors, Markup.Span.ofPlain, Markup.Span.followedBy]

def heading : Markup.Span :=
  .ofPlain "\n" "bold red" "Errors:" (by decide +kernel) .boldRed (by decide) (by decide)

theorem toList_heading : "\n[bold red]Errors:[/bold red]\n".toList =
    [heading].foldr Markup.Span.followedBy ['\n'] := by
  simp [heading, Markup.Span.ofPlain, Markup.Span.followedBy]

theorem exists_lines_counts (queries files errors : Nat) :
    ∃ lines, (Block.tagged ("\n  " ++ toString queries ++ " compiled from " ++ toString files ++
      " file(s), " ++ toString errors ++ " error(s)")).lines width = .ok lines := by
  have hnat (n : Nat) : '[' ∉ Nat.toDigits 10 n := by
    intro hmem
    cases Nat.isDigit_of_mem_toDigits (by decide) (by decide) hmem
  apply Markup.exists_lines_of_not_mem
  simp [hnat]

section

variable {s : Summary} (hprintable : s.Printable) (hroom : s.HasRoom width) (hliteral : s.IsLiteral)

include hprintable hroom hliteral

theorem exists_lines_queries : ∃ before rows,
    (if s.queries.isEmpty then Block.tagged "  [dim]No queries compiled[/dim]"
      else .table (["File", "Query", "Kind", "Id"] :: s.queries.map (·.row))).lines width =
        .ok (before ++ rows) ∧
    ∃ sizes : List Nat, List.Forall₂ (CompiledQuery.Listed sizes) s.queries rows := by
  split
  . next hnone =>
    rcases Markup.exists_lines_tagged [_] toList_noQueries (by decide) with ⟨lines, hlines⟩
    rw [List.isEmpty_iff] at hnone
    rw [hnone]
    exact ⟨lines, [], by rw [hlines, List.append_nil], [], .nil⟩
  . let sizes := neededWidths 4 s.shownRows
    have hsizes : sizes.length = 4 := by simp [sizes, neededWidths, columnsOf]
    refine ⟨[String.ofList (rowText sizes (titles.map String.toList))],
      s.queries.map fun q => String.ofList (rowText sizes q.shownRow), ?_, sizes, ?_⟩
    . rw [lines_queries hprintable hroom hliteral, Summary.shownRows, List.map_cons, List.map_map]
      rfl
    . rw [List.forall₂_map_right_iff, List.forall₂_same]
      exact fun q _ => q.listed_rowText hsizes

theorem exists_print_errors : ∃ before entries,
    print (if s.errors.isEmpty then [Block.tagged "\n[green]✓ No errors[/green]"]
      else .tagged "\n[bold red]Errors:[/bold red]\n" :: s.errors.flatMap (·.blocks)) width =
        (before ++ entries.flatten, none) ∧
      List.Forall₂ CompileError.Heads s.errors entries := by
  have hentries := exists_print_flatMap CompileError.blocks CompileError.Heads fun e he =>
    exists_print_error (hprintable.files e he) (hroom.heads e he) (hliteral.places e he)
      (hroom.messages e he) (hliteral.messages e he).1 (hliteral.messages e he).2
      (hliteral.suggestions e he)
  rcases hentries with ⟨entries, hprint, hentries⟩
  split
  . next hnone =>
    rw [List.isEmpty_iff] at hnone
    rcases Markup.exists_lines_tagged [_] toList_noErrors (by decide) with ⟨lines, hlines⟩
    rw [hnone, print_cons hlines]
    exact ⟨_, [], rfl, .nil⟩
  . rcases Markup.exists_lines_tagged [_] toList_heading (by decide) with ⟨lines, hlines⟩
    rw [print_cons hlines, hprint]
    exact ⟨lines, entries, rfl, hentries⟩

end

/-- The report names every file as it is. -/
theorem report_names_files {s : Summary} {format : String} (hformat : format ≠ jsonFormat)
    (hprintable : s.Printable) (hroom : s.HasRoom width) (hliteral : s.IsLiteral) :
    ∃ before rows between entries after,
      print (s.report format) width =
        (before ++ rows ++ between ++ entries.flatten ++ after, none) ∧
        (∃ sizes, List.Forall₂ (CompiledQuery.Listed sizes) s.queries rows) ∧
        List.Forall₂ CompileError.Heads s.errors entries := by
  rcases Markup.exists_lines_tagged [_] toList_title (by decide) with ⟨first, hfirst⟩
  rcases exists_lines_queries hprintable hroom hliteral with ⟨header, rows, hqueries, hrows⟩
  rcases exists_lines_counts s.queries.length s.fileCount s.errors.length with ⟨counts, hcounts⟩
  rcases exists_print_errors hprintable hroom hliteral with ⟨second, entries, herrors, hentries⟩
  have hend : (print [.plain ""] width).2 = none := rfl
  refine ⟨first ++ header, rows, counts ++ second, entries, (print [.plain ""] width).1, ?_, hrows,
    hentries⟩
  unfold Summary.report
  rw [if_neg (by simpa using hformat)]
  unfold Summary.blocks
  dsimp only
  rw [List.append_assoc, List.cons_append, print_cons hfirst, List.cons_append,
    print_cons hqueries, List.cons_append, print_cons hcounts, List.nil_append,
    print_append herrors, hend]
  simp only [List.append_assoc]

namespace Sample

def page (path : String) : CompiledQuery where
  name := "Page"
  text := "query Page \x7b a \x7d"
  originText := "query Page \x7b a \x7d"
  path
  isHook := false
  isStaticQuery := false
  hash := "1"

def summary : Summary where
  queries := [page "src/pages/[...slug].js"]
  errors := [{
    kind := .unknownFragment
    file := "src/[[...all]].js"
    message := "Not in src/[id].js."
    context := [("closestFragment", .str "Part")] }]
  fileCount := 2

theorem fits_summary : summary.Printable ∧ summary.HasRoom usualWidth ∧ summary.IsLiteral := by
  have hsuggestions : ∀ e ∈ summary.errors, ∀ name ∈ e.suggestion?, Bare name.toList := by
    have hpart : ∀ e ∈ summary.errors, e.suggestion? = some "Part" := by decide +kernel
    intro e he name hname
    cases (hpart e he).symm.trans hname
    exact Bare.of_not_mem (by decide) (by decide)
  exact ⟨⟨by decide +kernel, by decide +kernel⟩,
    ⟨by decide +kernel, by decide +kernel, by decide +kernel⟩,
    ⟨by decide +kernel, by decide +kernel, by decide +kernel, hsuggestions⟩⟩

end Sample

theorem report_names_files_page : "console" ≠ jsonFormat ∧ Sample.summary.Printable ∧
    Sample.summary.HasRoom usualWidth ∧ Sample.summary.IsLiteral ∧
    ∃ before rows between entries after,
      print (Sample.summary.report "console") usualWidth =
          (before ++ rows ++ between ++ entries.flatten ++ after, none) ∧
        (∃ sizes, List.Forall₂ (CompiledQuery.Listed sizes) Sample.summary.queries rows) ∧
        List.Forall₂ CompileError.Heads Sample.summary.errors entries := by
  have hformat : "console" ≠ jsonFormat := by decide
  rcases Sample.fits_summary with ⟨hprintable, hroom, hliteral⟩
  exact ⟨hformat, hprintable, hroom, hliteral,
    report_names_files hformat hprintable hroom hliteral⟩

theorem report_fails_of_closing {s : Summary} {format : String} (hformat : format ≠ jsonFormat)
    {e : CompileError} (he : e ∈ s.errors) {xs name ys : List Char} (hxs : Bare xs)
    (hname : ∀ c ∈ name, (c != ']' && c != '[') = true)
    (hplace : e.whereabouts.toList = xs ++ '[' :: ('/' :: name ++ ']' :: ys)) :
    (print (s.report format) width).2 ≠ none := by
  intro hnone
  have hne : s.errors.isEmpty = false := by
    rw [List.isEmpty_eq_false_iff]
    exact List.ne_nil_of_mem he
  have hmem : Block.tagged
      ("  [red]✖[/red] [dim]" ++ e.kind.text ++ "[/dim] " ++ e.whereabouts) ∈ s.report format := by
    unfold Summary.report
    rw [if_neg (by simpa using hformat)]
    unfold Summary.blocks
    simp only [hne, Bool.false_eq_true, if_false, List.mem_append, List.mem_cons, List.mem_flatMap]
    refine .inl (.inr (.inr ⟨e, he, ?_⟩))
    unfold CompileError.blocks
    dsimp only
    split <;> exact List.mem_cons_self
  let kind := dimmed " " e.kind.text (Bare.of_not_mem (by decide) (by decide)) (shown_kind e.kind).1
  have hblank : Bare (' ' :: xs) := Bare.append (by decide : '[' ∉ [' ']) (by decide) hxs
  have htext : ("  [red]✖[/red] [dim]" ++ e.kind.text ++ "[/dim] " ++ e.whereabouts).toList =
      [mark, kind].foldr Markup.Span.followedBy
        (' ' :: xs ++ '[' :: ('/' :: name ++ ']' :: ys)) := by
    simp [mark, kind, dimmed, Markup.Span.ofPlain, Markup.Span.followedBy, hplace]
  rcases print_eq_none_iff.mp hnone _ hmem with ⟨lines, hlines⟩
  rcases bind_eq_ok_iff.mp hlines with ⟨t, hrender, _⟩
  exact Markup.render_closing [mark, kind] hblank hname htext hrender

/-! A page whose path looks like a tag. -/

namespace Routes

def page : CompiledQuery :=
  Sample.page "src/pages/[id].js"

def summary : Summary where
  queries := [page]
  errors := []
  fileCount := 1

theorem fits : summary.Printable ∧ summary.HasRoom usualWidth :=
  ⟨⟨by decide +kernel, by decide +kernel⟩,
    ⟨by decide +kernel, by decide +kernel, by decide +kernel⟩⟩

theorem lines_title :
    (Block.tagged "\n[bold cyan]Compiled Queries[/bold cyan]\n").lines usualWidth =
      .ok ["", "Compiled Queries", ""] :=
  Markup.lines_tagged_of_fits _ (.of_not_mem (by decide)) toList_title
    (by decide +kernel : _ = "\nCompiled Queries\n".toList) (by decide +kernel)

theorem lines_noErrors :
    (Block.tagged "\n[green]✓ No errors[/green]").lines usualWidth = .ok ["", "✓ No errors"] :=
  Markup.lines_tagged_of_fits _ (.of_not_mem (by decide)) toList_noErrors
    (by decide +kernel : _ = "\n✓ No errors".toList) (by decide +kernel)

theorem shows_path : Shows "src/pages/[id].js" "src/pages/.js".toList := by
  have hstyle : IsNormal "id" :=
    .of_color {} "id" (by decide) (Style.ofText_of_words rfl (by decide)) (by decide) (by decide)
  have hpieces : Markup.piecesFrom [] 0 0 "src/pages/[id].js".toList =
      [.plain "src/pages/".toList, .tag "id".toList 10, .plain ".js".toList] := by
    decide +kernel
  let shown := "src/pages/.js".toList.reverse
  have hrendering : [Markup.Piece.plain "src/pages/".toList, .tag "id".toList 10,
      .plain ".js".toList].foldlM Rendering.add {} = .ok ⟨shown, [⟨"id", none, 10⟩], []⟩ := by
    have hbefore : sent (Emoji.replace (Markup.dropSlashes "src/pages/".toList)) =
        "src/pages/".toList := by
      decide +kernel
    have hafter : sent (Emoji.replace (Markup.dropSlashes ".js".toList)) = ".js".toList := by
      decide +kernel
    simp only [List.foldlM_cons, List.foldlM_nil, bind_eq_ok_iff]
    exact ⟨_, Rendering.add_plain hbefore, _, Markup.add_openTag (by decide +kernel) hstyle, _,
      Rendering.add_plain hafter, rfl⟩
  refine ⟨⟨Rendering.finish ⟨shown, [⟨"id", none, 10⟩], []⟩, ?_, ?_, ?_⟩, by decide +kernel⟩
  . unfold Markup.render
    dsimp only
    rw [if_pos (by decide), hpieces, hrendering]
    rfl
  . decide +kernel
  . have hstyles : ∀ style ∈ styles (Rendering.finish ⟨shown, [⟨"id", none, 10⟩], []⟩),
        style = "id" := by
      decide +kernel
    intro style hmem
    rw [hstyles style hmem]
    exact hstyle.isShown

theorem lines_table : (Block.table [["File", "Query", "Kind", "Id"], page.row]).lines usualWidth =
    .ok [" File           Query  Kind  Id ", " src/pages/.js  Page   page     "] := by
  let shown := [titles.map String.toList,
    ["src/pages/.js".toList, "Page".toList, "page".toList, []]]
  have hshows : List.Forall₂ (List.Forall₂ Shows) [["File", "Query", "Kind", "Id"], page.row]
      shown := by
    have hname : Shows "Page" "Page".toList := .of_literal (by decide +kernel) (by decide +kernel)
    have hid : Shows "" "".toList := .of_literal (by decide +kernel) (by decide +kernel)
    exact .cons shows_titles (.cons (.cons shows_path (.cons hname (.cons (shows_usage page)
      (.cons hid .nil)))) .nil)
  have hroom : total (neededWidths 4 shown) ≤ usualWidth := by decide +kernel
  have hlength : ∀ row ∈ [["File", "Query", "Kind", "Id"], page.row], row.length = 4 := by
    simp [CompiledQuery.row]
  rw [Markup.lines_table (by decide) (by simp) hlength hshows hroom (by decide +kernel)]
  decide +kernel

theorem print_report : print (summary.report "console") usualWidth =
    (["", "Compiled Queries", "", " File           Query  Kind  Id ",
      " src/pages/.js  Page   page     ", "", "  1 compiled from 1 file(s), 0 error(s)", "",
      "✓ No errors", ""], none) := by
  have hcounts : (Block.tagged "\n  1 compiled from 1 file(s), 0 error(s)").lines usualWidth =
      .ok ["", "  1 compiled from 1 file(s), 0 error(s)"] :=
    Markup.lines_tagged_of_fits [] (.of_not_mem (by decide)) rfl
      (by decide +kernel : _ = "\n  1 compiled from 1 file(s), 0 error(s)".toList)
      (by decide +kernel)
  have hend : print [.plain ""] usualWidth = ([""], none) := by decide +kernel
  have hblocks : summary.report "console" = [
      .tagged "\n[bold cyan]Compiled Queries[/bold cyan]\n",
      .table [["File", "Query", "Kind", "Id"], page.row],
      .tagged "\n  1 compiled from 1 file(s), 0 error(s)",
      .tagged "\n[green]✓ No errors[/green]", .plain ""] := rfl
  rw [hblocks, print_cons lines_title, print_cons lines_table, print_cons hcounts,
    print_cons lines_noErrors, hend]
  rfl

end Routes

/-- In no line of the report the page is named. -/
theorem report_misnames_route : Routes.summary.Printable ∧
    Routes.summary.HasRoom usualWidth ∧
    ¬ ∃ line ∈ (print (Routes.summary.report "console") usualWidth).1,
      Routes.page.path.toList <:+: line.toList := by
  refine ⟨Routes.fits.1, Routes.fits.2, ?_⟩
  have hbracket : ∀ line ∈ (print (Routes.summary.report "console") usualWidth).1,
      '[' ∉ line.toList := by
    rw [Routes.print_report]
    decide
  rintro ⟨line, hline, hpath⟩
  exact hbracket line hline (hpath.subset (by decide))

end Summary

end QueryLinker
