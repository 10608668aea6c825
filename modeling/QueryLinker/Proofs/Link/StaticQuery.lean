import QueryLinker.Link.StaticQuery
import QueryLinker.Proofs.Path.Basic
import QueryLinker.Proofs.Text.Words

/-!
This module contains that the identifier of a static query stays when the project is moved: it
depends on where the file is in the project, and not on where the project is. Of two files in one
project it contains when their identifiers are different: letters of any script tell files apart,
unless they are one letter in two cases.
-/

namespace QueryLinker

open QueryLinker.Path Text

theorem words_climb (up down : List String) :
    words (toString (Path.mk "" (up.map (fun _ => "..") ++ down))).toList =
      words ("/".intercalate down).toList := by
  have hdot (cs : List Char) : words ('.' :: cs) = words cs := words_separator (by decide +kernel)
  have hslash (cs : List Char) : words ('/' :: cs) = words cs := words_separator (by decide +kernel)
  by_cases hne : up.map (fun _ => "..") ++ down = []
  . rw [hne, toString_nil, if_pos rfl, (List.append_eq_nil_iff.mp hne).2, String.intercalate_nil]
    exact hdot []
  . rw [toString_of_ne_nil "" hne, String.empty_append]
    clear hne
    induction up with
    | nil => rfl
    | cons _ up ih =>
      rw [List.map_cons, List.cons_append]
      by_cases hlast : up.map (fun _ => "..") ++ down = []
      . rw [hlast, (List.append_eq_nil_iff.mp hlast).2, String.intercalate_singleton,
          String.intercalate_nil]
        change words ['.', '.'] = words []
        rw [hdot, hdot]
      . rw [String.intercalate_cons_of_ne_nil hlast, String.toList_append, String.toList_append]
        change words ('.' :: '.' :: '/' ::
          ("/".intercalate (up.map (fun _ => "..") ++ down)).toList) = _
        rw [hdot, hdot, hslash, ih]

theorem staticQueryId?_absoluteText {base file root files roots : List String}
    (hparts : ∀ part ∈ base ++ (file ++ root), IsPart part ∧ part ≠ "..")
    (hfiles : Padded files (base ++ file)) (hroots : Padded roots (base ++ root))
    {up down : List String} (hdrop : dropCommon root file = (up, down)) (cwd marker : String) :
    staticQueryId? cwd (absoluteText roots) marker (absoluteText files) =
      some (marker ++ kebabCase ("/".intercalate down)) := by
  have hrelative : relativeParts file root = up.map (fun _ => "..") ++ down := by
    rw [relativeParts, hdrop]
  rw [staticQueryId?, relative?_absoluteText cwd hfiles hroots hparts, hrelative, Option.map_some,
    kebabCase, words_climb, ← kebabCase]

/--
The identifier stays when the project is moved. Slashes and dots that say nothing make no difference
to it, and neither do the current directory and the one that both the file and the root are in.
-/
theorem staticQueryId_moved {base file root files roots files' roots' : List String}
    (hparts : ∀ part ∈ base ++ (file ++ root), IsPart part ∧ part ≠ "..")
    (hfiles : Padded files (base ++ file)) (hroots : Padded roots (base ++ root))
    (hfiles' : Padded files' file) (hroots' : Padded roots' root) (cwd cwd' marker : String) :
    ∃ common up down, root = common ++ up ∧ file = common ++ down ∧
      (∀ name ∈ up.head?, name ∉ down.head?) ∧
      staticQueryId? cwd (absoluteText roots) marker (absoluteText files) =
        some (marker ++ kebabCase ("/".intercalate down)) ∧
      staticQueryId? cwd' (absoluteText roots') marker (absoluteText files') =
        some (marker ++ kebabCase ("/".intercalate down)) := by
  rcases exists_common root file with ⟨common, up, down, hroot, hfile, hdrop, hdiffer⟩
  have hparts' : ∀ part ∈ [] ++ (file ++ root), IsPart part ∧ part ≠ ".." :=
    fun part hpart => hparts part (List.mem_append_right base hpart)
  exact ⟨common, up, down, hroot, hfile, hdiffer,
    staticQueryId?_absoluteText hparts hfiles hroots hdrop cwd marker,
    staticQueryId?_absoluteText hparts' hfiles' hroots' hdrop cwd' marker⟩

theorem staticQueryId_moved_outside :
    (∀ part ∈ ["home", "me"] ++ (["src", "Page2.js"] ++ ["app"]), IsPart part ∧ part ≠ "..") ∧
    Padded ["home", "", "me", ".", "src", "Page2.js"] (["home", "me"] ++ ["src", "Page2.js"]) ∧
    Padded ["home", "me", "app", ""] (["home", "me"] ++ ["app"]) ∧
    Padded ["src", "Page2.js"] ["src", "Page2.js"] ∧ Padded ["app"] ["app"] ∧
    staticQueryId? "/tmp" "/home/me/app/" "sq--" "/home//me/./src/Page2.js" =
      some "sq--src-page-2-js" ∧
    staticQueryId? "/" "/app" "sq--" "/src/Page2.js" = some "sq--src-page-2-js" := by
  have hparts : ∀ part ∈ ["home", "me"] ++ (["src", "Page2.js"] ++ ["app"]),
      IsPart part ∧ part ≠ ".." := by decide
  have hfiles : Padded ["home", "", "me", ".", "src", "Page2.js"]
      ["home", "me", "src", "Page2.js"] :=
    .part _ (.slash (.part _ (.dot (.refl ["src", "Page2.js"]))))
  have hroots : Padded ["home", "me", "app", ""] ["home", "me", "app"] :=
    .part _ (.part _ (.part _ (.slash .nil)))
  refine ⟨hparts, hfiles, hroots, .refl _, .refl _, ?_⟩
  rcases staticQueryId_moved hparts hfiles hroots (.refl _) (.refl _) "/tmp" "/" "sq--" with
    ⟨common, up, down, hroot, hfile, _, hfrom, hto⟩
  have hcommon : common = [] := by
    cases common with
    | nil => rfl
    | cons name common =>
      rw [List.cons_append, List.cons.injEq] at hroot hfile
      exact absurd (hroot.1.trans hfile.1.symm) (by decide)
  subst hcommon
  have hid : "sq--" ++ kebabCase ("/".intercalate ["src", "Page2.js"]) = "sq--src-page-2-js" := by
    decide +kernel
  rw [List.nil_append] at hfile
  rw [← hfile, hid] at hfrom hto
  exact ⟨hfrom, hto⟩

theorem staticQueryId?_below {cwd root path : String} {down : List String} (hne : path ≠ "")
    (hbelow : absoluteParts cwd path = absoluteParts cwd root ++ down) (marker : String) :
    staticQueryId? cwd root marker path = some (marker ++ kebabCase ("/".intercalate down)) := by
  have hdrop : dropCommon (absoluteParts cwd root) (absoluteParts cwd root ++ down) =
      ([], down) := by
    have h := dropCommon_append (absoluteParts cwd root) [] down
    rw [List.append_nil] at h
    rw [h]
    cases down <;> rfl
  have hrelative : relativeParts (absoluteParts cwd path) (absoluteParts cwd root) =
      List.map (fun _ => "..") ([] : List String) ++ down := by
    rw [hbelow, relativeParts, hdrop]
  rw [staticQueryId?, relative?, if_neg (by simpa using hne), hrelative, Option.map_some, kebabCase,
    words_climb, ← kebabCase]

theorem keepsParts_exchangeable : KeepsParts Exchangeable where
  refl := fun _ => .inl rfl
  slash := fun h => h.eq_iff (by decide)
  dot := fun h => h.eq_iff (by decide)

/--
Two files of a project whose paths differ in letters beyond ASCII have one identifier exactly if
the words of their paths are the same in lower case. So their identifiers are different as soon as
two different letters, and not one letter in two cases, are at one place of the paths as seen from
the root.
-/
theorem staticQueryId_apart {cwd root p q : String} {down down' : List String} (hne : p ≠ "")
    (halike : List.Forall₂ Exchangeable p.toList q.toList)
    (hp : absoluteParts cwd p = absoluteParts cwd root ++ down)
    (hq : absoluteParts cwd q = absoluteParts cwd root ++ down') (marker : String) :
    ∃ id id', staticQueryId? cwd root marker p = some id ∧
      staticQueryId? cwd root marker q = some id' ∧
      (id = id' ↔ (words ("/".intercalate down).toList).map lowerList =
        (words ("/".intercalate down').toList).map lowerList) ∧
      ((∃ pair ∈ ("/".intercalate down).toList.zip ("/".intercalate down').toList,
        caseless pair.1 ≠ caseless pair.2) → id ≠ id') := by
  have hp' : Path.Alike Exchangeable p q := halike
  have hne' : q ≠ "" := fun heq => hne (hp'.eq_empty_iff.mpr heq)
  have hparts := hp'.absoluteParts keepsParts_exchangeable cwd
  rw [hp, hq] at hparts
  have hdown : List.Forall₂ (Path.Alike Exchangeable) down down' := by
    have h := List.forall₂_drop (absoluteParts cwd root).length hparts
    rwa [List.drop_left, List.drop_left] at h
  have hid : marker ++ kebabCase ("/".intercalate down) =
      marker ++ kebabCase ("/".intercalate down') ↔
      (words ("/".intercalate down).toList).map lowerList =
        (words ("/".intercalate down').toList).map lowerList := by
    rw [String.append_right_inj, kebabCase_eq_iff]
  refine ⟨_, _, staticQueryId?_below hne hp marker, staticQueryId?_below hne' hq marker, hid, ?_⟩
  rintro ⟨⟨c, d⟩, hpair, hdiffer⟩ heq
  have hletters := forall₂_caseless (alike_intercalate keepsParts_exchangeable hdown) (hid.mp heq)
  exact hdiffer (List.forall₂_zip hletters hpair)

instance (c d : Char) : Decidable (Exchangeable c d) :=
  inferInstanceAs (Decidable (_ ∨ _))

theorem exchangeable_of_zip {s t : String} (hlength : s.toList.length = t.toList.length)
    (h : ∀ pair ∈ s.toList.zip t.toList, Exchangeable pair.1 pair.2) :
    List.Forall₂ Exchangeable s.toList t.toList :=
  List.forall₂_iff_zip.mpr ⟨hlength, fun hpair => h _ hpair⟩

theorem staticQueryId_apart_climbing :
    "app//src/../pages/关于.js" ≠ "" ∧
    List.Forall₂ Exchangeable "app//src/../pages/关于.js".toList
      "app//src/../pages/联系.js".toList ∧
    absoluteParts "/home" "app//src/../pages/关于.js" =
      absoluteParts "/home" "app/" ++ ["pages", "关于.js"] ∧
    absoluteParts "/home" "app//src/../pages/联系.js" =
      absoluteParts "/home" "app/" ++ ["pages", "联系.js"] ∧
    ∃ id id', staticQueryId? "/home" "app/" "sq--" "app//src/../pages/关于.js" = some id ∧
      staticQueryId? "/home" "app/" "sq--" "app//src/../pages/联系.js" = some id' ∧ id ≠ id' := by
  have hne : "app//src/../pages/关于.js" ≠ "" := by decide
  have halike : List.Forall₂ Exchangeable "app//src/../pages/关于.js".toList
      "app//src/../pages/联系.js".toList :=
    exchangeable_of_zip (by decide +kernel) (by decide +kernel)
  have hp : absoluteParts "/home" "app//src/../pages/关于.js" =
      absoluteParts "/home" "app/" ++ ["pages", "关于.js"] := by
    decide +kernel
  have hq : absoluteParts "/home" "app//src/../pages/联系.js" =
      absoluteParts "/home" "app/" ++ ["pages", "联系.js"] := by
    decide +kernel
  refine ⟨hne, halike, hp, hq, ?_⟩
  rcases staticQueryId_apart hne halike hp hq "sq--" with ⟨id, id', hid, hid', _, happart⟩
  exact ⟨id, id', hid, hid', happart ⟨('关', '联'), by decide +kernel, by decide +kernel⟩⟩

/-- One letter in two cases does not tell files apart. -/
theorem staticQueryId_not_apart :
    "/site/pages/É.js" ≠ "/site/pages/é.js" ∧
    List.Forall₂ Exchangeable "/site/pages/É.js".toList "/site/pages/é.js".toList ∧
    absoluteParts "/" "/site/pages/É.js" = absoluteParts "/" "/site" ++ ["pages", "É.js"] ∧
    absoluteParts "/" "/site/pages/é.js" = absoluteParts "/" "/site" ++ ["pages", "é.js"] ∧
    staticQueryId? "/" "/site" "sq--" "/site/pages/É.js" = some "sq--pages-é-js" ∧
    staticQueryId? "/" "/site" "sq--" "/site/pages/é.js" = some "sq--pages-é-js" :=
  ⟨by decide, exchangeable_of_zip (by decide +kernel) (by decide +kernel), by decide +kernel,
    by decide +kernel, by decide +kernel, by decide +kernel⟩

end QueryLinker
