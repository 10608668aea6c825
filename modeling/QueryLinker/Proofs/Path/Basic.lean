import Mathlib.Data.List.Forall2
import Mathlib.Tactic.Common
import QueryLinker.Path.Basic

/-!
This module contains that a plain path is the same when its text is read again: the texts that paths
are written as keep apart what stood apart in the path. Of two absolute paths it contains the
relative one: slashes and dots that say nothing make no difference to it, and what both paths have
in common at their start makes none either. Paths whose texts are alike character by character have
parts that are alike, in the same number and order, if only slashes and dots are not exchanged for
anything else.
-/

namespace QueryLinker

theorem Text.endsWith_iff {s ending : String} :
    s.endsWith ending ↔ ending.toList <:+ s.toList := by
  have hslice : s.toSlice.endsWith ending ↔ ending.toList <:+ s.toSlice.copy.toList :=
    String.Slice.endsWith_string_iff
  rwa [String.copy_toSlice] at hslice

namespace Path

structure IsPart (part : String) : Prop where
  ne_empty : part ≠ ""
  ne_dot : part ≠ "."
  no_slash : '/' ∉ part.toList

instance (part : String) : Decidable (IsPart part) :=
  decidable_of_iff (part ≠ "" ∧ part ≠ "." ∧ '/' ∉ part.toList)
    ⟨fun h => ⟨h.1, h.2.1, h.2.2⟩, fun h => ⟨h.ne_empty, h.ne_dot, h.no_slash⟩⟩

structure Plain (p : Path) : Prop where
  root : p.root = "" ∨ p.root = "/" ∨ p.root = "//"
  parts : ∀ part ∈ p.parts, IsPart part

variable {cs current rest : List Char} {parts : List String}

theorem go_of_no_slash (h : '/' ∉ cs) :
    components.go current cs = [String.ofList (current.reverse ++ cs)] := by
  induction cs generalizing current with
  | nil => rw [components.go, List.append_nil]
  | cons c cs ih =>
    rw [List.mem_cons, not_or] at h
    rw [components.go, if_neg (by simpa using fun heq => h.1 heq.symm), ih h.2, List.reverse_cons,
      List.append_assoc, List.singleton_append]

theorem go_slash (h : '/' ∉ cs) :
    components.go current (cs ++ '/' :: rest) =
      String.ofList (current.reverse ++ cs) :: components rest := by
  induction cs generalizing current with
  | nil =>
    rw [List.nil_append, components.go, if_pos (by simp), List.append_nil]
    rfl
  | cons c cs ih =>
    rw [List.mem_cons, not_or] at h
    rw [List.cons_append, components.go, if_neg (by simpa using fun heq => h.1 heq.symm), ih h.2,
      List.reverse_cons, List.append_assoc, List.singleton_append]

theorem components_slash (rest : List Char) : components ('/' :: rest) = "" :: components rest :=
  go_slash (List.not_mem_nil)

theorem components_intercalate (hne : parts ≠ []) (h : ∀ part ∈ parts, '/' ∉ part.toList) :
    components ("/".intercalate parts).toList = parts := by
  induction parts with
  | nil => exact absurd rfl hne
  | cons part parts ih =>
    have hpart := h part (by simp)
    cases parts with
    | nil =>
      rw [String.intercalate_singleton, components, go_of_no_slash hpart]
      simp
    | cons next parts =>
      rw [String.intercalate_cons_cons, String.toList_append, String.toList_append,
        List.append_assoc]
      change components.go [] (part.toList ++ '/' :: ("/".intercalate (next :: parts)).toList) = _
      rw [go_slash hpart, ih (by simp) fun p hp => h p (List.mem_cons_of_mem _ hp)]
      simp

theorem no_slash_go {part : String} (hcurrent : '/' ∉ current)
    (h : part ∈ components.go current cs) : '/' ∉ part.toList := by
  induction cs generalizing current with
  | nil =>
    rw [components.go, List.mem_singleton] at h
    simpa [h] using hcurrent
  | cons c cs ih =>
    rw [components.go] at h
    split at h
    next =>
      rcases List.mem_cons.mp h with rfl | hmem
      . simpa using hcurrent
      . exact ih (by simp) hmem
    next hc =>
      refine ih ?_ h
      rw [List.mem_cons, not_or]
      exact ⟨fun heq => hc (by simp [← heq]), hcurrent⟩

theorem isPart_of_mem {part : String} (h : part ∈ namedComponents cs) : IsPart part := by
  rw [namedComponents, List.mem_filter] at h
  have hnamed := h.2
  simp at hnamed
  exact ⟨hnamed.1, hnamed.2, no_slash_go (by simp) h.1⟩

theorem rootOf_cases (cs : List Char) :
    rootOf cs = "" ∨ rootOf cs = "/" ∨ rootOf cs = "//" := by
  unfold rootOf
  split
  . exact .inl rfl
  . exact .inr (.inr rfl)
  . exact .inr (.inl rfl)

theorem plain_ofString (s : String) : (ofString s).Plain where
  root := rootOf_cases s.toList
  parts := fun _ h => isPart_of_mem h

theorem exists_head_intercalate (hne : parts ≠ []) (h : ∀ part ∈ parts, IsPart part) :
    ∃ c cs, ("/".intercalate parts).toList = c :: cs ∧ c ≠ '/' := by
  rcases List.exists_cons_of_ne_nil hne with ⟨part, more, rfl⟩
  have hpart := h part (by simp)
  have hchars : part.toList ≠ [] := by
    intro hnil
    exact hpart.ne_empty (String.toList_eq_nil_iff.mp hnil)
  rcases List.exists_cons_of_ne_nil hchars with ⟨c, cs, hcs⟩
  have hc : c ≠ '/' := by
    rintro rfl
    exact hpart.no_slash (by simp [hcs])
  cases more with
  | nil => exact ⟨c, cs, by rw [String.intercalate_singleton, hcs], hc⟩
  | cons next more =>
    rw [String.intercalate_cons_cons, String.toList_append, String.toList_append, hcs,
      List.cons_append, List.cons_append]
    exact ⟨c, _, rfl, hc⟩

theorem toString_nil (root : String) :
    toString (Path.mk root []) = if root = "" then "." else root := by
  simp [toString]

theorem toString_of_ne_nil (root : String) (hne : parts ≠ []) :
    toString (Path.mk root parts) = root ++ "/".intercalate parts := by
  simp [toString, hne]

theorem components_toString {root : String} (h : (Path.mk root parts).Plain) (hne : parts ≠ []) :
    ∃ count, components (toString (Path.mk root parts)).toList =
      List.replicate count "" ++ parts := by
  have hcomponents := components_intercalate hne fun part hpart => (h.parts part hpart).no_slash
  rw [toString_of_ne_nil root hne, String.toList_append]
  generalize ("/".intercalate parts).toList = text at hcomponents ⊢
  rcases h.root with hroot | hroot | hroot
  all_goals
    dsimp only at hroot
    subst hroot
  . exact ⟨0, hcomponents⟩
  . refine ⟨1, ?_⟩
    change components ('/' :: text) = _
    rw [components_slash, hcomponents]
    rfl
  . refine ⟨2, ?_⟩
    change components ('/' :: '/' :: text) = _
    rw [components_slash, components_slash, hcomponents]
    rfl

theorem filter_replicate_empty {p : String → Bool} (hempty : p "" = false)
    (h : ∀ part ∈ parts, p part) (count : Nat) :
    (List.replicate count "" ++ parts).filter p = parts := by
  rw [List.filter_append, List.filter_replicate_of_neg (by simp [hempty]), List.nil_append,
    List.filter_eq_self]
  exact h

theorem rootOf_toString {root : String} (h : (Path.mk root parts).Plain) (hne : parts ≠ []) :
    rootOf (toString (Path.mk root parts)).toList = root := by
  rcases exists_head_intercalate hne h.parts with ⟨c, cs, htext, hc⟩
  rw [toString_of_ne_nil root hne, String.toList_append, htext]
  rcases h.root with hroot | hroot | hroot
  all_goals
    dsimp only at hroot
    subst hroot
    simp [rootOf, hc]

theorem ofString_toString {p : Path} (h : p.Plain) : ofString (toString p) = p := by
  rcases p with ⟨root, parts⟩
  by_cases hne : parts = []
  . subst hne
    rw [toString_nil]
    rcases h.root with hroot | hroot | hroot
    all_goals
      dsimp only at hroot
      subst hroot
      decide
  . rcases components_toString h hne with ⟨count, hcomponents⟩
    rw [ofString, rootOf_toString h hne, namedComponents, hcomponents,
      filter_replicate_empty (by decide)]
    intro part hpart
    have hpart' := h.parts part hpart
    simp [hpart'.ne_empty, hpart'.ne_dot]

theorem namedComponents_part {name : String} (h : IsPart name) :
    namedComponents name.toList = [name] := by
  rw [namedComponents, components, go_of_no_slash h.no_slash]
  simp [h.ne_empty, h.ne_dot]

theorem exists_head_part {name : String} (h : IsPart name) :
    ∃ c cs, name.toList = c :: cs ∧ c ≠ '/' := by
  have hhead := exists_head_intercalate (List.cons_ne_nil name []) (by simpa using h)
  rwa [String.intercalate_singleton] at hhead

theorem rootOf_part {name : String} (h : IsPart name) : rootOf name.toList = "" := by
  rcases exists_head_part h with ⟨c, cs, htext, hc⟩
  rw [htext]
  simp [rootOf, hc]

theorem ofString_part {name : String} (h : IsPart name) : ofString name = ⟨"", [name]⟩ := by
  rw [ofString, rootOf_part h, namedComponents_part h]

theorem join_part (directory : String) {name : String} (h : IsPart name) :
    join [directory, name] =
      toString (Path.mk (ofString directory).root ((ofString directory).parts ++ [name])) := by
  have hstart : Path.mk "" [] ++ ofString directory = ofString directory := by
    change Path.append _ _ = _
    unfold append
    split
    . rfl
    next habsolute =>
      have hroot : (ofString directory).root = "" := by simpa [isAbsolute] using habsolute
      rw [List.nil_append, ← hroot]
  have happend : ofString directory ++ ofString name =
      ⟨(ofString directory).root, (ofString directory).parts ++ [name]⟩ := by
    rw [ofString_part h]
    rfl
  rw [join, List.foldl_cons, List.foldl_cons, List.foldl_nil, hstart, happend]

theorem plain_append_part (directory : String) {name : String} (h : IsPart name) :
    (Path.mk (ofString directory).root ((ofString directory).parts ++ [name])).Plain where
  root := (plain_ofString directory).root
  parts := by
    intro part hpart
    rcases List.mem_append.mp hpart with hold | hnew
    . exact (plain_ofString directory).parts part hold
    . exact List.mem_singleton.mp hnew ▸ h

theorem ofString_join (directory : String) {name : String} (h : IsPart name) :
    ofString (join [directory, name]) =
      ⟨(ofString directory).root, (ofString directory).parts ++ [name]⟩ := by
  rw [join_part directory h, ofString_toString (plain_append_part directory h)]

theorem exists_append_part (directory : String) {name : String} (h : IsPart name) :
    ∃ front, (join [directory, name]).toList = front ++ name.toList := by
  rw [join_part directory h, toString_of_ne_nil _ (by simp)]
  by_cases hne : (ofString directory).parts = []
  . rw [hne, List.nil_append, String.intercalate_singleton, String.toList_append]
    exact ⟨_, rfl⟩
  . rw [String.intercalate_append_of_ne_nil hne (by simp), String.intercalate_singleton,
      ← String.append_assoc, String.toList_append]
    exact ⟨_, rfl⟩

theorem startsWith_slash (s : String) : s.startsWith "/" = (ofString s).isAbsolute := by
  have hstarts : s.startsWith "/" ↔ ['/'] <+: s.toList := String.startsWith_string_iff
  have hroot : (ofString s).isAbsolute ↔ ['/'] <+: s.toList := by
    change (rootOf s.toList != "") = true ↔ _
    cases s.toList with
    | nil => simp [rootOf]
    | cons c cs =>
      by_cases hc : c = '/'
      . subst hc
        have hne : rootOf ('/' :: cs) ≠ "" := by
          unfold rootOf
          simp
          split <;> simp_all
        simp [hne]
      . simp [rootOf, hc, Ne.symm hc]
  rw [Bool.eq_iff_iff, hstarts, hroot]

section Relative

inductive Padded : List String → List String → Prop where
  | nil : Padded [] []
  | part {pieces parts : List String} (name : String) (h : Padded pieces parts) :
      Padded (name :: pieces) (name :: parts)
  | slash {pieces parts : List String} (h : Padded pieces parts) :
      Padded ("" :: pieces) parts
  | dot {pieces parts : List String} (h : Padded pieces parts) :
      Padded ("." :: pieces) parts

def absoluteText (pieces : List String) : String :=
  "/" ++ "/".intercalate pieces

variable {pieces parts : List String}

namespace Padded

theorem refl (parts : List String) : Padded parts parts := by
  induction parts with
  | nil => exact .nil
  | cons name parts ih => exact .part name ih

theorem no_slash (h : Padded pieces parts) (hparts : ∀ part ∈ parts, IsPart part) :
    ∀ piece ∈ pieces, '/' ∉ piece.toList := by
  induction h with
  | nil => simp
  | part name _ ih =>
    rw [List.forall_mem_cons] at hparts ⊢
    exact ⟨hparts.1.no_slash, ih hparts.2⟩
  | slash _ ih => exact List.forall_mem_cons.mpr ⟨by simp, ih hparts⟩
  | dot _ ih => exact List.forall_mem_cons.mpr ⟨by simp, ih hparts⟩

theorem filter_eq (h : Padded pieces parts) (hparts : ∀ part ∈ parts, IsPart part) :
    pieces.filter (fun part => part != "" && part != ".") = parts := by
  induction h with
  | nil => rfl
  | part name _ ih =>
    rw [List.forall_mem_cons] at hparts
    rw [List.filter_cons_of_pos (by simp [hparts.1.ne_empty, hparts.1.ne_dot]), ih hparts.2]
  | slash _ ih => rw [List.filter_cons_of_neg (by simp), ih hparts]
  | dot _ ih => rw [List.filter_cons_of_neg (by simp), ih hparts]

end Padded

theorem absoluteText_ne_empty (pieces : List String) : absoluteText pieces ≠ "" := by
  simp [absoluteText]

theorem startsWith_absoluteText (pieces : List String) :
    (absoluteText pieces).startsWith "/" := by
  rw [String.startsWith_string_iff, absoluteText, String.toList_append]
  exact List.prefix_append _ _

theorem namedComponents_absoluteText (h : Padded pieces parts)
    (hparts : ∀ part ∈ parts, IsPart part) :
    namedComponents (absoluteText pieces).toList = parts := by
  rw [namedComponents, absoluteText, String.toList_append]
  change List.filter _ (components ('/' :: ("/".intercalate pieces).toList)) = _
  rw [components_slash, List.filter_cons_of_neg (by simp)]
  by_cases hne : pieces = []
  . subst hne
    cases h
    decide
  . rw [components_intercalate hne (h.no_slash hparts), h.filter_eq hparts]

theorem collapse_eq_self (absolute : Bool) (h : ".." ∉ parts) :
    collapse absolute parts = parts := by
  have hfoldl (done : List String) :
      parts.foldl (collapse.step absolute) done = parts.reverse ++ done := by
    induction parts generalizing done with
    | nil => rfl
    | cons part parts ih =>
      rw [List.mem_cons, not_or] at h
      have hstep : collapse.step absolute done part = part :: done := by
        unfold collapse.step
        rw [if_pos (by simpa using Ne.symm h.1)]
      rw [List.foldl_cons, hstep, ih h.2, List.reverse_cons, List.append_assoc,
        List.singleton_append]
  rw [collapse, hfoldl, List.append_nil, List.reverse_reverse]

theorem absoluteParts_absoluteText (cwd : String) (h : Padded pieces parts)
    (hparts : ∀ part ∈ parts, IsPart part) (hclimb : ".." ∉ parts) :
    absoluteParts cwd (absoluteText pieces) = parts := by
  rw [absoluteParts, if_pos (startsWith_absoluteText pieces),
    namedComponents_absoluteText h hparts, collapse_eq_self _ hclimb]

theorem dropCommon_append (base as bs : List String) :
    dropCommon (base ++ as) (base ++ bs) = dropCommon as bs := by
  induction base with
  | nil => rfl
  | cons name base ih => rw [List.cons_append, List.cons_append, dropCommon, if_pos (by simp), ih]

theorem exists_common (as bs : List String) :
    ∃ common up down, as = common ++ up ∧ bs = common ++ down ∧ dropCommon as bs = (up, down) ∧
      ∀ name ∈ up.head?, name ∉ down.head? := by
  fun_induction dropCommon as bs with
  | case1 a as b bs heq ih =>
    rcases ih with ⟨common, up, down, rfl, rfl, hdrop, hdiffer⟩
    exact ⟨a :: common, up, down, rfl, by rw [eq_of_beq heq, List.cons_append], hdrop, hdiffer⟩
  | case2 a as b bs hdiffer =>
    have hne : a ≠ b := by simpa using hdiffer
    refine ⟨[], a :: as, b :: bs, rfl, rfl, rfl, ?_⟩
    simpa using hne.symm
  | case3 as bs hend =>
    refine ⟨[], as, bs, rfl, rfl, rfl, ?_⟩
    cases as with
    | nil => simp
    | cons a as =>
      cases bs with
      | nil => simp
      | cons b bs => exact absurd rfl (hend a as b bs rfl)

theorem relative?_absoluteText {base file root files roots : List String} (cwd : String)
    (hfile : Padded files (base ++ file)) (hroot : Padded roots (base ++ root))
    (hparts : ∀ part ∈ base ++ (file ++ root), IsPart part ∧ part ≠ "..") :
    relative? cwd (absoluteText files) (absoluteText roots) =
      some (toString (Path.mk "" (relativeParts file root))) := by
  have hsub {more : List String} (hmore : more ⊆ file ++ root) :
      (∀ part ∈ base ++ more, IsPart part) ∧ ".." ∉ base ++ more := by
    have hmem : base ++ more ⊆ base ++ (file ++ root) := by
      intro name hname
      rw [List.mem_append] at hname ⊢
      exact hname.imp_right fun hin => hmore hin
    exact ⟨fun part hpart => (hparts part (hmem hpart)).1,
      fun hclimb => (hparts _ (hmem hclimb)).2 rfl⟩
  rcases hsub (List.subset_append_left file root) with ⟨hfiles, hfileClimb⟩
  rcases hsub (List.subset_append_right file root) with ⟨hroots, hrootClimb⟩
  rw [relative?, if_neg (by simpa using absoluteText_ne_empty files),
    absoluteParts_absoluteText cwd hfile hfiles hfileClimb,
    absoluteParts_absoluteText cwd hroot hroots hrootClimb, relativeParts, dropCommon_append,
    relativeParts]

end Relative

/-! Paths that are alike. -/

section Alike

/-- Slashes and dots are related to themselves alone. -/
structure KeepsParts (R : Char → Char → Prop) : Prop where
  refl : ∀ c, R c c
  slash : ∀ {c d}, R c d → (c = '/' ↔ d = '/')
  dot : ∀ {c d}, R c d → (c = '.' ↔ d = '.')

def Alike (R : Char → Char → Prop) (s t : String) : Prop :=
  List.Forall₂ R s.toList t.toList

variable {R : Char → Char → Prop} {s t : String} {cs ds current current' : List Char}
  {parts parts' : List String}

theorem alike_refl (hR : KeepsParts R) (s : String) : Alike R s s :=
  List.forall₂_same.mpr fun c _ => hR.refl c

theorem Alike.append {u v : String} (h : Alike R s t) (h' : Alike R u v) :
    Alike R (s ++ u) (t ++ v) := by
  rw [Alike, String.toList_append, String.toList_append]
  exact List.rel_append h h'

theorem Alike.eq_empty_iff (h : Alike R s t) : s = "" ↔ t = "" := by
  rw [← String.toList_eq_nil_iff, ← String.toList_eq_nil_iff, ← List.length_eq_zero_iff,
    ← List.length_eq_zero_iff, h.length_eq]

theorem eq_replicate_dot_iff (hR : KeepsParts R) (h : List.Forall₂ R cs ds) (n : Nat) :
    cs = List.replicate n '.' ↔ ds = List.replicate n '.' := by
  induction h generalizing n with
  | nil => rfl
  | cons hcd _ ih =>
    cases n with
    | zero => simp
    | succ n => rw [List.replicate_succ, List.cons.injEq, List.cons.injEq, hR.dot hcd, ih n]

theorem Alike.eq_dot_iff (hR : KeepsParts R) (h : Alike R s t) : s = "." ↔ t = "." := by
  rw [← String.toList_inj, ← String.toList_inj]
  exact eq_replicate_dot_iff hR h 1

theorem Alike.eq_dots_iff (hR : KeepsParts R) (h : Alike R s t) : s = ".." ↔ t = ".." := by
  rw [← String.toList_inj, ← String.toList_inj]
  exact eq_replicate_dot_iff hR h 2

theorem Alike.startsWith_slash (hR : KeepsParts R) (h : Alike R s t) :
    s.startsWith "/" = t.startsWith "/" := by
  have hstarts (u : String) : u.startsWith "/" ↔ ['/'] <+: u.toList :=
    String.startsWith_string_iff
  rw [Bool.eq_iff_iff, hstarts, hstarts]
  unfold Alike at h
  generalize s.toList = cs at h
  generalize t.toList = ds at h
  cases h with
  | nil => rfl
  | cons hcd _ => simp [List.cons_prefix_cons, eq_comm, hR.slash hcd]

theorem forall₂_go (hR : KeepsParts R) (hcurrent : List.Forall₂ R current current')
    (h : List.Forall₂ R cs ds) :
    List.Forall₂ (Alike R) (components.go current cs) (components.go current' ds) := by
  have hpart : Alike R (String.ofList current.reverse) (String.ofList current'.reverse) := by
    rw [Alike, String.toList_ofList, String.toList_ofList]
    exact List.rel_reverse hcurrent
  induction h generalizing current current' with
  | nil => exact .cons hpart .nil
  | @cons c d cs ds hcd _ ih =>
    rw [components.go, components.go]
    by_cases hc : c = '/'
    . rw [if_pos (by simpa using hc), if_pos (by simpa using (hR.slash hcd).mp hc)]
      exact .cons hpart (ih .nil .nil)
    . rw [if_neg (by simpa using hc), if_neg (by simpa using fun hd => hc ((hR.slash hcd).mpr hd))]
      refine ih (.cons hcd hcurrent) ?_
      rw [Alike, String.toList_ofList, String.toList_ofList]
      exact List.rel_reverse (.cons hcd hcurrent)

theorem Alike.namedComponents (hR : KeepsParts R) (h : Alike R s t) :
    List.Forall₂ (Alike R) (namedComponents s.toList) (namedComponents t.toList) := by
  refine List.rel_filter ?_ (forall₂_go hR .nil h)
  intro part part' hpart
  simp [hpart.eq_empty_iff, hpart.eq_dot_iff hR]

theorem Alike.joinText (hR : KeepsParts R) (h : Alike R s t) (cwd : String) :
    Alike R (joinText cwd s) (joinText cwd t) := by
  unfold Path.joinText
  rw [h.startsWith_slash hR]
  split
  . exact h
  . split
    . exact (alike_refl hR cwd).append h
    . exact (alike_refl hR (cwd ++ "/")).append h

theorem forall₂_step (hR : KeepsParts R) (absolute : Bool) {part part' : String}
    (h : List.Forall₂ (Alike R) parts parts') (hpart : Alike R part part') :
    List.Forall₂ (Alike R) (collapse.step absolute parts part)
      (collapse.step absolute parts' part') := by
  have hdots {s t : String} (h : Alike R s t) : (s == "..") = (t == "..") := by
    rw [Bool.eq_iff_iff, beq_iff_eq, beq_iff_eq, h.eq_dots_iff hR]
  unfold collapse.step
  rw [bne, bne, hdots hpart]
  cases part' == ".." with
  | false => exact .cons hpart h
  | true =>
    cases h with
    | nil =>
      cases absolute with
      | false => exact .cons hpart .nil
      | true => exact .nil
    | @cons last last' rest rest' hlast hrest =>
      dsimp only
      rw [hdots hlast]
      cases last' == ".." with
      | false => exact hrest
      | true => exact .cons hpart (.cons hlast hrest)

theorem forall₂_collapse (hR : KeepsParts R) (absolute : Bool)
    (h : List.Forall₂ (Alike R) parts parts') :
    List.Forall₂ (Alike R) (collapse absolute parts) (collapse absolute parts') := by
  refine List.rel_reverse (List.rel_foldl ?_ .nil h)
  intro done done' hdone part part' hpart
  exact forall₂_step hR absolute hdone hpart

theorem Alike.absoluteParts (hR : KeepsParts R) (h : Alike R s t) (cwd : String) :
    List.Forall₂ (Alike R) (absoluteParts cwd s) (absoluteParts cwd t) := by
  have hfull : Alike R (if s.startsWith "/" then s else Path.joinText cwd s)
      (if t.startsWith "/" then t else Path.joinText cwd t) := by
    rw [h.startsWith_slash hR]
    split
    . exact h
    . exact h.joinText hR cwd
  unfold Path.absoluteParts
  dsimp only
  rw [hfull.startsWith_slash hR]
  exact forall₂_collapse hR _ (hfull.namedComponents hR)

theorem alike_intercalate (hR : KeepsParts R) (h : List.Forall₂ (Alike R) parts parts') :
    Alike R ("/".intercalate parts) ("/".intercalate parts') := by
  induction h with
  | nil => exact alike_refl hR _
  | @cons part part' parts parts' hpart hrest ih =>
    cases hrest with
    | nil => simpa using hpart
    | cons =>
      rw [String.intercalate_cons_cons, String.intercalate_cons_cons]
      exact (hpart.append (alike_refl hR "/")).append ih

end Alike

end Path

end QueryLinker
