import QueryLinker.Project.SourceFile
import QueryLinker.Proofs.Files.Written
import QueryLinker.Proofs.Graphql.Parser
import QueryLinker.Proofs.Link.Table
import QueryLinker.Proofs.Text.Utf8

/-!
This module contains where the nodes of the documents in files come from. Every node was parsed from
one of the GraphQL texts in its file, and the document knows for each definition where that text
starts.
-/

namespace QueryLinker

open Graphql

def TaggedTemplate.source (t : TaggedTemplate) (file : String) (part : Nat) : Source :=
  { origin := ⟨file, part⟩, body := t.body }

namespace TaggedTemplate

theorem scan_of_occurrence {before cs : List Char} {o : Occurrence} (hcs : cs ≠ [])
    (hword : startsWord before) (ho : occurrence? cs = some o) (hbody : ¬ o.body.all Text.isBlank) :
    scan before cs = ofOccurrence before o ::
      scan ('\x60' :: (o.body.reverse ++ (o.opening.reverse ++ before))) o.rest := by
  cases cs with
  | nil => exact absurd rfl hcs
  | cons c rest =>
    rw [scan]
    split
    next h =>
      rw [if_pos hword, ho] at h
      cases h
    next o' h =>
      rw [if_pos hword, ho] at h
      cases h
      rw [if_neg hbody]

theorem scan_of_none {before rest : List Char} {c : Char} (h : occurrence? (c :: rest) = none) :
    scan before (c :: rest) = scan (c :: before) rest := by
  rw [scan]
  split
  next => rfl
  next o h' =>
    rw [h] at h'
    simp at h'
end TaggedTemplate

def FileTree.HoldsText (tree : FileTree) (cwd file : String) (part : Nat) (t : TaggedTemplate) :
    Prop :=
  ∃ text, SourceFile.text tree cwd file = .ok text ∧
    (SourceFile.templates file text)[part]? = some t

theorem FileTree.HoldsText.unique {tree : FileTree} {cwd file : String} {part : Nat}
    {t t' : TaggedTemplate} (h : tree.HoldsText cwd file part t)
    (h' : tree.HoldsText cwd file part t') : t = t' := by
  rcases h with ⟨text, htext, ht⟩
  rcases h' with ⟨text', htext', ht'⟩
  rw [htext, Except.ok.injEq] at htext'
  rw [← htext', ht, Option.some.injEq] at ht'
  exact ht'

theorem FileTree.exists_entries_of_follow_dot {tree : FileTree} {way way' names : List String}
    (h : tree.follow way (names ++ ["."]) = .ok way') :
    ∃ entries, tree.at? way'.reverse = some (.directory entries) := by
  induction names generalizing way with
  | nil =>
    rw [List.nil_append, follow] at h
    split at h
    next entries hdirectory =>
      cases h
      exact ⟨entries, hdirectory⟩
    . cases h
    . cases h
  | cons name names ih =>
    rw [List.cons_append, follow] at h
    repeat' split at h
    all_goals first
      | cases h
      | exact ih h

theorem SourceFile.text_of_read {tree : FileTree} {cwd path text : String}
    (hpath : toString (Path.ofString path) = path) (hread : tree.read cwd path = .ok text.toUTF8)
    (hascii : text.toList.all Text.isAscii) (hreturn : '\r' ∉ text.toList) :
    SourceFile.text tree cwd path = .ok text := by
  rw [SourceFile.text, hpath, FileTree.readText, hread]
  dsimp only
  rw [textOfBytes_toUTF8 hascii hreturn]
  rfl

theorem SourceFile.text_empty (tree : FileTree) (cwd text : String) :
    SourceFile.text tree cwd "" ≠ .ok text := by
  intro h
  have hdot : toString (Path.ofString "") = "." := by decide
  have hflaw : FileTree.pathFlaw? "." = none :=
    FileTree.pathFlaw?_eq_none (by decide) (by decide) (by decide)
  have hend : ".".endsWith "/" = false := FileTree.endsWith_slash_eq_false (by decide)
  have hparts : FileTree.openedComponents cwd "." = (Path.ofString cwd).parts ++ ["."] := by
    have hrelative : (Path.ofString ".").isAbsolute = false := by decide
    have hnames : (Path.components ".".toList).filter (fun name => !name.isEmpty) = ["."] := by
      decide
    rw [FileTree.openedComponents_eq, hrelative, hnames, if_neg Bool.false_ne_true]
  unfold SourceFile.text FileTree.readText FileTree.read at h
  rw [hdot, hflaw, hparts, hend] at h
  simp only [Bool.false_eq_true, if_false, List.append_nil] at h
  cases hfollow : tree.follow [] ((Path.ofString cwd).parts ++ ["."]) with
  | error flaw =>
    rw [hfollow] at h
    cases h
  | ok way =>
    rcases FileTree.exists_entries_of_follow_dot hfollow with ⟨entries, hentries⟩
    rw [hfollow] at h
    dsimp only at h
    rw [hentries] at h
    cases h

theorem FileTree.HoldsText.file_ne_empty {tree : FileTree} {cwd file : String} {part : Nat}
    {t : TaggedTemplate} (h : tree.HoldsText cwd file part t) : file ≠ "" := by
  rintro rfl
  rcases h with ⟨text, htext, _⟩
  exact SourceFile.text_empty tree cwd text htext

def Site.Covers (tree : FileTree) (cwd : String) (site : Site) (locs : List (Option Loc)) : Prop :=
  ∃ part, ∃ t : TaggedTemplate, tree.HoldsText cwd site.file part t ∧ site.template = t.place ∧
    AllFrom (t.source site.file part) locs

def Site.Traces (tree : FileTree) (cwd : String) (site : Site) (loc : Loc) : Prop :=
  ∃ part, ∃ t : TaggedTemplate, tree.HoldsText cwd site.file part t ∧ site.template = t.place ∧
    loc.source = t.source site.file part

namespace Site

variable {tree : FileTree} {cwd : String} {site site' : Site} {locs : List (Option Loc)}
variable {loc loc' : Loc}

theorem Covers.exists_traces (h : site.Covers tree cwd locs) {loc? : Option Loc}
    (hloc : loc? ∈ locs) : ∃ loc, loc? = some loc ∧ site.Traces tree cwd loc := by
  rcases h with ⟨part, t, hholds, hplace, hall⟩
  rcases hall _ hloc with ⟨loc, rfl, hsource⟩
  exact ⟨loc, rfl, part, t, hholds, hplace, hsource⟩

theorem Covers.traces (h : site.Covers tree cwd locs) (hloc : some loc ∈ locs) :
    site.Traces tree cwd loc := by
  rcases h.exists_traces hloc with ⟨loc', heq, htraces⟩
  cases heq
  exact htraces

theorem Covers.origin_eq (h : site.Covers tree cwd locs) (hloc : some loc ∈ locs)
    (hloc' : some loc' ∈ locs) : loc.source.origin = loc'.source.origin := by
  rcases h with ⟨part, t, _, _, hall⟩
  rcases hall _ hloc with ⟨l, heq, hsource⟩
  rcases hall _ hloc' with ⟨l', heq', hsource'⟩
  cases heq
  cases heq'
  rw [hsource, hsource']

theorem Traces.file_ne_empty (h : site.Traces tree cwd loc) : site.file ≠ "" := by
  rcases h with ⟨_, _, hholds, _⟩
  exact hholds.file_ne_empty

theorem Traces.site_eq (h : site.Traces tree cwd loc) (h' : site'.Traces tree cwd loc')
    (horigin : loc.source.origin = loc'.source.origin) : site = site' := by
  rcases h with ⟨part, t, hholds, hplace, hsource⟩
  rcases h' with ⟨part', t', hholds', hplace', hsource'⟩
  rw [hsource, hsource'] at horigin
  rcases site with ⟨file, template⟩
  rcases site' with ⟨file', template'⟩
  cases horigin
  rw [hholds.unique hholds'] at hplace
  rw [Site.mk.injEq]
  exact ⟨rfl, hplace.trans hplace'.symm⟩

end Site

namespace SourceFile

theorem parseTemplates_ok {path : String} {part : Nat} {ts : List TaggedTemplate}
    {found : List (TemplateLocation × Definition)} (h : parseTemplates path part ts = .ok found) :
    ∀ x ∈ found, ∃ k, ∃ t : TaggedTemplate, ts[k]? = some t ∧ x.1 = t.place ∧
      AllFrom (t.source path (part + k)) x.2.locs := by
  induction ts generalizing part found with
  | nil =>
    cases h
    simp
  | cons t ts ih =>
    unfold parseTemplates at h
    split at h
    . cases h
    next d hparse =>
      rcases bind_eq_ok_iff.mp h with ⟨later, hlater, heq⟩
      cases heq
      have hall := allFrom_of_parse hparse
      rw [List.forall_mem_append, List.forall_mem_map]
      refine ⟨fun x hx => ⟨0, t, rfl, rfl, fun loc? hloc => ?_⟩, fun x hx => ?_⟩
      . exact hall _ (List.mem_flatMap.mpr ⟨x, hx, hloc⟩)
      . rcases ih hlater x hx with ⟨k, t', ht', hplace, hlocs⟩
        refine ⟨k + 1, t', ht', hplace, ?_⟩
        rw [← Nat.add_assoc, Nat.add_right_comm]
        exact hlocs

end SourceFile

structure SourceDocument.Placed (tree : FileTree) (cwd : String) (d : SourceDocument) : Prop where
  covers : ∀ index definition, d.document.definitions[index]? = some definition →
    Site.Covers tree cwd ⟨d.path, d.templateAt index⟩ definition.locs
  templates : d.templates.isEmpty → d.document.definitions = []

namespace SourceDocument.Placed

variable {tree : FileTree} {cwd : String} {d : SourceDocument}

theorem templateOf (h : d.Placed tree cwd) {index : Nat} {definition : Definition} {loc : Loc}
    (hdefinition : d.document.definitions[index]? = some definition)
    (hloc : some loc ∈ definition.locs) : d.templateOf (some loc) = d.templateAt index := by
  have htraces := (h.covers index definition hdefinition).traces hloc
  have hpresent : ¬ d.templates.isEmpty := by
    intro hempty
    rw [h.templates hempty] at hdefinition
    cases hdefinition
  unfold SourceDocument.templateOf
  dsimp only
  rw [if_neg hpresent]
  split
  next found hfound =>
    -- The first definition from the text may be another one, whose text is the same.
    rw [List.findIdx?_eq_some_iff_getElem] at hfound
    rcases hfound with ⟨hlength, horigin, _⟩
    have hcovers := h.covers found _ (List.getElem?_eq_getElem hlength)
    rcases hcovers.exists_traces (Definition.loc?_mem_locs _) with ⟨first, hfirst, htraces'⟩
    rw [hfirst] at horigin
    have hsame := htraces'.site_eq htraces (by simpa using horigin)
    exact congrArg Site.template hsame
  next hnone =>
    exfalso
    rw [List.findIdx?_eq_none_iff] at hnone
    have hcovers := h.covers index definition hdefinition
    rcases hcovers.exists_traces definition.loc?_mem_locs with ⟨own, hown, _⟩
    have horigin := hcovers.origin_eq (hown ▸ definition.loc?_mem_locs) hloc
    have hnot := hnone definition (List.mem_of_getElem? hdefinition)
    rw [hown] at hnot
    simp [horigin] at hnot

theorem covers_operation (h : d.Placed tree cwd) {o : Operation} (ho : o ∈ d.operations) :
    o.site.Covers tree cwd o.node.locs := by
  rcases exists_of_mem_operations ho with ⟨index, node, hnode, heq⟩
  cases heq
  exact h.covers index _ hnode

theorem covers_fragment (h : d.Placed tree cwd) {f : Fragment} (hf : f ∈ d.fragments) :
    f.site.Covers tree cwd f.node.locs := by
  rcases exists_of_mem_fragments hf with ⟨index, node, hnode, heq⟩
  cases heq
  exact h.covers index _ hnode

end SourceDocument.Placed

namespace SourceFile

variable {tree : FileTree} {cwd path text : String} {d : SourceDocument}

theorem placed_of_document? (htext : SourceFile.text tree cwd path = .ok text)
    (h : document? path text = .ok (some d)) : d.path = path ∧ d.Placed tree cwd := by
  unfold document? at h
  split at h
  . cases h
  next first others htemplates =>
    rcases bind_eq_ok_iff.mp h with ⟨found, hfound, heq⟩
    cases heq
    refine ⟨rfl, ⟨?_, ?_⟩⟩
    . intro index definition hdefinition
      dsimp only at hdefinition
      rw [List.getElem?_map, Option.map_eq_some_iff] at hdefinition
      rcases hdefinition with ⟨x, hx, rfl⟩
      rcases parseTemplates_ok hfound x (List.mem_of_getElem? hx) with ⟨k, t, ht, hplace, hlocs⟩
      rw [← htemplates] at ht
      refine ⟨k, t, ⟨text, htext, ht⟩, ?_, ?_⟩
      . dsimp only [SourceDocument.templateAt]
        rw [List.getD_eq_getElem?_getD, List.getElem?_map, hx]
        exact hplace
      . rw [Nat.zero_add] at hlocs
        exact hlocs
    . intro hempty
      simpa using hempty

theorem readAll_cons_ok {paths : List String} {read : List SourceDocument} {ps : List Problem}
    (h : readAll tree cwd (path :: paths) = .ok (read, ps)) :
    ∃ text, ∃ d? : Option SourceDocument, ∃ later laterProblems,
      SourceFile.text tree cwd path = .ok text ∧
      (∀ d ∈ d?, document? path text = .ok (some d)) ∧
      readAll tree cwd paths = .ok (later, laterProblems) ∧ read = d?.toList ++ later := by
  unfold readAll at h
  rcases bind_eq_ok_iff.mp h with ⟨text, htext, h⟩
  extract_lets rest at h
  have hrest (found : List SourceDocument × List Problem) (hfound : rest found = .ok (read, ps)) :
      ∃ later laterProblems, readAll tree cwd paths = .ok (later, laterProblems) ∧
        read = found.1 ++ later := by
    rcases bind_eq_ok_iff.mp hfound with ⟨⟨later, laterProblems⟩, hlater, heq⟩
    cases heq
    exact ⟨later, laterProblems, hlater, rfl⟩
  split at h
  next d? hdocument =>
    rcases hrest (d?.toList, []) h with ⟨later, laterProblems, hlater, heq⟩
    refine ⟨text, d?, later, laterProblems, htext, fun d hd => ?_, hlater, heq⟩
    rw [hdocument, Option.mem_def.mp hd]
  . split at h
    . cases h
    . rcases hrest ([], _) h with ⟨later, laterProblems, hlater, heq⟩
      exact ⟨text, none, later, laterProblems, htext, by simp, hlater, heq⟩
  . rcases hrest ([], _) h with ⟨later, laterProblems, hlater, heq⟩
    exact ⟨text, none, later, laterProblems, htext, by simp, hlater, heq⟩

theorem placed_of_readAll {paths : List String} {read : List SourceDocument} {ps : List Problem}
    (h : readAll tree cwd paths = .ok (read, ps)) : ∀ d ∈ read, d.Placed tree cwd := by
  induction paths generalizing read ps with
  | nil =>
    cases h
    simp
  | cons path paths ih =>
    rcases readAll_cons_ok h with ⟨text, d?, later, laterProblems, htext, hdocument, hlater, heq⟩
    rw [heq, List.forall_mem_append]
    refine ⟨fun d hd => ?_, ih hlater⟩
    exact (placed_of_document? htext (hdocument d (Option.mem_toList.mp hd))).2

end SourceFile

end QueryLinker
