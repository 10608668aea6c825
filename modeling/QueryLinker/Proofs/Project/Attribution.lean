import QueryLinker.Proofs.Link.Ending
import QueryLinker.Proofs.Link.Reported
import QueryLinker.Proofs.Project.SourceFile

/-!
This module contains that every problem with a place is put where its node stands: in the file that
the node was parsed from, at the node's position in the text, moved by where the text starts.
-/

namespace QueryLinker

open Graphql DefinitionTable Validation

def CompileError.namedFile (e : CompileError) : String :=
  match e.context.lookup "location_path" with
  | some (.str file) => file.string?.getD e.file
  | _ => e.file

def Problem.node? : Problem → Option Loc
  | .unparsable _ _ => none
  | .structural _ error => error.nodes.head?.bind id
  | .duplicateFragment fragment _ => fragment.node.name.loc?
  | .laterOperation operation _ =>
    match operation.node.name? with
    | some name => name.loc?
    | none => operation.node.loc?
  | .unknownFragment _ spread _ _ => spread.loc?
  | .fragmentCycle _ spread _ _ => spread.loc?
  | .invalid _ error _ => error.nodes.head?.bind id

/-- The place of a problem is where its node was parsed from, in the file that is named. -/
def Problem.Pinned (tree : FileTree) (cwd : String) (p : Problem) : Prop :=
  ∀ place, p.place? = some place → ∃ site : Site, ∃ loc, p.node? = some loc ∧
    site.Traces tree cwd loc ∧ site.file = p.report.namedFile ∧
    place.start = site.template.translate (.ofPosition loc.position)

def Belong (d : Document) (errors : List Graphql.Error) : Prop :=
  ∀ e ∈ errors, ∀ loc? ∈ e.nodes, loc? ∈ d.locs

variable {tree : FileTree} {cwd : String} {o : Operation} {fs : List Fragment} {e : Graphql.Error}

theorem locs_assemble {loc? : Option Loc} :
    loc? ∈ (o.assemble fs).locs ↔ loc? ∈ o.node.locs ∨ ∃ f ∈ fs, loc? ∈ f.node.locs := by
  unfold Operation.assemble Document.locs
  rw [List.flatMap_append, List.flatMap_map, List.flatMap_singleton, List.mem_append,
    List.mem_flatMap, or_comm]
  rfl

theorem errorSite?_traces (ho : o.site.Covers tree cwd o.node.locs)
    (hfs : ∀ f ∈ fs, f.site.Covers tree cwd f.node.locs) {loc : Loc}
    (hloc : some loc ∈ (o.assemble fs).locs) (he : e.nodes.head? = some (some loc)) :
    ∃ site, o.errorSite? fs e = some site ∧ site.Traces tree cwd loc := by
  have hsites : ∀ x ∈ o.sites fs, ∃ locs, x.1 ∈ locs ∧ x.2.Covers tree cwd locs := by
    unfold Operation.sites
    rw [List.forall_mem_cons, List.forall_mem_map]
    exact ⟨⟨_, List.mem_cons_self, ho⟩, fun f hf => ⟨_, List.mem_cons_self, hfs f hf⟩⟩
  have hown : ∃ x ∈ o.sites fs, ∃ locs, x.1 ∈ locs ∧ some loc ∈ locs ∧
      x.2.Covers tree cwd locs := by
    rcases locs_assemble.mp hloc with hloc | ⟨f, hf, hloc⟩
    . exact ⟨_, List.mem_cons_self, _, List.mem_cons_self, hloc, ho⟩
    . exact ⟨_, List.mem_cons_of_mem _ (List.mem_map_of_mem hf), _, List.mem_cons_self, hloc,
        hfs f hf⟩
  rcases hown with ⟨own, hmem, locs, hownloc, hnode, hcovers⟩
  have htraces := hcovers.traces hnode
  have hmatch {x : Option Loc × Site} (hx : x ∈ o.sites fs)
      (horigin : x.1.any fun l => l.source.origin == loc.source.origin) :
      x.2.Traces tree cwd loc := by
    rcases hsites x hx with ⟨locs', hxloc, hcovers'⟩
    rcases hcovers'.exists_traces hxloc with ⟨first, hfirst, htraces'⟩
    rw [hfirst] at horigin
    rw [htraces'.site_eq htraces (by simpa using horigin)]
    exact htraces
  unfold Operation.errorSite?
  have hlocs : ¬ e.locs.isEmpty := by
    rw [List.isEmpty_iff]
    intro hnil
    have : loc ∈ e.locs := List.mem_filterMap.mpr ⟨_, List.mem_of_mem_head? he, rfl⟩
    rw [hnil] at this
    cases this
  rw [if_neg hlocs, he]
  dsimp only [Option.bind_some, id_eq]
  cases hfind : (o.sites fs).find? fun x =>
      x.1.any fun l => l.source.origin == loc.source.origin with
  | some x =>
    have horigin := List.find?_some hfind
    exact ⟨x.2, rfl, hmatch (List.mem_of_find?_eq_some hfind) horigin⟩
  | none =>
    exfalso
    rw [List.find?_eq_none] at hfind
    rcases hcovers.exists_traces hownloc with ⟨first, hfirst, _⟩
    apply hfind own hmem
    rw [hfirst, Option.any_some, beq_iff_eq]
    exact hcovers.origin_eq (hfirst ▸ hownloc) hnode

namespace Problem

variable {site : Site} {locs : List (Option Loc)}

theorem namedFile_of_none {p : Problem} (h : p.context.lookup "location_path" = none) :
    p.report.namedFile = p.file := by
  unfold CompileError.namedFile report
  dsimp only
  rw [h]

theorem namedFile_otherFile {p : Problem} {details : List (String × Json)} {other : String}
    (hcontext : p.context = details ++ otherFile p.file other)
    (hdetails : details.lookup "location_path" = none) : p.report.namedFile = other := by
  unfold CompileError.namedFile report
  dsimp only
  rw [hcontext, List.lookup_append, hdetails, Option.none_or]
  unfold otherFile
  by_cases hsame : other = p.file
  . simp [hsame]
  . simp [hsame, LooseText.string?_ofString]

theorem errorLocation?_of_nil {e : Graphql.Error} (h : e.nodes = []) (site : Site) :
    errorLocation? site e = none := by
  unfold errorLocation? Graphql.Error.positions Graphql.Error.locs
  rw [h]
  rfl

theorem errorLocation?_of_head {e : Graphql.Error} {loc : Loc}
    (h : e.nodes.head? = some (some loc)) (site : Site) :
    errorLocation? site e = some (site.template.translate (.ofPosition loc.position)) := by
  rcases List.head?_eq_some_iff.mp h with ⟨rest, hnodes⟩
  unfold errorLocation? Graphql.Error.positions Graphql.Error.locs
  rw [hnodes]
  rfl

theorem pinned_of_locate {p : Problem} (hcovers : site.Covers tree cwd locs)
    (hnode : p.node? ∈ locs) (hplace : p.place? = (site.locate p.node?).map .point)
    (hfile : p.report.namedFile = site.file) : p.Pinned tree cwd := by
  intro place h
  rcases hcovers.exists_traces hnode with ⟨loc, heq, htraces⟩
  refine ⟨site, loc, heq, htraces, hfile.symm, ?_⟩
  rw [hplace, heq] at h
  cases h
  rfl

theorem pinned_duplicateFragment {f : Fragment} (hf : f.site.Covers tree cwd f.node.locs)
    (other : Fragment) : (Problem.duplicateFragment f other).Pinned tree cwd :=
  pinned_of_locate hf (by simp [node?, FragmentDefinition.locs, Name.locs]) rfl
    (namedFile_of_none rfl)

theorem pinned_laterOperation (ho : o.site.Covers tree cwd o.node.locs) (first : Operation) :
    (Problem.laterOperation o first).Pinned tree cwd := by
  refine pinned_of_locate ho ?_ rfl (namedFile_of_none rfl)
  unfold node?
  dsimp only
  split
  next name hname => simp [OperationDefinition.locs, hname, Name.locs]
  next => exact List.mem_cons_self

theorem pinned_unknownFragment {spread : FragmentSpread} (hcovers : site.Covers tree cwd locs)
    (hspread : spread.loc? ∈ locs) (o : Operation) (closest? : Option String) :
    (Problem.unknownFragment o spread site closest?).Pinned tree cwd :=
  pinned_of_locate hcovers hspread rfl (namedFile_otherFile rfl rfl)

theorem pinned_fragmentCycle {spread : FragmentSpread} (hcovers : site.Covers tree cwd locs)
    (hspread : spread.loc? ∈ locs) (o : Operation) (names : List String) :
    (Problem.fragmentCycle o spread site names).Pinned tree cwd :=
  pinned_of_locate hcovers hspread rfl (namedFile_otherFile rfl rfl)

theorem pinned_structural {d : SourceDocument} (hd : d.Placed tree cwd)
    (hnodes : ∀ loc? ∈ e.nodes, loc? ∈ d.document.locs) :
    (d.structuralProblem e).Pinned tree cwd := by
  intro place hplace
  change (errorLocation? ⟨d.path, d.templateOf (e.nodes.head?.bind id)⟩ e).map _ = _ at hplace
  cases hhead : e.nodes.head? with
  | none =>
    rw [errorLocation?_of_nil (List.head?_eq_none_iff.mp hhead)] at hplace
    cases hplace
  | some loc? =>
    rcases List.mem_flatMap.mp (hnodes loc? (List.mem_of_mem_head? hhead)) with
      ⟨definition, hmem, hloc⟩
    rcases List.mem_iff_getElem?.mp hmem with ⟨index, hdefinition⟩
    have hcovers := hd.covers index definition hdefinition
    rcases hcovers.exists_traces hloc with ⟨loc, rfl, htraces⟩
    rw [hhead, errorLocation?_of_head hhead] at hplace
    cases hplace
    refine ⟨_, loc, ?_, htraces, ?_, ?_⟩
    . change e.nodes.head?.bind id = _
      rw [hhead]
      rfl
    . exact (namedFile_of_none (p := d.structuralProblem e) rfl).symm
    . rw [← hd.templateOf hdefinition hloc]
      rfl

theorem pinned_invalid (ho : o.site.Covers tree cwd o.node.locs)
    (hfs : ∀ f ∈ fs, f.site.Covers tree cwd f.node.locs)
    (hnodes : ∀ loc? ∈ e.nodes, loc? ∈ (o.assemble fs).locs) :
    (Problem.invalid o e (o.errorSite? fs e)).Pinned tree cwd := by
  intro place hplace
  change ((o.errorSite? fs e).bind fun site => errorLocation? site e).map _ = _ at hplace
  cases hhead : e.nodes.head? with
  | none =>
    have hnone : (fun site => errorLocation? site e) = fun _ => none := by
      funext site
      exact errorLocation?_of_nil (List.head?_eq_none_iff.mp hhead) site
    rw [hnone] at hplace
    simp at hplace
  | some loc? =>
    have hmem := hnodes loc? (List.mem_of_mem_head? hhead)
    obtain ⟨loc, rfl⟩ : ∃ loc, loc? = some loc := by
      rcases locs_assemble.mp hmem with hloc | ⟨f, hf, hloc⟩
      . exact (ho.exists_traces hloc).imp fun _ h => h.1
      . exact ((hfs f hf).exists_traces hloc).imp fun _ h => h.1
    rcases errorSite?_traces ho hfs hmem hhead with ⟨site, hsite, htraces⟩
    rw [hsite] at hplace ⊢
    rw [Option.bind_some, errorLocation?_of_head hhead] at hplace
    cases hplace
    refine ⟨site, loc, ?_, htraces, ?_, rfl⟩
    . change e.nodes.head?.bind id = _
      rw [hhead]
      rfl
    . have hcontext : (Problem.invalid o e (some site)).context =
          [("sourceMessage", .str e.message), ("operationName", .str o.name)] ++
            otherFile o.site.file site.file := by
        unfold context
        dsimp only
        rw [if_neg (by simpa using htraces.file_ne_empty)]
      exact (namedFile_otherFile hcontext rfl).symm

end Problem

/-- The nodes of an error are nodes of the document that breaks the rule. -/
structure NodesBelong (s : Schema) (docs : List SourceDocument) (settings : PassSettings) :
    Prop where
  structural : ∀ d ∈ docs, ∀ errors, validateStructure s d.document = .ok errors →
    Belong d.document errors
  complete : ∀ o ∈ (ofDocuments s docs).operations,
    let r := (ofDocuments s docs).resolution settings.suggestionLimit o
    r.ok → ∀ errors, validateFull s (r.document (ofDocuments s docs)) settings.nesting =
      .ok errors → Belong (r.document (ofDocuments s docs)) errors

section

variable {s : Schema} {docs : List SourceDocument} {settings : PassSettings} {p : Problem}

theorem covers_of_mem_fragments (hplaced : ∀ d ∈ docs, d.Placed tree cwd) {f : Fragment}
    (hf : f ∈ docs.flatMap (·.fragments)) : f.site.Covers tree cwd f.node.locs := by
  rcases List.mem_flatMap.mp hf with ⟨d, hd, hf⟩
  exact (hplaced d hd).covers_fragment hf

theorem covers_of_mem_operations (hplaced : ∀ d ∈ docs, d.Placed tree cwd)
    (ho : o ∈ docs.flatMap (·.operations)) : o.site.Covers tree cwd o.node.locs := by
  rcases List.mem_flatMap.mp ho with ⟨d, hd, ho⟩
  exact (hplaced d hd).covers_operation ho

theorem covers_of_get? (hplaced : ∀ d ∈ docs, d.Placed tree cwd) {n : String} {f : Fragment}
    (hf : (ofDocuments s docs).get? n = some f) : f.site.Covers tree cwd f.node.locs := by
  rcases List.mem_flatMap.mp ((ofDocuments_represents s docs).mem hf).1 with ⟨d, hd, hmem⟩
  exact (hplaced d (List.mem_of_mem_filter hd)).covers_fragment hmem

theorem SpreadAt.exists_covers (hplaced : ∀ d ∈ docs, d.Placed tree cwd)
    (ho : o.site.Covers tree cwd o.node.locs) {spread : FragmentSpread} {site : Site}
    (h : SpreadAt (ofDocuments s docs) o spread site) :
    ∃ locs, site.Covers tree cwd locs ∧ spread.loc? ∈ locs := by
  cases h with
  | operation h =>
    rw [Operation.spreads, SelectionSet.spreads_eq_allSpreads] at h
    refine ⟨_, ho, List.mem_cons_of_mem _ (List.mem_append_right _ ?_)⟩
    exact SelectionSet.loc?_mem_locs _ h
  | fragment hget h =>
    rw [Fragment.spreads, SelectionSet.spreads_eq_allSpreads] at h
    refine ⟨_, covers_of_get? hplaced hget, List.mem_cons_of_mem _ (List.mem_append_right _ ?_)⟩
    exact SelectionSet.loc?_mem_locs _ h

theorem Documented.pinned {d : SourceDocument} (hd : d.Placed tree cwd)
    (hbelong : ∀ errors, validateStructure s d.document = .ok errors → Belong d.document errors)
    (h : Documented s d p) : p.Pinned tree cwd := by
  cases h with
  | structural hvalid he => exact Problem.pinned_structural hd (hbelong _ hvalid _ he)
  | duplicate other hf => exact Problem.pinned_duplicateFragment (hd.covers_fragment hf) other

theorem Arises.pinned (hplaced : ∀ d ∈ docs, d.Placed tree cwd)
    (ho : o.site.Covers tree cwd o.node.locs) (hbelong : NodesBelong s docs settings)
    (hmem : o ∈ (ofDocuments s docs).operations)
    (h : Arises s (ofDocuments s docs) settings o p) : p.Pinned tree cwd := by
  cases h with
  | later first => exact Problem.pinned_laterOperation ho first
  | unknown closest? h =>
    rcases h.exists_covers hplaced ho with ⟨locs, hcovers, hspread⟩
    exact Problem.pinned_unknownFragment hcovers hspread o closest?
  | cycle names h =>
    rcases h.exists_covers hplaced ho with ⟨locs, hcovers, hspread⟩
    exact Problem.pinned_fragmentCycle hcovers hspread o names
  | invalid hok hvalid he =>
    have hnodes := hbelong.complete o hmem hok _ hvalid _ he
    unfold Resolution.invalid
    unfold Resolution.document at hnodes
    rw [resolution_operation] at hnodes ⊢
    refine Problem.pinned_invalid ho (fun f hf => ?_) hnodes
    rcases List.mem_filterMap.mp hf with ⟨f?, hf?, rfl⟩
    rcases List.mem_map.mp hf? with ⟨n, _, hget⟩
    exact covers_of_get? hplaced hget

end

theorem Keyed.mem_put {κ α : Type} [BEq κ] {key : κ} {a : α} {entries : List (κ × α)} {x : κ × α}
    (h : x ∈ Keyed.put key a entries) : x.2 = a ∨ x ∈ entries := by
  induction entries with
  | nil => exact .inl (congrArg Prod.snd (List.mem_singleton.mp h))
  | cons entry entries ih =>
    rw [Keyed.put] at h
    split at h
    . rcases List.mem_cons.mp h with rfl | h
      . exact .inl rfl
      . exact .inr (List.mem_cons_of_mem _ h)
    . rcases List.mem_cons.mp h with rfl | h
      . exact .inr List.mem_cons_self
      . exact (ih h).imp_right (List.mem_cons_of_mem _)

theorem SourceDocument.mem_of_mem_arrange {docs : List SourceDocument} {d : SourceDocument}
    (h : d ∈ arrange docs) : d ∈ docs := by
  have hput (items found : List (String × SourceDocument)) {x : String × SourceDocument}
      (hx : x ∈ items.foldl (fun found (key, a) => Keyed.put key a found) found) :
      x.2 ∈ items.map (·.2) ∨ x ∈ found := by
    induction items generalizing found with
    | nil => exact .inr hx
    | cons item items ih =>
      rcases ih _ hx with hx | hx
      . exact .inl (List.mem_cons_of_mem _ hx)
      . rcases Keyed.mem_put hx with hx | hx
        . exact .inl (by rw [hx]; exact List.mem_cons_self)
        . exact .inr hx
  rcases List.mem_map.mp h with ⟨x, hx, rfl⟩
  rcases hput _ [] hx with hx | hx
  . rw [List.map_map] at hx
    simpa using hx
  . cases hx

/--
The problems of a pass over the documents of files point at nodes that were parsed from the files
which are named, at their positions there. For a node of a document it makes no difference whether
its text is looked up by the index of its definition, in its document, or among the definitions that
an operation is put together of.
-/
theorem problems_pinned {paths : List String} {read : List SourceDocument}
    {unparsable : List Problem}
    (hread : SourceFile.readAll tree cwd paths = .ok (read, unparsable)) {s : Schema}
    {settings : PassSettings} (hbelong : NodesBelong s (SourceDocument.arrange read) settings) :
    let docs := SourceDocument.arrange read
    (∀ p, Reports s docs settings p → p.Pinned tree cwd) ∧
    ∀ d ∈ docs, ∀ index definition loc, d.document.definitions[index]? = some definition →
      some loc ∈ definition.locs →
      Site.Traces tree cwd ⟨d.path, d.templateAt index⟩ loc ∧
      d.templateOf (some loc) = d.templateAt index ∧
      ∀ o ∈ docs.flatMap (·.operations), ∀ fs : List Fragment,
        (∀ f ∈ fs, f ∈ docs.flatMap (·.fragments)) → ∀ e : Graphql.Error,
        e.nodes.head? = some (some loc) → some loc ∈ (o.assemble fs).locs →
        o.errorSite? fs e = some ⟨d.path, d.templateAt index⟩ := by
  intro docs
  have hplaced : ∀ d ∈ docs, d.Placed tree cwd :=
    fun d hd => SourceFile.placed_of_readAll hread d (SourceDocument.mem_of_mem_arrange hd)
  constructor
  . intro p hp
    rcases hp.documented_or_arises with ⟨d, hd, hdocumented⟩ | ⟨o, ho, harises⟩
    . exact hdocumented.pinned (hplaced d hd) (hbelong.structural d hd)
    . have hcovers : o.site.Covers tree cwd o.node.locs := by
        rw [ofDocuments_operations] at ho
        rcases List.mem_flatMap.mp ho with ⟨d, hd, hmem⟩
        exact (hplaced d (List.mem_of_mem_filter hd)).covers_operation hmem
      exact harises.pinned hplaced hcovers hbelong ho
  . intro d hd index definition loc hdefinition hloc
    have htraces := ((hplaced d hd).covers index definition hdefinition).traces hloc
    refine ⟨htraces, (hplaced d hd).templateOf hdefinition hloc, ?_⟩
    intro o ho fs hfs e he hmem
    rcases errorSite?_traces (covers_of_mem_operations hplaced ho)
      (fun f hf => covers_of_mem_fragments hplaced (hfs f hf)) hmem he with ⟨site, hsite, hsame⟩
    rw [hsite, hsame.site_eq htraces rfl]

namespace Sample

open TaggedTemplate

def script : String := "\n graphql\x60query { ...F }\x60"

def scripts : FileTree :=
  .directory [("page.js", .file script.toUTF8)]

theorem text_script : SourceFile.text scripts "/" "page.js" = .ok script := by
  have hopens : FileTree.Opens "/" "page.js" ["page.js"] :=
    ⟨by decide, by decide, by decide, by decide, by decide⟩
  exact SourceFile.text_of_read (by decide) (hopens.read rfl rfl) (by decide) (by decide)

theorem templates_script :
    SourceFile.templates "page.js" script = [⟨"query { ...F }", ⟨2, 9⟩, false, false⟩] := by
  have hkind : SourceFile.isGraphql "page.js" = false := by cbv
  rw [SourceFile.templates, hkind]
  change scan [] ('\n' :: ' ' :: "graphql\x60query { ...F }\x60".toList) = _
  rw [scan_of_none rfl, scan_of_none rfl, scan_of_occurrence
    (o := ⟨"graphql\x60".toList, "query { ...F }".toList, []⟩) (by decide) (by decide +kernel)
    (by rfl) (by decide), scan]
  decide +kernel

def spreadAt (stretch : Nat → Nat → Option Loc) : FragmentSpread :=
  ⟨⟨"F", stretch 11 12⟩, [], stretch 8 12⟩

/-- This is `query { ...F }`. -/
def queryAt (stretch : Nat → Nat → Option Loc) : OperationDefinition :=
  ⟨.query, none, [], [], .braces [.spread (spreadAt stretch)] (stretch 6 14), stretch 0 14⟩

def stretch (start stop : Nat) : Option Loc :=
  some ⟨⟨⟨"page.js", 0⟩, "query { ...F }", []⟩, start, stop⟩

theorem parse_script : Graphql.parse { origin := ⟨"page.js", 0⟩, body := "query { ...F }" } =
    .ok ⟨[.operation (queryAt stretch)]⟩ := by
  cbv

def scriptDocument : SourceDocument where
  path := "page.js"
  document := ⟨[.operation (queryAt stretch)]⟩
  template := ⟨2, 9⟩
  templates := [⟨2, 9⟩]
  hash := (Json.ofStrings ["query { ...F }"]).fingerprint

theorem read_script :
    SourceFile.readAll scripts "/" ["page.js"] = .ok ([scriptDocument], []) := by
  have hdocument : SourceFile.document? "page.js" script = .ok (some scriptDocument) := by
    rw [SourceFile.document?, templates_script]
    dsimp only
    rw [SourceFile.parseTemplates, parse_script]
    rfl
  rw [SourceFile.readAll, text_script]
  dsimp only [bind, Except.bind]
  rewrite [hdocument]
  rfl

theorem accepted_script : validateStructure schema scriptDocument.document = .ok [] := by
  have hvalid (stretch : Nat → Nat → Option Loc) :
      validateStructure schema ⟨[.operation (queryAt stretch)]⟩ = .ok [] := by
    cbv
  exact hvalid stretch

theorem table_script : ofDocuments schema [scriptDocument] =
    (empty.addDocument scriptDocument).1 := by
  unfold ofDocuments
  rw [List.filter_cons_of_pos (SourceDocument.accepted_iff.mpr accepted_script)]
  rfl

theorem spreads_queryAt (stretch : Nat → Nat → Option Loc) :
    (queryAt stretch).selectionSet.spreads = [spreadAt stretch] := by
  rw [SelectionSet.spreads_eq_allSpreads]
  rfl

theorem operation_script : ∃ o, scriptDocument.operations = [o] ∧
    o.site = ⟨"page.js", ⟨2, 9⟩⟩ ∧ o.spreads = [spreadAt stretch] :=
  ⟨_, rfl, rfl, spreads_queryAt stretch⟩

theorem get?_script : (ofDocuments schema [scriptDocument]).get? "F" = none := by
  rw [table_script]
  rfl

theorem resolution_script {t : DefinitionTable} (hget : t.get? "F" = none) {o : Operation}
    (hspreads : o.spreads = [spreadAt stretch]) (limit : Int) :
    ∃ closest?, (t.resolution limit o).problems =
      [.unknownFragment o (spreadAt stretch) o.site closest?] := by
  have hexplores := (.unknown List.not_mem_nil List.not_mem_nil hget .nil :
    Explores ((Resolver.ofTable t limit).context t o) [] [] o.site [spreadAt stretch] _)
  rw [← hspreads] at hexplores
  rw [resolution, (Resolver.resolve_of_explores hexplores (.nil _)).1]
  exact ⟨_, rfl⟩

theorem compile_script : ∃ c o closest?,
    compile schema [scriptDocument] settings = .ok c ∧
      .unknownFragment o (spreadAt stretch) ⟨"page.js", ⟨2, 9⟩⟩ closest? ∈ c.problems := by
  rcases operation_script with ⟨o, hops, hsite, hspreads⟩
  rcases resolution_script get?_script hspreads settings.suggestionLimit with
    ⟨closest?, hproblems⟩
  have hnodup : ([scriptDocument].map (·.path)).Nodup := List.nodup_singleton _
  have hends : ∃ c, compile schema [scriptDocument] settings = .ok c := by
    rw [exists_compile_iff_decided hnodup (by simp [scriptDocument]) settings_sound]
    refine ⟨.inr schema_flaws, fun d hd => ?_⟩
    cases List.mem_singleton.mp hd
    refine ⟨⟨_, accepted_script⟩, fun _ o' ho' hok => ?_⟩
    rw [hops] at ho'
    cases ho'
    rw [Resolution.ok, hproblems] at hok
    cases hok
  rcases hends with ⟨c, hc⟩
  refine ⟨c, o, closest?, hc, ?_⟩
  rcases compile_document hnodup hc with ⟨collected, _, houtcome⟩
  rcases houtcome scriptDocument (List.mem_singleton_self _) with ⟨x, hx, _, hunder⟩
  rw [if_pos (SourceDocument.accepted_iff.mpr accepted_script)] at hx
  rcases SourceDocument.outcome_cases hops hx with ⟨query?, ps, hattempt, _, hps⟩
  have hmem : .unknownFragment o (spreadAt stretch) o.site closest? ∈ Event.problems x.2 := by
    rw [hps]
    cases hattempt with
    | unresolved => simp [hproblems]
    | compiled hok => simp [Resolution.ok, hproblems] at hok
    | invalid hok => simp [Resolution.ok, hproblems] at hok
  have hunder' : _ ∈ Problem.under scriptDocument.path c.problems :=
    hunder ▸ List.mem_append_right _ hmem
  rw [hsite] at hunder'
  exact List.mem_of_mem_filter hunder'

theorem script_nodes : NodesBelong schema [scriptDocument] settings where
  structural d hd errors hvalid := by
    cases List.mem_singleton.mp hd
    rw [accepted_script] at hvalid
    cases hvalid
    simp [Belong]
  complete o ho := by
    rcases operation_script with ⟨o', hops, hsite, hspreads⟩
    have heq : o = o' := by
      rw [ofDocuments_operations, List.filter_cons_of_pos
        (SourceDocument.accepted_iff.mpr accepted_script)] at ho
      simpa [hops] using ho
    subst heq
    rcases resolution_script get?_script hspreads settings.suggestionLimit with
    ⟨closest?, hproblems⟩
    intro r hok
    rw [Resolution.ok, hproblems] at hok
    cases hok

end Sample

theorem problems_pinned_script : ∃ read unparsable p, ∃ place : Place,
    SourceFile.readAll Sample.scripts "/" ["page.js"] = .ok (read, unparsable) ∧
      Reports Sample.schema (SourceDocument.arrange read) Sample.settings p ∧
      p.kind = .unknownFragment ∧ p.place? = some place ∧ place.start = ⟨2, 18⟩ ∧
      p.Pinned Sample.scripts "/" := by
  rcases Sample.compile_script with ⟨c, o, closest?, hc, hp⟩
  have hreports := Reports.of_compile hc hp
  have hpinned := (problems_pinned Sample.read_script Sample.script_nodes).1 _ hreports
  exact ⟨_, _, _, _, Sample.read_script, hreports, rfl, rfl, by decide, hpinned⟩

end QueryLinker
