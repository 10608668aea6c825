import QueryLinker.Proofs.Graphql.Spread
import QueryLinker.Proofs.Link.Account
import QueryLinker.Proofs.Link.Minimal

/-!
This module contains that a pass does not depend on the order of its documents. Another order may
keep another one of the fragments that are printed alike, so what is compiled stays the same as far
as the rules see no difference between such fragments.
-/

namespace QueryLinker

open Graphql DefinitionTable Validation

theorem mem_map_fst_iff_lookup {α : Type} (entries : List (String × α)) (n : String) :
    n ∈ entries.map (·.1) ↔ (entries.lookup n).isSome := by
  induction entries with
  | nil => simp
  | cons entry entries ih =>
    rcases entry with ⟨m, a⟩
    rw [List.map_cons, List.mem_cons, ih, List.lookup_cons]
    by_cases hn : n = m
    . simp [hn]
    . have : (n == m) = false := by simpa using hn
      simp [hn, this]

def Validation.verdict : Except Failure (List Graphql.Error) → Option Bool
  | .ok errors => some errors.isEmpty
  | .error _ => none

/-- Fragments that are printed alike are alike up to positions. -/
def PrintsApart (docs : List SourceDocument) : Prop :=
  ∀ f ∈ docs.flatMap (·.document.fragments), ∀ f' ∈ docs.flatMap (·.document.fragments),
    Definition.text (.fragment f) = Definition.text (.fragment f') → f.unlocated = f'.unlocated

/--
What the rules say of an operation behind fragments does not depend on the positions of the
fragments.
-/
def JudgesAlike (s : Schema) (docs : List SourceDocument) (nesting : Nat) : Prop :=
  ∀ o ∈ docs.flatMap (·.document.operations), ∀ fs fs' : List FragmentDefinition,
    (∀ f ∈ fs ++ fs', f ∈ docs.flatMap (·.document.fragments)) → (fs.map (·.name.value)).Nodup →
    fs.map (·.unlocated) = fs'.map (·.unlocated) →
    verdict (validateFull s (.ofOperation fs o) nesting) =
      verdict (validateFull s (.ofOperation fs' o) nesting)

namespace Fragment

def essence (f : Fragment) : String × FragmentDefinition :=
  (f.text, f.node.unlocated)

theorem spreads_map_name (f : Fragment) :
    f.spreads.map (·.name.value) = f.node.selectionSet.spreadNames := by
  simp [spreads, SelectionSet.spreadNames]

end Fragment

namespace DefinitionTable

structure SameTexts (t t' : DefinitionTable) : Prop where
  names : ∀ n, n ∈ t.fragmentNames ↔ n ∈ t'.fragmentNames
  texts : ∀ n, (t.get? n).map (·.text) = (t'.get? n).map (·.text)
  conflicts : ∀ n, n ∈ t.conflicts.map (·.1) ↔ n ∈ t'.conflicts.map (·.1)

theorem mem_fragmentNames_iff {t : DefinitionTable} {n : String} :
    n ∈ t.fragmentNames ↔ (t.get? n).isSome :=
  mem_map_fst_iff_lookup _ _

variable {t t' : DefinitionTable} {fs fs' : List Fragment}

theorem spreadGraph_eq_none_iff {n : String} : t.spreadGraph n = none ↔ t.get? n = none :=
  Option.map_eq_none_iff

theorem Ambiguous.subset {n : String} (h : Ambiguous fs n) (hsub : fs ⊆ fs') : Ambiguous fs' n := by
  rcases h with ⟨f, hf, f', hf', h⟩
  exact ⟨f, hsub hf, f', hsub hf', h⟩

namespace Represents

theorem ambiguous_iff_of_perm {n : String} (hperm : fs.Perm fs') :
    Ambiguous fs n ↔ Ambiguous fs' n :=
  ⟨fun h => h.subset hperm.subset, fun h => h.subset hperm.symm.subset⟩

theorem exists_get?_of_perm (h : t.Represents fs) (h' : t'.Represents fs') (hperm : fs.Perm fs')
    {n : String} {f : Fragment} (hf : t.get? n = some f) :
    ∃ f', t'.get? n = some f' ∧ f'.text = f.text := by
  rcases h.mem hf with ⟨hmem, rfl⟩
  have hunambiguous : ¬ Ambiguous fs' f.name := by
    rw [← ambiguous_iff_of_perm hperm]
    exact ((h.get? _ _).mp hf).2
  rcases h'.exists_get? (hperm.subset hmem) hunambiguous with ⟨f', hf'⟩
  exact ⟨f', hf', (h'.text_eq hf' (hperm.subset hmem) rfl).symm⟩

theorem get?_text_of_perm (h : t.Represents fs) (h' : t'.Represents fs') (hperm : fs.Perm fs')
    (n : String) : (t.get? n).map (·.text) = (t'.get? n).map (·.text) := by
  cases hf : t.get? n with
  | some f =>
    rcases h.exists_get?_of_perm h' hperm hf with ⟨f', hf', htext⟩
    rw [hf', Option.map_some, Option.map_some, htext]
  | none =>
    cases hf' : t'.get? n with
    | none => rfl
    | some f' =>
      rcases h'.exists_get?_of_perm h hperm.symm hf' with ⟨f, hsome, _⟩
      rw [hf] at hsome
      cases hsome

theorem sameTexts_of_perm (h : t.Represents fs) (h' : t'.Represents fs') (hperm : fs.Perm fs') :
    t.SameTexts t' where
  names := by
    intro n
    rw [mem_fragmentNames_iff, mem_fragmentNames_iff, ← Option.isSome_map (f := Fragment.text),
      h.get?_text_of_perm h' hperm, Option.isSome_map]
  texts := h.get?_text_of_perm h' hperm
  conflicts := by
    intro n
    rw [mem_map_fst_iff_lookup, mem_map_fst_iff_lookup, h.conflicts, h'.conflicts]
    exact ambiguous_iff_of_perm hperm

end Represents

def Interchangeable (t t' : DefinitionTable) : Prop :=
  ∀ n, (t.get? n).map (·.essence) = (t'.get? n).map (·.essence)

namespace Interchangeable

theorem spreadGraph_eq (h : t.Interchangeable t') : t.spreadGraph = t'.spreadGraph := by
  have hgraph (t : DefinitionTable) (n : String) : t.spreadGraph n =
      ((t.get? n).map (·.essence)).map fun e => e.2.selectionSet.spreadNames := by
    rw [Option.map_map]
    unfold spreadGraph
    congr 1
    funext f
    exact f.node.selectionSet.spreadNames_unlocated.symm
  funext n
  rw [hgraph, hgraph, h]

theorem isEmpty_fragmentNames (h : t.Interchangeable t') :
    t.fragmentNames.isEmpty = t'.fragmentNames.isEmpty := by
  have hmem (n : String) : n ∈ t.fragmentNames ↔ n ∈ t'.fragmentNames := by
    rw [mem_fragmentNames_iff, mem_fragmentNames_iff, ← Option.isSome_map (f := Fragment.essence),
      h, Option.isSome_map]
  rw [Bool.eq_iff_iff, List.isEmpty_iff, List.isEmpty_iff, List.eq_nil_iff_forall_not_mem,
    List.eq_nil_iff_forall_not_mem]
  exact forall_congr' fun n => not_congr (hmem n)

theorem map_fragments (h : t.Interchangeable t') (names : List String) :
    ((names.map t.get?).filterMap id).map (·.essence) =
      ((names.map t'.get?).filterMap id).map (·.essence) := by
  have hmap (t : DefinitionTable) : ((names.map t.get?).filterMap id).map (·.essence) =
      names.filterMap fun n => (t.get? n).map (·.essence) := by
    rw [List.filterMap_map, List.map_filterMap]
    rfl
  rw [hmap, hmap]
  exact List.filterMap_congr fun n _ => h n

end Interchangeable

end DefinitionTable

theorem Explores.alike {c : WalkContext} {path failed : List String} {site : Site}
    {spreads : List FragmentSpread} {r : Exploration} (h : Explores c path failed site spreads r)
    (c' : WalkContext) (hgraph : c.table.spreadGraph = c'.table.spreadGraph) (site' : Site)
    {spreads' : List FragmentSpread}
    (hnames : spreads.map (·.name.value) = spreads'.map (·.name.value)) :
    ∃ r', Explores c' path failed site' spreads' r' ∧ r.names? = r'.names? ∧
      r.failed = r'.failed ∧ r.problems.map (·.kind) = r'.problems.map (·.kind) := by
  induction h generalizing site' spreads' with
  | nil =>
    cases List.map_eq_nil_iff.mp hnames.symm
    exact ⟨_, .nil, rfl, rfl, rfl⟩
  | @cycle path failed site s rest r hpath _ ih =>
    rw [List.map_cons] at hnames
    rcases List.map_eq_cons_iff.mp hnames.symm with ⟨s', rest', rfl, hname, hrest⟩
    rcases ih site' hrest.symm with ⟨r', hr', _, hfailed, hproblems⟩
    rw [← hname] at hpath
    refine ⟨_, .cycle hpath hr', rfl, hfailed, ?_⟩
    simp only [Exploration.refuse, List.map_append, hproblems]
    rfl
  | @again path failed site s rest r hpath hmem _ ih =>
    rw [List.map_cons] at hnames
    rcases List.map_eq_cons_iff.mp hnames.symm with ⟨s', rest', rfl, hname, hrest⟩
    rcases ih site' hrest.symm with ⟨r', hr', _, hfailed, hproblems⟩
    rw [← hname] at hpath hmem
    exact ⟨_, .again hpath hmem hr', rfl, hfailed, hproblems⟩
  | @unknown path failed site s rest r hpath hmem hget _ ih =>
    rw [List.map_cons] at hnames
    rcases List.map_eq_cons_iff.mp hnames.symm with ⟨s', rest', rfl, hname, hrest⟩
    rcases ih site' hrest.symm with ⟨r', hr', _, hfailed, hproblems⟩
    rw [← spreadGraph_eq_none_iff, hgraph, spreadGraph_eq_none_iff] at hget
    rw [← hname] at hpath hmem hget
    refine ⟨_, .unknown hpath hmem hget hr', rfl, hfailed, ?_⟩
    simp only [Exploration.refuse, List.map_append, hproblems]
    rfl
  | @enter path failed site s rest f inner r hpath hmem hget _ _ ihinner ihrest =>
    rw [List.map_cons] at hnames
    rcases List.map_eq_cons_iff.mp hnames.symm with ⟨s', rest', rfl, hname, hrest⟩
    have hspreads := spreadGraph_of_get? hget
    rw [hgraph] at hspreads
    rcases Option.map_eq_some_iff.mp hspreads with ⟨f', hget', hf'⟩
    have hsame := hf'.symm.trans f'.spreads_map_name.symm
    rcases ihinner f'.site hsame with ⟨inner', hinner', hnames', hfailed', hproblems'⟩
    rcases ihrest site' hrest.symm with ⟨r', hr', hnames'', hfailed'', hproblems''⟩
    have hwith : inner.failedWith s.name.value = inner'.failedWith s'.name.value := by
      simp only [Exploration.failedWith, hnames', hfailed', hname]
    rw [hwith] at hr'
    rw [← hname] at hpath hmem hget' hinner'
    refine ⟨_, .enter hpath hmem hget' hinner' hr', ?_, hfailed'', ?_⟩
    . simp only [Exploration.join, hnames', hnames'', hname]
    . simp only [Exploration.join, List.map_append, hproblems', hproblems'']

namespace DefinitionTable

variable {s : Schema} {t t' : DefinitionTable} {settings : PassSettings} {o : Operation}

theorem Interchangeable.resolution (h : t.Interchangeable t') (limit : Int) (o : Operation) :
    (t.resolution limit o).names = (t'.resolution limit o).names ∧
      (t.resolution limit o).ok = (t'.resolution limit o).ok ∧
      (t.resolution limit o).problems.map (·.kind) =
        (t'.resolution limit o).problems.map (·.kind) := by
  rcases Resolver.exists_explores (.ofTable t limit) t o with ⟨x, hx⟩
  rcases hx.alike ((Resolver.ofTable t' limit).context t' o) h.spreadGraph_eq o.site rfl with
    ⟨x', hx', hnames, _, hproblems⟩
  have hempty : x.problems.isEmpty = x'.problems.isEmpty := by
    rw [← List.isEmpty_map, hproblems, List.isEmpty_map]
  unfold DefinitionTable.resolution
  rw [(Resolver.resolve_of_explores hx (.nil _)).1, (Resolver.resolve_of_explores hx' (.nil _)).1]
  unfold Exploration.resolution Resolution.ok
  rw [hnames]
  cases x'.names? with
  | some names => exact ⟨rfl, rfl, rfl⟩
  | none => exact ⟨rfl, hempty, hproblems⟩

theorem checkLimit_of_kinds {known known' : List String} {events events' : List Event}
    (hknown : known.isEmpty = known'.isEmpty)
    (hevents : (Event.problems events).map (·.kind) = (Event.problems events').map (·.kind)) :
    settings.checkLimit known events = settings.checkLimit known' events' := by
  have hany (events : List Event) : (Event.problems events).any (·.kind == .unknownFragment) =
      ((Event.problems events).map (·.kind)).any (· == .unknownFragment) := by
    rw [List.any_map]
    rfl
  unfold PassSettings.checkLimit
  rw [hany events, hany events', hevents, hknown]

theorem query_congr {document document' : Document} (h : document.text = document'.text) :
    o.query document settings = o.query document' settings := by
  unfold Operation.query
  rw [h]

end DefinitionTable

def queryOf (x : Except PassFailure (Option CompiledQuery × List Event)) :
    Option (Option CompiledQuery) :=
  x.toOption.map (·.1)

section

variable {s : Schema} {t t' : DefinitionTable} {settings : PassSettings} {o : Operation}
variable {docs docs' : List SourceDocument} {d : SourceDocument}

theorem queryOf_compile {r : Resolution} :
    queryOf (r.compile s t settings) =
      (verdict (validateFull s (r.document t) settings.nesting)).bind fun valid =>
        if valid then ((r.operation.query (r.document t) settings).toOption).map some
        else some none := by
  unfold queryOf
  cases hvalid : validateFull s (r.document t) settings.nesting with
  | error failure =>
    rw [Resolution.compile_of_error hvalid]
    rfl
  | ok errors =>
    by_cases hne : errors = []
    . subst hne
      rw [Resolution.compile_of_valid hvalid]
      cases r.operation.query (r.document t) settings <;> rfl
    . rw [Resolution.compile_of_invalid hne hvalid]
      simp [Except.toOption, verdict, hne]

theorem assemble_text_congr {fs fs' : List Fragment}
    (htext : ∀ f ∈ fs ++ fs', f.text = Definition.text (.fragment f.node))
    (h : fs.map (·.essence) = fs'.map (·.essence)) :
    (o.assemble fs).text = (o.assemble fs').text := by
  rw [List.forall_mem_append] at htext
  have hmap (fs : List Fragment) (hfs : ∀ f ∈ fs, f.text = Definition.text (.fragment f.node)) :
      (o.assemble fs).definitions.map (·.text) =
        (fs.map (·.essence)).map (·.1) ++ [Definition.text (.operation o.node)] := by
    unfold Operation.assemble
    rw [List.map_append, List.map_map, List.map_map]
    congr 1
    exact List.map_congr_left fun f hf => (hfs f hf).symm
  unfold Document.text
  rw [hmap fs htext.1, hmap fs' htext.2, h]

def DefinitionTable.From (t : DefinitionTable) (docs : List SourceDocument) : Prop :=
  ∀ n f, t.get? n = some f → f.node ∈ docs.flatMap (·.document.fragments) ∧
    f.node.name.value = n ∧ f.text = Definition.text (.fragment f.node)

theorem DefinitionTable.from_ofDocuments (s : Schema) (docs : List SourceDocument) :
    (ofDocuments s docs).From docs := by
  intro n f hf
  rcases (ofDocuments_represents s docs).mem hf with ⟨hmem, hname⟩
  rcases List.mem_flatMap.mp hmem with ⟨d, hd, hfd⟩
  refine ⟨?_, ?_, d.fragment_text hfd⟩
  . rw [List.mem_flatMap]
    refine ⟨d, (List.mem_filter.mp hd).1, ?_⟩
    rw [← d.fragments_map_node]
    exact List.mem_map_of_mem hfd
  . rw [← d.fragment_name hfd, hname]

namespace DefinitionTable.From

theorem of_subset (h : t.From docs) (hsub : docs ⊆ docs') : t.From docs' := by
  intro n f hf
  rcases h n f hf with ⟨hmem, hname⟩
  rcases List.mem_flatMap.mp hmem with ⟨d, hd, hfd⟩
  exact ⟨List.mem_flatMap.mpr ⟨d, hsub hd, hfd⟩, hname⟩

theorem exists_get? (h : t.From docs) {names : List String} {f : Fragment}
    (hf : f ∈ (names.map t.get?).filterMap id) :
    f.node ∈ docs.flatMap (·.document.fragments) ∧ f.text = Definition.text (.fragment f.node) := by
  simp only [List.filterMap_map, List.mem_filterMap] at hf
  rcases hf with ⟨n, _, hn⟩
  rcases h n f hn with ⟨hmem, _, htext⟩
  exact ⟨hmem, htext⟩

theorem names_sublist (h : t.From docs) (names : List String) :
    (((names.map t.get?).filterMap id).map (·.node.name.value)).Sublist names := by
  induction names with
  | nil => exact .slnil
  | cons n names ih =>
    rw [List.map_cons, List.filterMap_cons]
    cases hf : t.get? n with
    | none => exact .cons _ ih
    | some f =>
      simp only [id_eq, List.map_cons, (h n f hf).2.1]
      exact .cons_cons _ ih

end DefinitionTable.From

theorem resolution_names_nodup (t : DefinitionTable) (limit : Int) (o : Operation) :
    (t.resolution limit o).names.Nodup := by
  by_cases hok : (t.resolution limit o).ok
  . rcases Resolver.exists_visits_of_ok (.nil _) hok with ⟨met, _, hnames⟩
    change (t.resolution limit o).names = met.eraseDups at hnames
    rw [hnames]
    exact nodup_eraseDups met
  . rw [resolution_names_of_not_ok hok]
    exact .nil

theorem queryOf_outcome_cons {later : List Operation} (hops : d.operations = o :: later) :
    queryOf (d.outcome s t settings) =
      (queryOf (t.attempt s settings o)).map fun query? => if later = [] then query? else none := by
  unfold queryOf SourceDocument.outcome SourceDocument.attempt
  rw [hops]
  dsimp only
  cases t.attempt s settings o with
  | error failure => rfl
  | ok x => cases later <;> rfl

namespace DefinitionTable.Interchangeable

theorem queryOf_compile (h : t.Interchangeable t') (settings : PassSettings) (ht : t.From docs)
    (ht' : t'.From docs) (hjudge : JudgesAlike s docs settings.nesting)
    (ho : o.node ∈ docs.flatMap (·.document.operations)) :
    queryOf ((t.resolution settings.suggestionLimit o).compile s t settings) =
      queryOf ((t'.resolution settings.suggestionLimit o).compile s t' settings) := by
  have hnames := (h.resolution settings.suggestionLimit o).1
  have hnodup := resolution_names_nodup t settings.suggestionLimit o
  rw [QueryLinker.queryOf_compile, QueryLinker.queryOf_compile]
  unfold Resolution.document Resolution.fragments
  rw [resolution_operation, resolution_operation, ← hnames]
  generalize (t.resolution settings.suggestionLimit o).names = names at hnodup
  let fs := (names.map t.get?).filterMap id
  let fs' := (names.map t'.get?).filterMap id
  have hessence : fs.map (·.essence) = fs'.map (·.essence) := h.map_fragments names
  have hfrom : ∀ f ∈ fs ++ fs', f.node ∈ docs.flatMap (·.document.fragments) ∧
      f.text = Definition.text (.fragment f.node) := by
    rw [List.forall_mem_append]
    exact ⟨fun f hf => ht.exists_get? hf, fun f hf => ht'.exists_get? hf⟩
  have htext := assemble_text_congr (o := o) (fun f hf => (hfrom f hf).2) hessence
  -- The rules see documents of syntax nodes, without what the table knows of them besides.
  have hassemble (fs : List Fragment) :
      o.assemble fs = .ofOperation (fs.map (·.node)) o.node := by
    unfold Operation.assemble Document.ofOperation
    rw [List.map_map]
    rfl
  have hverdict : verdict (validateFull s (o.assemble fs) settings.nesting) =
      verdict (validateFull s (o.assemble fs') settings.nesting) := by
    rw [hassemble, hassemble]
    apply hjudge _ ho
    . rw [← List.map_append, List.forall_mem_map]
      exact fun f hf => (hfrom f hf).1
    . rw [List.map_map]
      exact hnodup.sublist (ht.names_sublist names)
    . have hnode (fs : List Fragment) :
          (fs.map (·.node)).map (·.unlocated) = (fs.map (·.essence)).map (·.2) := by
        rw [List.map_map, List.map_map]
        rfl
      rw [hnode, hnode, hessence]
  rw [hverdict, query_congr htext]

theorem queryOf_attempt (h : t.Interchangeable t') (ht : t.From docs) (ht' : t'.From docs)
    (hjudge : JudgesAlike s docs settings.nesting)
    (ho : o.node ∈ docs.flatMap (·.document.operations)) :
    queryOf (t.attempt s settings o) = queryOf (t'.attempt s settings o) := by
  rcases h.resolution settings.suggestionLimit o with ⟨_, hok, hkinds⟩
  have hcompile := h.queryOf_compile settings ht ht' hjudge ho
  have hlimit : settings.checkLimit t.fragmentNames
        ((t.resolution settings.suggestionLimit o).problems.map .problem ++ [.unresolved o
          (t.resolution settings.suggestionLimit o).problems.length]) =
      settings.checkLimit t'.fragmentNames
        ((t'.resolution settings.suggestionLimit o).problems.map .problem ++ [.unresolved o
          (t'.resolution settings.suggestionLimit o).problems.length]) := by
    apply checkLimit_of_kinds h.isEmpty_fragmentNames
    rw [Event.problems_summed_up _ rfl, Event.problems_summed_up _ rfl]
    exact hkinds
  unfold attempt
  dsimp only
  rw [← hok]
  split
  . exact hcompile
  . rw [hlimit]
    cases settings.checkLimit t'.fragmentNames _ <;> rfl

theorem queryOf_outcome (h : t.Interchangeable t') (ht : t.From docs) (ht' : t'.From docs)
    (hjudge : JudgesAlike s docs settings.nesting) (hd : d ∈ docs) :
    queryOf (d.outcome s t settings) = queryOf (d.outcome s t' settings) := by
  cases hops : d.operations with
  | nil => rw [SourceDocument.outcome_of_nil hops, SourceDocument.outcome_of_nil hops]
  | cons o later =>
    have ho : o.node ∈ docs.flatMap (·.document.operations) := by
      rw [List.mem_flatMap]
      refine ⟨d, hd, ?_⟩
      rw [← d.operations_map_node, hops]
      exact List.mem_map_of_mem (by simp)
    rw [queryOf_outcome_cons hops, queryOf_outcome_cons hops, h.queryOf_attempt ht ht' hjudge ho]

end DefinitionTable.Interchangeable

theorem isSome_queryOf {x : Except PassFailure (Option CompiledQuery × List Event)} :
    (queryOf x).isSome ↔ ∃ a, x = .ok a := by
  cases x <;> simp [queryOf, Except.toOption]

theorem exists_outcome_iff :
    (∃ x, d.outcome s t settings = .ok x) ↔ ∃ x, d.attempt s t settings = .ok x := by
  unfold SourceDocument.outcome
  cases d.attempt s t settings <;> simp [Except.map]

theorem flatMap_queryOf {found : List (Option CompiledQuery × List Event)}
    (h : List.Forall₂ (fun d x => d.outcome s t settings = .ok x) docs found) :
    found.flatMap (·.1.toList) =
      docs.flatMap fun d => (queryOf (d.outcome s t settings)).join.toList := by
  induction h with
  | nil => rfl
  | cons hx _ ih =>
    rw [List.flatMap_cons, List.flatMap_cons, ih, queryOf, hx]
    rfl

theorem compile_queries (hnodup : (docs.map (·.path)).Nodup) {c : Compilation}
    (hc : compile s docs settings = .ok c) :
    c.queries = (acceptedOf s docs).flatMap fun d =>
      (queryOf (d.outcome s (ofDocuments s docs) settings)).join.toList := by
  rcases compile_spec hnodup hc with ⟨_, found, _, hfound, hqueries, _⟩
  rw [hqueries, flatMap_queryOf hfound]

theorem interchangeable_ofDocuments (hperm : docs.Perm docs') (hprints : PrintsApart docs) :
    (ofDocuments s docs).SameTexts (ofDocuments s docs') ∧
      (ofDocuments s docs).Interchangeable (ofDocuments s docs') := by
  have hfragments := ((hperm.filter (·.accepted s)).flatMap_right (·.fragments))
  have hsame := (ofDocuments_represents s docs).sameTexts_of_perm (ofDocuments_represents s docs')
    hfragments
  refine ⟨hsame, fun n => ?_⟩
  have hfrom := from_ofDocuments s docs
  have hfrom' := (from_ofDocuments s docs').of_subset hperm.symm.subset
  have htext := hsame.texts n
  cases hf : (ofDocuments s docs).get? n with
  | none =>
    rw [hf, Option.map_none, eq_comm, Option.map_eq_none_iff] at htext
    rw [htext]
  | some f =>
    rw [hf, Option.map_some, eq_comm, Option.map_eq_some_iff] at htext
    rcases htext with ⟨f', hf', htext⟩
    rcases hfrom n f hf with ⟨hmem, _, hprint⟩
    rcases hfrom' n f' hf' with ⟨hmem', _, hprint'⟩
    have hnode := hprints _ hmem _ hmem' (by rw [← hprint, ← hprint', htext])
    rw [hf', Option.map_some, Option.map_some, Fragment.essence, Fragment.essence, htext, hnode]

theorem queryOf_outcome_of_perm (hperm : docs.Perm docs') (hprints : PrintsApart docs)
    (hjudge : JudgesAlike s docs settings.nesting) (hd : d ∈ docs) :
    queryOf (d.outcome s (ofDocuments s docs) settings) =
      queryOf (d.outcome s (ofDocuments s docs') settings) :=
  (interchangeable_ofDocuments hperm hprints).2.queryOf_outcome (from_ofDocuments s docs)
    ((from_ofDocuments s docs').of_subset hperm.symm.subset) hjudge hd

theorem ends_iff_of_perm (hperm : docs.Perm docs') (hprints : PrintsApart docs)
    (hjudge : JudgesAlike s docs settings.nesting) (hd : d ∈ docs) :
    d.Ends s (ofDocuments s docs) settings ↔ d.Ends s (ofDocuments s docs') settings := by
  unfold SourceDocument.Ends
  rw [← exists_outcome_iff, ← exists_outcome_iff, ← isSome_queryOf, ← isSome_queryOf,
    queryOf_outcome_of_perm hperm hprints hjudge hd]

theorem collect_of_perm (hperm : docs.Perm docs') {x : DefinitionTable × List Event}
    (hx : collect s docs = .ok x) :
    ∃ x', collect s docs' = .ok x' ∧ x.1.SameTexts x'.1 := by
  rcases collect_eq_ok_iff.mp hx with ⟨hschema, events, hevents, rfl⟩
  have hchecked := (exists_collectDocuments_iff empty).mp ⟨_, hevents⟩
  have hchecked' : ∀ d ∈ docs', d.Checked s := fun d hd => hchecked d (hperm.symm.subset hd)
  rcases (exists_collectDocuments_iff empty).mpr hchecked' with ⟨⟨t', events'⟩, hevents'⟩
  cases collectDocuments_table hevents'
  have hschema' : docs' = [] ∨ s.flaws = [] := by
    refine hschema.imp_left fun hnil => ?_
    rw [hnil] at hperm
    exact hperm.nil_eq.symm
  refine ⟨_, collect_eq_ok_iff.mpr ⟨hschema', _, hevents', rfl⟩, ?_⟩
  exact (ofDocuments_represents s docs).sameTexts_of_perm (ofDocuments_represents s docs')
    ((hperm.filter _).flatMap_right _)

theorem exists_compile_iff_of_perm (hnodup : (docs.map (·.path)).Nodup) (hperm : docs.Perm docs')
    (hprints : PrintsApart docs) (hjudge : JudgesAlike s docs settings.nesting) :
    (∃ c, compile s docs settings = .ok c) ↔ ∃ c', compile s docs' settings = .ok c' := by
  have hnil : docs = [] ↔ docs' = [] := by
    rw [← List.length_eq_zero_iff, hperm.length_eq, List.length_eq_zero_iff]
  rw [exists_compile_iff hnodup, exists_compile_iff ((hperm.map _).nodup_iff.mp hnodup), hnil]
  apply and_congr_right
  intro _
  constructor
  . intro hends d hd
    have hd' := hperm.symm.subset hd
    exact (ends_iff_of_perm hperm hprints hjudge hd').mp (hends d hd')
  . intro hends d hd
    exact (ends_iff_of_perm hperm hprints hjudge hd).mpr (hends d (hperm.subset hd))

theorem queries_perm (hnodup : (docs.map (·.path)).Nodup) (hperm : docs.Perm docs')
    (hprints : PrintsApart docs) (hjudge : JudgesAlike s docs settings.nesting) {c c' : Compilation}
    (hc : compile s docs settings = .ok c) (hc' : compile s docs' settings = .ok c') :
    c.queries.Perm c'.queries := by
  rw [compile_queries hnodup hc, compile_queries ((hperm.map _).nodup_iff.mp hnodup) hc']
  refine .trans (.of_eq ?_) ((hperm.filter _).flatMap_right _)
  apply List.flatMap_congr
  intro d hd
  rw [queryOf_outcome_of_perm hperm hprints hjudge (List.mem_filter.mp hd).1]

theorem query?_eq_some_iff (hnodup : (docs.map (·.path)).Nodup) {c : Compilation}
    (hc : compile s docs settings = .ok c) {path : String} {q : CompiledQuery} :
    c.query? path = some q ↔ q ∈ c.queries ∧ q.path = path := by
  unfold Compilation.query?
  constructor
  . intro hq
    exact ⟨List.mem_of_find?_eq_some hq, by simpa using List.find?_some hq⟩
  . rintro ⟨hq, hpath⟩
    have hsome : (c.queries.find? (·.path == path)).isSome := by
      rw [List.find?_isSome]
      exact ⟨q, hq, by simpa using hpath⟩
    rcases Option.isSome_iff_exists.mp hsome with ⟨q', hq'⟩
    have hpath' : q'.path = path := by simpa using List.find?_some hq'
    have hsame := List.inj_on_of_nodup_map (hnodup.sublist (paths_sublist hnodup hc))
      (List.mem_of_find?_eq_some hq') hq (hpath'.trans hpath.symm)
    rw [hq', hsame]

/--
In another order, the table has the same names, the same text for each and the same conflicts. The
pass ends or not as before, and each path keeps its query or is without one as before.
-/
theorem compile_order_independent (settings : PassSettings) (hnodup : (docs.map (·.path)).Nodup)
    (hperm : docs.Perm docs') (hprints : PrintsApart docs)
    (hjudge : JudgesAlike s docs settings.nesting) :
    (∀ x, collect s docs = .ok x → ∃ x', collect s docs' = .ok x' ∧ x.1.SameTexts x'.1) ∧
    ((∃ c, compile s docs settings = .ok c) ↔ ∃ c', compile s docs' settings = .ok c') ∧
    ∀ c c', compile s docs settings = .ok c → compile s docs' settings = .ok c' →
      c.queries.Perm c'.queries ∧ ∀ path, c.query? path = c'.query? path := by
  refine ⟨fun x => collect_of_perm hperm, exists_compile_iff_of_perm hnodup hperm hprints hjudge,
    fun c c' hc hc' => ?_⟩
  have hqueries := queries_perm hnodup hperm hprints hjudge hc hc'
  refine ⟨hqueries, fun path => Option.ext fun q => ?_⟩
  rw [query?_eq_some_iff hnodup hc,
    query?_eq_some_iff ((hperm.map _).nodup_iff.mp hnodup) hc', hqueries.mem_iff]

end

namespace Sample

def fragmentAt (loc? : Option Loc) : FragmentDefinition :=
  { fragment with loc? }

def copy (path : String) (start : Nat) : SourceDocument :=
  let source : Source := ⟨⟨path, 0⟩, "".pushn ' ' start ++ "fragment F on Query { a }", []⟩
  .ofDocument path ⟨[.fragment (fragmentAt (some ⟨source, start, start + 25⟩))]⟩

def copies : List SourceDocument :=
  [page "page", copy "parts" 0, copy "shared" 3]

theorem validate_fragmentAt (loc? : Option Loc) :
    validateFull schema (.ofOperation [fragmentAt loc?] query) = .ok [] := by
  cbv

theorem accepted_copy (path : String) (start : Nat) : (copy path start).accepted schema := by
  have hfragment (loc? : Option Loc) :
      validateStructure schema ⟨[.fragment (fragmentAt loc?)]⟩ = .ok [] := by
    cbv
  exact SourceDocument.accepted_iff.mpr (hfragment _)

theorem mem_copies_fragments {f : FragmentDefinition}
    (hf : f ∈ copies.flatMap (·.document.fragments)) : ∃ loc?, f = fragmentAt loc? := by
  simp only [copies, List.flatMap_cons, List.flatMap_nil, List.mem_append] at hf
  rcases hf with hf | hf | hf | hf
  . cases hf
  . exact ⟨_, List.mem_singleton.mp hf⟩
  . exact ⟨_, List.mem_singleton.mp hf⟩
  . cases hf

theorem copies_printsApart : PrintsApart copies := by
  intro f hf f' hf' _
  rcases mem_copies_fragments hf with ⟨loc?, rfl⟩
  rcases mem_copies_fragments hf' with ⟨loc?', rfl⟩
  rfl

theorem copies_judgesAlike : JudgesAlike schema copies settings.nesting := by
  intro o ho fs fs' hmem hnodup hsame
  have ho : o = query := List.mem_singleton.mp ho
  have hname : ∀ f ∈ fs ++ fs', ∃ loc?, f = fragmentAt loc? :=
    fun f hf => mem_copies_fragments (hmem f hf)
  have hlength : fs.length = fs'.length := by
    rw [← List.length_map, hsame, List.length_map]
  -- There is only one name, so there is at most one fragment.
  match fs, fs' with
  | [], [] => rfl
  | [f], [f'] =>
    rcases hname f (by simp) with ⟨loc?, rfl⟩
    rcases hname f' (by simp) with ⟨loc?', rfl⟩
    rw [ho]
    exact congrArg verdict ((validate_fragmentAt _).trans (validate_fragmentAt _).symm)
  | f :: g :: fs, _ =>
    rcases hname f (by simp) with ⟨loc?, rfl⟩
    rcases hname g (by simp) with ⟨loc?', rfl⟩
    simp [fragmentAt] at hnodup
  | [], f' :: fs' => cases hlength
  | [f], f' :: g' :: fs' => simp at hlength

theorem copies_nodup : (copies.map (·.path)).Nodup := by
  decide

theorem get?_copies :
    ∃ f loc?, (ofDocuments schema copies).get? "F" = some f ∧ f.node = fragmentAt loc? := by
  unfold ofDocuments copies
  rw [List.filter_cons_of_pos (accepted_page _), List.filter_cons_of_pos (accepted_copy _ _),
    List.filter_cons_of_pos (accepted_copy _ _)]
  exact ⟨_, _, rfl, rfl⟩

theorem kept_copies :
    ((ofDocuments schema copies).get? "F").map (·.site.file) = some "parts" ∧
      ((ofDocuments schema copies.reverse).get? "F").map (·.site.file) = some "shared" := by
  have hreverse : copies.reverse = [copy "shared" 3, copy "parts" 0, page "page"] := rfl
  unfold ofDocuments
  rw [hreverse]
  unfold copies
  rw [List.filter_cons_of_pos (accepted_page _), List.filter_cons_of_pos (accepted_copy _ _),
    List.filter_cons_of_pos (accepted_copy _ _), List.filter_cons_of_pos (accepted_copy _ _),
    List.filter_cons_of_pos (accepted_copy _ _), List.filter_cons_of_pos (accepted_page _)]
  exact ⟨rfl, rfl⟩

theorem copies_decided : ∀ d ∈ copies, d.Decided schema (ofDocuments schema copies) settings := by
  rcases get?_copies with ⟨f, loc?, hf, hnode⟩
  have hgraph : (ofDocuments schema copies).spreadGraph "F" = some [] := by
    rw [spreadGraph_of_get? hf, Fragment.spreads, hnode]
    cbv
  intro d hd
  simp only [copies, List.mem_cons, List.not_mem_nil, or_false] at hd
  rcases hd with rfl | rfl | rfl
  . refine ⟨⟨_, SourceDocument.accepted_iff.mp (accepted_page _)⟩, fun _ o ho => ?_⟩
    have hv : (ofDocuments schema copies).spreadGraph.Visits o.spreadNames ["F"] := by
      cases ho
      exact .cons hgraph .nil .nil
    have hfragments : ["F"].eraseDups.map (ofDocuments schema copies).get? = [some f] := by
      rw [← hf]
      rfl
    have hdocument : o.assemble [f] = .ofOperation [fragmentAt loc?] query := by
      cases ho
      rw [← hnode]
      rfl
    rw [decided_iff_of_visits _ hv, hfragments]
    exact ⟨_, hdocument ▸ validate_fragmentAt loc?⟩
  . refine ⟨⟨_, SourceDocument.accepted_iff.mp (accepted_copy _ _)⟩, fun _ o ho => ?_⟩
    cases ho
  . refine ⟨⟨_, SourceDocument.accepted_iff.mp (accepted_copy _ _)⟩, fun _ o ho => ?_⟩
    cases ho

theorem exists_compile_copies : ∃ c, compile schema copies settings = .ok c := by
  rw [exists_compile_iff_decided copies_nodup _ settings_sound]
  . exact ⟨.inr schema_flaws, copies_decided⟩
  . simp [copies, page, copy, SourceDocument.ofDocument]

end Sample

theorem compile_order_independent_copies : ∃ c c',
    compile Sample.schema Sample.copies Sample.settings = .ok c ∧
      compile Sample.schema Sample.copies.reverse Sample.settings = .ok c' ∧
      c.query? "page" = c'.query? "page" ∧ c.queries.Perm c'.queries ∧
      ((ofDocuments Sample.schema Sample.copies).get? "F").map (·.site) ≠
        ((ofDocuments Sample.schema Sample.copies.reverse).get? "F").map (·.site) := by
  rcases Sample.exists_compile_copies with ⟨c, hc⟩
  rcases compile_order_independent Sample.settings Sample.copies_nodup
    (List.reverse_perm _).symm Sample.copies_printsApart Sample.copies_judgesAlike with
    ⟨_, hends, hsame⟩
  rcases hends.mp ⟨c, hc⟩ with ⟨c', hc'⟩
  rcases hsame c c' hc hc' with ⟨hperm, hquery⟩
  refine ⟨c, c', hc, hc', hquery "page", hperm, fun hsite => ?_⟩
  have hfile := congrArg (Option.map Site.file) hsite
  rw [Option.map_map, Option.map_map] at hfile
  exact absurd (Sample.kept_copies.1.symm.trans (hfile.trans Sample.kept_copies.2)) (by decide)

end QueryLinker
