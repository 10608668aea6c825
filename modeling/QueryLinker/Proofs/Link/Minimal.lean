import QueryLinker.Proofs.Link.Ending

/-!
This module contains that each compiled query is minimal and complete: behind the fragments that the
operation reaches, and no other ones, stands the operation of the file.
-/

namespace QueryLinker

open Graphql DefinitionTable

namespace Graphql

def Document.spreadNames (d : Document) : List String :=
  d.definitions.flatMap (·.selectionSet.spreadNames)

def Document.spreadGraph (d : Document) : SpreadGraph :=
  fun n => (d.fragments.find? (·.name.value == n)).map (·.selectionSet.spreadNames)

def Document.ofOperation (fs : List FragmentDefinition) (o : OperationDefinition) : Document :=
  ⟨fs.map .fragment ++ [.operation o]⟩

namespace Document

variable {fs : List FragmentDefinition} {o : OperationDefinition}

theorem fragments_ofOperation : (ofOperation fs o).fragments = fs := by
  unfold ofOperation Document.fragments
  rw [List.filterMap_append, List.filterMap_map]
  simp

theorem mem_spreadNames_ofOperation {n : String} :
    n ∈ (ofOperation fs o).spreadNames ↔
      (∃ f ∈ fs, n ∈ f.selectionSet.spreadNames) ∨ n ∈ o.selectionSet.spreadNames := by
  simp [ofOperation, spreadNames, Definition.selectionSet]

end Document

end Graphql

structure Defines (g : SpreadGraph) (names : List String) (fs : List FragmentDefinition) :
    Prop where
  names : fs.map (·.name.value) = names
  spreads : ∀ f ∈ fs, g f.name.value = some f.selectionSet.spreadNames

namespace Defines

variable {g : SpreadGraph} {names met : List String} {fs : List FragmentDefinition}
variable {o : OperationDefinition}

theorem spreadGraph_eq (h : Defines g names fs) {n : String} (hn : n ∈ names) :
    (Document.ofOperation fs o).spreadGraph n = g n := by
  unfold Document.spreadGraph
  rw [Document.fragments_ofOperation]
  rw [← h.names] at hn
  rcases List.mem_map.mp hn with ⟨f, hf, rfl⟩
  cases hfind : fs.find? (·.name.value == f.name.value) with
  | none =>
    rw [List.find?_eq_none] at hfind
    exact absurd (BEq.rfl) (hfind f hf)
  | some f' =>
    have hname : f'.name.value = f.name.value := by simpa using List.find?_some hfind
    rw [← hname, h.spreads f' (List.mem_of_find?_eq_some hfind)]
    rfl

theorem mem_of_spreadGraph (h : Defines g names fs) {n : String} {spreads : List String}
    (hn : (Document.ofOperation fs o).spreadGraph n = some spreads) : n ∈ names := by
  unfold Document.spreadGraph at hn
  rw [Document.fragments_ofOperation, Option.map_eq_some_iff] at hn
  rcases hn with ⟨f, hfind, _⟩
  have hname : f.name.value = n := by simpa using List.find?_some hfind
  rw [← h.names, ← hname]
  exact List.mem_map_of_mem (List.mem_of_find?_eq_some hfind)

theorem mem_iff_reaches (h : Defines g names fs) (hv : g.Visits o.selectionSet.spreadNames met)
    (hnames : ∀ n, n ∈ names ↔ n ∈ met) (n : String) :
    n ∈ names ↔
      (Document.ofOperation fs o).spreadGraph.Reaches o.selectionSet.spreadNames n := by
  rw [hnames, hv.mem_iff_reaches]
  apply SpreadGraph.reaches_congr
  intro m hm
  exact (h.spreadGraph_eq ((hnames m).mpr (hv.mem_iff_reaches.mpr hm))).symm

theorem not_onCycle (h : Defines g names fs) (hv : g.Visits o.selectionSet.spreadNames met)
    (hnames : ∀ n, n ∈ names ↔ n ∈ met) {n : String} (hn : n ∈ names) :
    ¬ (Document.ofOperation fs o).spreadGraph.OnCycle n := by
  have hfollows (a b : String) (hab : (Document.ofOperation fs o).spreadGraph.Follows a b) :
      g.Follows a b := by
    rcases hab with ⟨spreads, ha, hb⟩
    exact ⟨spreads, by rw [← h.spreadGraph_eq (h.mem_of_spreadGraph ha), ha], hb⟩
  intro hcycle
  exact hv.not_onCycle_of_mem ((hnames n).mp hn) (Relation.TransGen.mono hfollows _ _ hcycle)

theorem spread_mem (h : Defines g names fs) (hv : g.Visits o.selectionSet.spreadNames met)
    (hnames : ∀ n, n ∈ names ↔ n ∈ met) {n : String}
    (hn : n ∈ (Document.ofOperation fs o).spreadNames) : n ∈ names := by
  rw [hnames]
  rcases Document.mem_spreadNames_ofOperation.mp hn with ⟨f, hf, hspread⟩ | hspread
  . have hmem : f.name.value ∈ names := by
      rw [← h.names]
      exact List.mem_map_of_mem hf
    exact hv.mem_of_follows ((hnames _).mp hmem) ⟨_, h.spreads f hf, hspread⟩
  . exact hv.start_subset hspread

end Defines

theorem DefinitionTable.Represents.defines {t : DefinitionTable} {fs : List Fragment}
    (h : t.Represents fs) (hfs : ∀ f ∈ fs, f.name = f.node.name.value) {names : List String}
    (hnames : ∀ n ∈ names, (t.spreadGraph n).isSome) :
    Defines t.spreadGraph names (((names.map t.get?).filterMap id).map (·.node)) ∧
      ∀ f ∈ (names.map t.get?).filterMap id, t.get? f.name = some f := by
  induction names with
  | nil => exact ⟨⟨rfl, by simp⟩, by simp⟩
  | cons n names ih =>
    rw [List.forall_mem_cons] at hnames
    rcases ih hnames.2 with ⟨⟨htail, hspreads⟩, hget⟩
    have hsome := hnames.1
    unfold spreadGraph at hsome
    rw [Option.isSome_map] at hsome
    rcases Option.isSome_iff_exists.mp hsome with ⟨f, hf⟩
    rcases h.mem hf with ⟨hmem, hname⟩
    have hcons : (some f :: names.map t.get?).filterMap id =
        f :: (names.map t.get?).filterMap id := rfl
    rw [List.map_cons, hf, hcons]
    refine ⟨⟨?_, ?_⟩, ?_⟩
    . rw [List.map_cons, List.map_cons, htail, ← hfs f hmem, hname]
    . rw [List.map_cons, List.forall_mem_cons]
      refine ⟨?_, hspreads⟩
      rw [← hfs f hmem, hname]
      simp [spreadGraph, hf]
    . rw [List.forall_mem_cons]
      refine ⟨?_, hget⟩
      rw [hname, hf]

namespace DefinitionTable

variable {s : Schema} {docs : List SourceDocument}

theorem fragment_name :
    ∀ f ∈ (acceptedOf s docs).flatMap (·.fragments), f.name = f.node.name.value := by
  intro f hf
  rcases List.mem_flatMap.mp hf with ⟨d, _, hf⟩
  exact d.fragment_name hf

theorem fragment_of_get? {f : Fragment} (hf : (ofDocuments s docs).get? f.name = some f) :
    (∃ d ∈ docs, d.accepted s ∧ f.node ∈ d.document.fragments) ∧
      ∀ d ∈ docs, d.accepted s → ∀ f' ∈ d.document.fragments,
        f'.name.value = f.node.name.value →
          Definition.text (.fragment f') = Definition.text (.fragment f.node) := by
  have hrep := ofDocuments_represents s docs
  rcases List.mem_flatMap.mp (hrep.mem hf).1 with ⟨d, hd, hfd⟩
  rcases List.mem_filter.mp hd with ⟨hd, hacc⟩
  constructor
  . refine ⟨d, hd, hacc, ?_⟩
    rw [← d.fragments_map_node]
    exact List.mem_map_of_mem hfd
  . intro d' hd' hacc' node' hnode' hname
    rw [← d'.fragments_map_node] at hnode'
    rcases List.mem_map.mp hnode' with ⟨f', hf', rfl⟩
    have hmem : f' ∈ (docs.filter (·.accepted s)).flatMap (·.fragments) :=
      List.mem_flatMap.mpr ⟨d', List.mem_filter.mpr ⟨hd', hacc'⟩, hf'⟩
    rw [← d.fragment_name hfd, ← d'.fragment_name hf'] at hname
    rw [← d.fragment_text hfd, ← d'.fragment_text hf']
    exact hrep.text_eq hf hmem hname

end DefinitionTable

variable {s : Schema} {docs : List SourceDocument} {settings : PassSettings}
variable {c : Compilation} {q : CompiledQuery}

theorem exists_document_of_query (hnodup : (docs.map (·.path)).Nodup)
    (hc : compile s docs settings = .ok c) (hq : q ∈ c.queries) :
    ∃ d ∈ docs, d.path = q.path ∧ ∃ o, d.operations = [o] ∧
      ((ofDocuments s docs).resolution settings.suggestionLimit o).ok ∧
      q.text = (((ofDocuments s docs).resolution settings.suggestionLimit o).document
        (ofDocuments s docs)).text := by
  rcases compile_spec hnodup hc with ⟨_, found, _, hfound, hqueries, _⟩
  rw [hqueries] at hq
  rcases List.mem_flatMap.mp hq with ⟨x, hx, hq⟩
  rcases exists_of_mem_right hfound hx with ⟨d, hd, houtcome⟩
  have hxq : x.1 = some q := by simpa using hq
  refine ⟨d, (List.mem_filter.mp hd).1, (SourceDocument.outcome_path houtcome hxq).symm, ?_⟩
  cases hops : d.operations with
  | nil =>
    rw [SourceDocument.outcome_of_nil hops] at houtcome
    cases houtcome
    cases hxq
  | cons o later =>
    rcases SourceDocument.outcome_cases hops houtcome with ⟨query?, ps, hattempt, hquery, _⟩
    rw [hxq] at hquery
    split at hquery
    next hlater =>
      subst hlater
      subst hquery
      cases hattempt with
      | compiled hok _ hq => exact ⟨o, rfl, hok, (query_path hq).2⟩
    next => cases hquery

/--
Every query is the only operation of its file, behind the fragments that it reaches in the document
itself. All spreads have their definitions there, and no fragment comes back to itself. A fragment
is from a document that is right by itself, and its name has one text in all of these documents.
-/
theorem compile_query_minimal (hnodup : (docs.map (·.path)).Nodup)
    (hc : compile s docs settings = .ok c) (hq : q ∈ c.queries) :
    ∃ d ∈ docs, d.path = q.path ∧ ∃ o fs,
      d.document.operations = [o] ∧
      q.text = (Document.ofOperation fs o).text ∧
      (fs.map (·.name.value)).Nodup ∧
      (∀ n, n ∈ fs.map (·.name.value) ↔
        (Document.ofOperation fs o).spreadGraph.Reaches o.selectionSet.spreadNames n) ∧
      (∀ n ∈ (Document.ofOperation fs o).spreadNames, n ∈ fs.map (·.name.value)) ∧
      ∀ f ∈ fs, ¬ (Document.ofOperation fs o).spreadGraph.OnCycle f.name.value ∧
        (∃ d' ∈ docs, d'.accepted s ∧ f ∈ d'.document.fragments) ∧
        ∀ d' ∈ docs, d'.accepted s → ∀ f' ∈ d'.document.fragments,
          f'.name.value = f.name.value →
            Definition.text (.fragment f') = Definition.text (.fragment f) := by
  rcases exists_document_of_query hnodup hc hq with ⟨d, hd, hpath, o, hops, hok, htext⟩
  let t := ofDocuments s docs
  let r := t.resolution settings.suggestionLimit o
  rcases Resolver.exists_visits_of_ok (.nil _) hok with ⟨met, hv, hnames⟩
  change r.names = met.eraseDups at hnames
  have hmem (n : String) : n ∈ met.eraseDups ↔ n ∈ met := List.mem_eraseDups
  rcases (ofDocuments_represents s docs).defines fragment_name
    fun n hn => hv.isSome_of_mem ((hmem n).mp hn) with ⟨hdefines, hget⟩
  -- All names that are met stand for fragments, so leaving out the others leaves out none.
  let fragments := (met.eraseDups.map t.get?).filterMap id
  have hdocument : r.document t = .ofOperation (fragments.map (·.node)) o.node := by
    unfold Resolution.document Operation.assemble Resolution.fragments Document.ofOperation
    rw [resolution_operation, hnames, List.map_map]
    rfl
  refine ⟨d, hd, hpath, o.node, fragments.map (·.node), ?_, ?_, ?_, ?_, ?_, ?_⟩
  . rw [← d.operations_map_node, hops]
    rfl
  . rw [htext, hdocument]
  . rw [hdefines.names]
    exact nodup_eraseDups met
  . rw [hdefines.names]
    exact hdefines.mem_iff_reaches hv hmem
  . rw [hdefines.names]
    exact fun n hn => hdefines.spread_mem hv hmem hn
  . rw [List.forall_mem_map]
    intro f hf
    refine ⟨?_, fragment_of_get? (hget f hf)⟩
    apply hdefines.not_onCycle hv hmem
    rw [← hdefines.names, List.map_map]
    exact List.mem_map_of_mem hf

theorem compile_query_minimal_page :
    ∃ c q, compile Sample.schema Sample.documents Sample.settings = .ok c ∧ q ∈ c.queries ∧
      q.path = "page" ∧ q.text = (Document.ofOperation [Sample.fragment] Sample.query).text := by
  rcases Sample.exists_compile with ⟨c, hc⟩
  rcases Sample.exists_query hc with ⟨q, hq, hpath⟩
  refine ⟨c, q, hc, hq, hpath, ?_⟩
  rcases compile_query_minimal Sample.documents_nodup hc hq with
    ⟨d, hd, hdpath, o, fs, hops, htext, hnodup, _, hspread, hfs⟩
  have hquery : o = Sample.query := by
    rw [hpath] at hdpath
    rcases List.mem_pair.mp hd with rfl | rfl
    . cases hops
      rfl
    . exact absurd hdpath (by decide)
  have hfragment : ∀ f ∈ fs, f = Sample.fragment := by
    intro f hf
    rcases (hfs f hf).2.1 with ⟨d', hd', _, hmem⟩
    rcases List.mem_pair.mp hd' with rfl | rfl
    . cases hmem
    . exact List.mem_singleton.mp hmem
  have hspreads : Sample.query.selectionSet.spreadNames = ["F"] := by
    cbv
  have hmem : "F" ∈ fs.map (·.name.value) := by
    apply hspread
    rw [Document.mem_spreadNames_ofOperation, hquery, hspreads]
    exact .inr (List.mem_singleton_self _)
  cases fs with
  | nil => cases hmem
  | cons f fs =>
    cases fs with
    | nil => rw [htext, hquery, hfragment f (by simp)]
    | cons f' fs => simp [hfragment f (by simp), hfragment f' (by simp)] at hnodup

end QueryLinker
