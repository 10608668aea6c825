import QueryLinker.Proofs.Files.Tree
import QueryLinker.Proofs.Validation.Executable

/-!
This module contains that the resolver and the rules of validation say the same of fragments. What
the resolver puts together breaks no rule about operations and fragments; and where it fails, the
rules find a fragment that is missing or comes back to itself, unless they give up.
-/

namespace QueryLinker

open Graphql DefinitionTable Validation Rules

namespace DefinitionTable

variable {s : Schema} {t : DefinitionTable} {docs : List SourceDocument}

theorem addFragment_nodup (h : t.fragmentNames.Nodup) (f : Fragment) :
    (t.addFragment f).1.fragmentNames.Nodup := by
  unfold addFragment
  split
  . dsimp only
    split <;> exact h
  . split
    next hget =>
      unfold fragmentNames at h ⊢
      rw [List.map_append, List.map_singleton, List.nodup_append]
      refine ⟨h, List.nodup_singleton _, ?_⟩
      intro n hn m hm heq
      rw [heq, List.mem_singleton.mp hm] at hn
      exact Walk.not_mem_map_fst_of_lookup hget hn
    . split
      . exact h
      . exact h.sublist (List.filter_sublist.map _)

theorem addExtracts_nodup (h : t.fragmentNames.Nodup) (file : String) (xs : List Extract) :
    (t.addExtracts file xs).1.fragmentNames.Nodup := by
  induction xs generalizing t with
  | nil => exact h
  | cons x xs ih =>
    apply ih
    cases x with
    | operation o => exact h
    | fragment f => exact addFragment_nodup h f
    | other d => exact h

theorem fragmentNames_nodup (s : Schema) (docs : List SourceDocument) :
    (ofDocuments s docs).fragmentNames.Nodup := by
  have hadd (docs : List SourceDocument) (t : DefinitionTable) (h : t.fragmentNames.Nodup) :
      (t.addDocuments docs).fragmentNames.Nodup := by
    induction docs generalizing t with
    | nil => exact h
    | cons d docs ih => exact ih _ (addExtracts_nodup h d.path d.extracts)
  exact hadd _ _ .nil

def allFragments (t : DefinitionTable) : List Fragment :=
  t.fragments.map (·.2)

theorem get?_eq_some_iff_mem (hnodup : t.fragmentNames.Nodup) {n : String} {f : Fragment} :
    t.get? n = some f ↔ (n, f) ∈ t.fragments :=
  lookup_eq_some_iff_mem hnodup

end DefinitionTable

namespace Validation

variable {fs : List FragmentDefinition} {o : OperationDefinition}

def linkRules (s : Subject) : List Rule :=
  [uniqueOperationNames, loneAnonymousOperation s, uniqueFragmentNames, knownFragmentNames s,
   noUnusedFragments s, noFragmentCycles s]

theorem Subject.spreadGraph_eq {s : Subject} (hdocument : s.document = .ofOperation fs o)
    (hnodup : (fs.map (·.name.value)).Nodup) :
    s.spreadGraph = (Document.ofOperation fs o).spreadGraph := by
  funext n
  have hsame : s.fragment? n = fs.find? (·.name.value == n) := by
    cases hfind : fs.find? (·.name.value == n) with
    | some f =>
      have hname : f.name.value = n := by simpa using List.find?_some hfind
      rw [← hname]
      apply Subject.fragment?_of_nodup
      . rw [hdocument, Document.fragments_ofOperation]
        exact hnodup
      . rw [hdocument, Document.fragments_ofOperation]
        exact List.mem_of_find?_eq_some hfind
    | none =>
      cases hget : s.fragment? n with
      | none => rfl
      | some f =>
        rcases Subject.fragment?_eq_some hget with ⟨hmem, hname⟩
        rw [hdocument, Document.fragments_ofOperation] at hmem
        rw [List.find?_eq_none] at hfind
        exact absurd (by simpa using hname) (hfind f hmem)
  unfold Subject.spreadGraph Document.spreadGraph
  rw [hsame, Document.fragments_ofOperation]

structure Linked (fs : List FragmentDefinition) (o : OperationDefinition) : Prop where
  nodup : (fs.map (·.name.value)).Nodup
  known : ∀ n ∈ (Document.ofOperation fs o).spreadNames, n ∈ fs.map (·.name.value)
  reached : ∀ f ∈ fs,
    (Document.ofOperation fs o).spreadGraph.Reaches o.selectionSet.spreadNames f.name.value
  acyclic : ∀ n, ¬ (Document.ofOperation fs o).spreadGraph.OnCycle n

namespace Linked

variable {schema : Schema} {nesting : Nat}

theorem report_noFragmentCycles (h : Linked fs o) {s : Subject}
    (hs : s = ⟨.ofOperation fs o, schema, false, nesting⟩) :
    ((noFragmentCycles s).report (events schema (.ofOperation fs o))).errors = [] ∧
      (fs.length ≤ nesting →
        ((noFragmentCycles s).report (events schema (.ofOperation fs o))).halt? = none) := by
  have hdocument : s.document = .ofOperation fs o := by rw [hs]
  have hsearched := searched_noFragmentCycles schema hdocument h.nodup
  constructor
  . by_contra hne
    rcases hsearched.cycle hne with ⟨n, hn⟩
    rw [Subject.spreadGraph_eq hdocument h.nodup] at hn
    exact h.acyclic n hn
  . intro hlength
    rcases hsearched.halt with hnone | ⟨_, hlong⟩
    . exact hnone
    . rw [hdocument, Document.fragments_ofOperation, hs] at hlong
      exact absurd hlength (Nat.not_le.mpr hlong)

theorem report_linkRules (h : Linked fs o) (schema : Schema) (nesting : Nat) :
    ∀ rule ∈ linkRules ⟨.ofOperation fs o, schema, false, nesting⟩,
      (rule.report (events schema (.ofOperation fs o))).errors = [] ∧
      (fs.length ≤ nesting →
        (rule.report (events schema (.ofOperation fs o))).halt? = none) := by
  let s : Subject := ⟨.ofOperation fs o, schema, false, nesting⟩
  have hfragments : s.document.fragments = fs := Document.fragments_ofOperation
  have hgraph : s.spreadGraph = (Document.ofOperation fs o).spreadGraph :=
    Subject.spreadGraph_eq rfl h.nodup
  have hquiet {r : Report} (hr : r = {}) :
      r.errors = [] ∧ (fs.length ≤ nesting → r.halt? = none) := by
    rw [hr]
    exact ⟨rfl, fun _ => rfl⟩
  intro rule hrule
  simp only [linkRules, List.mem_cons, List.not_mem_nil, or_false] at hrule
  rcases hrule with rfl | rfl | rfl | rfl | rfl | rfl
  . exact hquiet report_uniqueOperationNames
  . apply hquiet
    apply report_loneAnonymousOperation
    rw [operations_ofOperation]
    exact Nat.le_refl 1
  . exact hquiet (report_uniqueFragmentNames h.nodup)
  . apply hquiet
    apply report_knownFragmentNames
    intro n hn
    rw [Subject.isSome_fragment?_iff, hfragments]
    exact h.known n hn
  . apply hquiet
    apply report_noUnusedFragments
    intro f hf
    apply Subject.mem_fragmentsOf (n := f.name.value)
    . rw [hgraph]
      exact h.reached f hf
    . apply Subject.fragment?_of_nodup
      . rw [hfragments]
        exact h.nodup
      . rw [hfragments]
        exact hf
  . exact h.report_noFragmentCycles rfl

end Linked

end Validation

section

variable {s : Schema} {docs : List SourceDocument} {o : Operation} {met : List String}

theorem assemble_eq (o : Operation) (fs : List Fragment) :
    o.assemble fs = .ofOperation (fs.map (·.node)) o.node := by
  unfold Operation.assemble Document.ofOperation
  rw [List.map_map]
  rfl

theorem map_get?_eq_map_some {t : DefinitionTable} {names : List String}
    (h : ∀ n ∈ names, (t.get? n).isSome) :
    names.map t.get? = ((names.map t.get?).filterMap id).map some := by
  induction names with
  | nil => rfl
  | cons n names ih =>
    rw [List.forall_mem_cons] at h
    rcases Option.isSome_iff_exists.mp h.1 with ⟨f, hf⟩
    rw [List.map_cons, hf, List.filterMap_cons, id_eq, List.map_cons, ← ih h.2]

theorem linked_of_visits (hv : (ofDocuments s docs).spreadGraph.Visits o.spreadNames met) :
    Linked (((met.eraseDups.map (ofDocuments s docs).get?).filterMap id).map (·.node)) o.node := by
  have hmem (n : String) : n ∈ met.eraseDups ↔ n ∈ met := List.mem_eraseDups
  rcases (ofDocuments_represents s docs).defines fragment_name
    fun n hn => hv.isSome_of_mem ((hmem n).mp hn) with ⟨hdefines, _⟩
  refine ⟨?_, ?_, ?_, ?_⟩
  . rw [hdefines.names]
    exact nodup_eraseDups met
  . rw [hdefines.names]
    exact fun n hn => hdefines.spread_mem hv hmem hn
  . intro f hf
    rw [← hdefines.mem_iff_reaches hv hmem, ← hdefines.names]
    exact List.mem_map_of_mem hf
  . intro n hcycle
    have hn : n ∈ met.eraseDups := by
      rcases Relation.TransGen.head'_iff.mp hcycle with ⟨m, ⟨names, hnames, _⟩, _⟩
      exact hdefines.mem_of_spreadGraph hnames
    exact hdefines.not_onCycle hv hmem hn hcycle

def Operation.withAll (o : Operation) (t : DefinitionTable) : Document :=
  .ofOperation (t.allFragments.map (·.node)) o.node

theorem map_name_allFragments (s : Schema) (docs : List SourceDocument) :
    ((ofDocuments s docs).allFragments.map (·.node)).map (·.name.value) =
      (ofDocuments s docs).fragmentNames := by
  have hentry : ∀ entry ∈ (ofDocuments s docs).fragments, entry.2.node.name.value = entry.1 := by
    rintro ⟨n, f⟩ hmem
    have hget := (get?_eq_some_iff_mem (fragmentNames_nodup s docs)).mpr hmem
    rcases (ofDocuments_represents s docs).mem hget with ⟨hf, hname⟩
    rw [← fragment_name f hf, hname]
  unfold allFragments fragmentNames
  rw [List.map_map, List.map_map]
  exact List.map_congr_left hentry

variable {subject : Subject}

theorem fragment?_withAll (hsubject : subject.document = o.withAll (ofDocuments s docs))
    (n : String) :
    subject.fragment? n = ((ofDocuments s docs).get? n).map (·.node) := by
  have hfragments : subject.document.fragments =
      (ofDocuments s docs).allFragments.map (·.node) := by
    rw [hsubject]
    exact Document.fragments_ofOperation
  have hnodup : (subject.document.fragments.map (·.name.value)).Nodup := by
    rw [hfragments, map_name_allFragments]
    exact fragmentNames_nodup s docs
  cases hget : (ofDocuments s docs).get? n with
  | some f =>
    rcases (ofDocuments_represents s docs).mem hget with ⟨hf, hname⟩
    have hmem := (get?_eq_some_iff_mem (fragmentNames_nodup s docs)).mp hget
    rw [Option.map_some, ← hname, fragment_name f hf]
    apply Subject.fragment?_of_nodup hnodup
    rw [hfragments]
    exact List.mem_map_of_mem (List.mem_map_of_mem (f := Prod.snd) hmem)
  | none =>
    rw [Option.map_none, ← Option.not_isSome_iff_eq_none, Subject.isSome_fragment?_iff, hfragments,
      map_name_allFragments]
    exact Walk.not_mem_map_fst_of_lookup hget

theorem spreadGraph_withAll (hsubject : subject.document = o.withAll (ofDocuments s docs)) :
    subject.spreadGraph = (ofDocuments s docs).spreadGraph := by
  funext n
  unfold Subject.spreadGraph DefinitionTable.spreadGraph
  rw [fragment?_withAll hsubject, Option.map_map]
  rfl

theorem mem_spreadNames_withAll {n : String}
    (hn : (ofDocuments s docs).spreadGraph.Reaches o.spreadNames n) :
    n ∈ (o.withAll (ofDocuments s docs)).spreadNames := by
  unfold Operation.withAll
  rw [Document.mem_spreadNames_ofOperation]
  rcases hn with ⟨a, ha, han⟩
  rcases Relation.ReflTransGen.cases_tail han with rfl | ⟨b, _, names, hnames, hn⟩
  . exact .inr ha
  . left
    rcases Option.map_eq_some_iff.mp hnames with ⟨f, hf, rfl⟩
    have hmem := (get?_eq_some_iff_mem (fragmentNames_nodup s docs)).mp hf
    exact ⟨f.node, List.mem_map_of_mem (List.mem_map_of_mem (f := Prod.snd) hmem), hn⟩

theorem broken_withAll (schema : Schema) (nesting : Nat) {n : String}
    (hn : (ofDocuments s docs).spreadGraph.Reaches o.spreadNames n)
    (hbad : (ofDocuments s docs).spreadGraph n = none ∨
      (ofDocuments s docs).spreadGraph.OnCycle n) :
    let d := o.withAll (ofDocuments s docs)
    ((knownFragmentNames ⟨d, schema, false, nesting⟩).report (events schema d)).errors ≠ [] ∨
      ((noFragmentCycles ⟨d, schema, false, nesting⟩).report (events schema d)).errors ≠ [] ∨
      ((noFragmentCycles ⟨d, schema, false, nesting⟩).report (events schema d)).halt? =
          some .tooDeep ∧
        nesting < (ofDocuments s docs).fragments.length := by
  intro d
  let subject : Subject := ⟨d, schema, false, nesting⟩
  have hgraph : subject.spreadGraph = (ofDocuments s docs).spreadGraph := spreadGraph_withAll rfl
  rw [← hgraph] at hbad
  rcases hbad with hunknown | hcycle
  . left
    apply report_knownFragmentNames_of_unknown (mem_spreadNames_withAll hn)
    exact Option.map_eq_none_iff.mp hunknown
  . right
    have hnodup : (((ofDocuments s docs).allFragments.map (·.node)).map (·.name.value)).Nodup := by
      rw [map_name_allFragments]
      exact fragmentNames_nodup s docs
    have hsearched := searched_noFragmentCycles (s := subject) schema rfl hnodup
    rcases hsearched.halt with hnone | ⟨hdeep, hlong⟩
    . left
      intro herrors
      rcases Relation.TransGen.head'_iff.mp hcycle with ⟨m, ⟨names, hnames, _⟩, _⟩
      rcases Option.map_eq_some_iff.mp hnames with ⟨f, hf, _⟩
      rcases Subject.fragment?_eq_some hf with ⟨hmem, hname⟩
      have hfragments : subject.document.fragments =
          (ofDocuments s docs).allFragments.map (·.node) := Document.fragments_ofOperation
      rw [hfragments] at hmem
      have hending := hsearched.ending herrors hnone (by simp [Orderly]) f hmem
      rw [hname] at hending
      exact hending.not_onCycle hcycle
    . right
      refine ⟨hdeep, ?_⟩
      have hlength : subject.document.fragments.length =
          (ofDocuments s docs).fragments.length := by
        change (Document.ofOperation _ _).fragments.length = _
        rw [Document.fragments_ofOperation, allFragments, List.length_map, List.length_map]
      rw [← hlength]
      exact hlong

theorem validateFull_withAll_ne_nil (schema : Schema) (nesting : Nat) {n : String}
    (hn : (ofDocuments s docs).spreadGraph.Reaches o.spreadNames n)
    (hbad : (ofDocuments s docs).spreadGraph n = none ∨
      (ofDocuments s docs).spreadGraph.OnCycle n) :
    validateFull schema (o.withAll (ofDocuments s docs)) nesting ≠ .ok [] := by
  intro hvalid
  let subject : Subject := ⟨o.withAll (ofDocuments s docs), schema, false, nesting⟩
  have hreport := report_of_validateFull_eq_nil hvalid
  have hknown := hreport (knownFragmentNames subject) (by simp [allRules, subject])
  have hcycles := hreport (noFragmentCycles subject) (by simp [allRules, subject])
  have hbroken := broken_withAll schema nesting hn hbad
  dsimp only at hbroken
  rw [show (knownFragmentNames ⟨_, schema, false, nesting⟩).report _ = {} from hknown,
    show (noFragmentCycles ⟨_, schema, false, nesting⟩).report _ = {} from hcycles] at hbroken
  simp at hbroken

/--
What the resolver puts together for an operation is complete, and breaks none of the rules about
operations and fragments: an error of the full validation is from another rule, or tells that the
traversal was given up. What the resolver refuses does not pass either when all usable fragments
are put before the operation: a fragment is unknown or contains itself, unless there are more than
may be nested and the search for cycles gives up.
-/
theorem resolve_agrees_with_rules {t : DefinitionTable} {collected : List Event}
    (hc : collect s docs = .ok (t, collected)) (limit : Int) (history : List Operation)
    (o : Operation) (schema : Schema) (nesting : Nat) :
    let r := (((Resolver.ofTable t limit).resolveAll t history).resolve t o).2
    (r.ok → ∃ fs, r.fragments t = fs.map some ∧
      (∀ rule ∈ linkRules ⟨o.assemble fs, schema, false, nesting⟩,
        (rule.report (events schema (o.assemble fs))).errors = [] ∧
        (fs.length ≤ nesting →
          (rule.report (events schema (o.assemble fs))).halt? = none)) ∧
      ∀ errors, validateFull schema (o.assemble fs) nesting = .ok errors → ∀ e ∈ errors,
        e = tooDeepError (o.assemble fs) ∨ e = tooManyErrors ∨
          ∃ rule ∈ allRules ⟨o.assemble fs, schema, false, nesting⟩,
            e ∈ (rule.report (events schema (o.assemble fs))).errors) ∧
    (¬ r.ok →
      let d := o.assemble t.allFragments
      (((knownFragmentNames ⟨d, schema, false, nesting⟩).report (events schema d)).errors ≠ [] ∨
        ((noFragmentCycles ⟨d, schema, false, nesting⟩).report (events schema d)).errors ≠ [] ∨
        ((noFragmentCycles ⟨d, schema, false, nesting⟩).report (events schema d)).halt? =
            some .tooDeep ∧
          nesting < t.fragments.length) ∧
      validateFull schema d nesting ≠ .ok []) := by
  rcases collect_eq_ok_iff.mp hc with ⟨_, _, _, heq⟩
  cases heq
  intro r
  have hsound : SoundClosures (ofDocuments s docs).spreadGraph
      ((Resolver.ofTable (ofDocuments s docs) limit).resolveAll (ofDocuments s docs)
        history).closures :=
    Resolver.soundClosures_resolveAll (.nil _) history
  constructor
  . intro hok
    rcases Resolver.exists_visits_of_ok hsound hok with ⟨met, hv, hnames⟩
    change r.names = met.eraseDups at hnames
    let fs := (met.eraseDups.map (ofDocuments s docs).get?).filterMap id
    have hlinked : Linked (fs.map (·.node)) o.node := linked_of_visits hv
    refine ⟨fs, ?_, ?_, fun errors hvalid e he => exists_of_mem_validateFull hvalid he⟩
    . unfold Resolution.fragments
      rw [hnames]
      apply map_get?_eq_map_some
      intro n hn
      simpa [DefinitionTable.spreadGraph] using hv.isSome_of_mem (List.mem_eraseDups.mp hn)
    . have hreport := hlinked.report_linkRules schema nesting
      rw [List.length_map] at hreport
      rw [assemble_eq]
      exact hreport
  . intro hok d
    have hd : d = o.withAll (ofDocuments s docs) := assemble_eq o _
    rw [Resolver.resolve_ok_iff hsound] at hok
    push Not at hok
    rcases hok with ⟨n, hn, hbad⟩
    have hbad' : (ofDocuments s docs).spreadGraph n = none ∨
        (ofDocuments s docs).spreadGraph.OnCycle n := by
      cases hget : (ofDocuments s docs).spreadGraph n with
      | none => exact .inl rfl
      | some names => exact .inr (hbad (by rw [hget]; rfl))
    rw [hd]
    exact ⟨broken_withAll schema nesting hn hbad',
      validateFull_withAll_ne_nil schema nesting hn hbad'⟩

theorem resolve_agrees_with_rules_page :
    ∃ t collected, collect Sample.schema Sample.documents = .ok (t, collected) ∧
      ∃ o ∈ t.operations, ((Resolver.ofTable t 0).resolve t o).2.ok ∧
      ∃ fs, ((Resolver.ofTable t 0).resolve t o).2.fragments t = fs.map some ∧
        ∀ rule ∈ linkRules ⟨o.assemble fs, Sample.schema, false, usualNesting⟩,
          (rule.report (events Sample.schema (o.assemble fs))).errors = [] := by
  have hchecked : ∀ d ∈ Sample.documents, d.Checked Sample.schema := by
    intro d hd
    rcases List.mem_pair.mp hd with rfl | rfl
    . exact (Sample.page_decided "page").1
    . exact Sample.parts_decided.1
  rcases (exists_collectDocuments_iff empty).mpr hchecked with ⟨⟨t, collected⟩, hdocuments⟩
  cases collectDocuments_table hdocuments
  have hc := collect_eq_ok_iff.mpr ⟨.inr Sample.schema_flaws, _, hdocuments, rfl⟩
  rcases Sample.page_visits "page" with ⟨o, hops, hv, _⟩
  have hok := (Resolver.resolve_of_visits
    (r := .ofTable (ofDocuments Sample.schema Sample.documents) 0) (.nil _) hv).1
  rcases (resolve_agrees_with_rules hc 0 [] o Sample.schema usualNesting).1 hok with
    ⟨fs, hfs, hrules, _⟩
  refine ⟨_, _, hc, o, ?_, hok, fs, hfs, fun rule hrule => (hrules rule hrule).1⟩
  rw [ofDocuments_operations, List.mem_flatMap]
  exact ⟨Sample.page "page", List.mem_filter.mpr ⟨by simp [Sample.documents],
    Sample.accepted_page _⟩, by simp [hops]⟩

end

end QueryLinker
