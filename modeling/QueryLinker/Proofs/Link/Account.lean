import QueryLinker.Proofs.Link.Ending

/-!
This module contains that a pass accounts for each document: there is a query, or there is a problem
that says why not.
-/

namespace QueryLinker

open Graphql DefinitionTable Validation

namespace Problem

theorem ownUnder_eq_nil_iff {path : String} {ps : List Problem} :
    ownUnder path ps = [] ↔ ∀ p ∈ ps, p.file = path → p.kind = .duplicateFragment := by
  unfold ownUnder under isDuplicate
  simp only [List.filter_filter, List.filter_eq_nil_iff, Bool.and_eq_true, Bool.not_eq_true',
    beq_eq_false_iff_ne, beq_iff_eq, not_and]
  constructor
  . intro h p hp hfile
    apply Decidable.byContradiction
    intro hkind
    exact h p hp hkind hfile
  . intro h p hp hkind hfile
    exact hkind (h p hp hfile)

end Problem

section

variable {s : Schema} {docs : List SourceDocument} {settings : PassSettings} {c : Compilation}
variable {d : SourceDocument}

theorem structuralProblems_eq_nil_iff (hd : d.Checked s) :
    d.structuralProblems s = [] ↔ d.accepted s := by
  rcases hd with ⟨errors, hd⟩
  rw [SourceDocument.accepted_iff, SourceDocument.structuralProblems, hd]
  simp

theorem compile_own (hnodup : (docs.map (·.path)).Nodup) (hc : compile s docs settings = .ok c)
    (hd : d ∈ docs) :
    d.Checked s ∧ ∃ x,
      (if d.accepted s then d.outcome s (ofDocuments s docs) settings else .ok (none, [])) =
        .ok x ∧
      c.query? d.path = x.1 ∧
      Problem.ownUnder d.path c.problems = d.structuralProblems s ++ Event.problems x.2 := by
  rcases compile_document hnodup hc with ⟨collected, hcollected, hdocs⟩
  rcases hdocs d hd with ⟨x, hx, hquery, hproblems⟩
  refine ⟨(exists_collectDocuments_iff _).mp ⟨_, hcollected⟩ d hd, x, hx, hquery, ?_⟩
  unfold Problem.ownUnder
  rw [hproblems, List.filter_append, ← collectDocuments_own hnodup hcollected hd]
  congr 1
  rw [List.filter_eq_self]
  intro p hp
  split at hx
  . simpa [Problem.isDuplicate] using (SourceDocument.outcome_problem hx hp).2
  . cases hx
    cases hp

theorem mem_paths_iff {path : String} :
    path ∈ c.queries.map (·.path) ↔ (c.query? path).isSome := by
  unfold Compilation.query?
  rw [List.find?_isSome, List.mem_map]
  simp

theorem query_isSome_iff (hnodup : (docs.map (·.path)).Nodup)
    (hc : compile s docs settings = .ok c) (hd : d ∈ docs) :
    (c.query? d.path).isSome ↔
      d.document.operations ≠ [] ∧ Problem.ownUnder d.path c.problems = [] := by
  rcases compile_own hnodup hc hd with ⟨hchecked, x, hx, hquery, hown⟩
  rw [hquery, hown, List.append_eq_nil_iff, structuralProblems_eq_nil_iff hchecked,
    ← d.operations_map_node, ne_eq, List.map_eq_nil_iff]
  split at hx
  next hacc =>
    cases hops : d.operations with
    | nil =>
      rw [SourceDocument.outcome_of_nil hops] at hx
      cases hx
      simp
    | cons o later =>
      rcases SourceDocument.outcome_cases hops hx with ⟨query?, ps, hattempt, hfirst, hproblems⟩
      rw [hfirst, hproblems]
      cases later with
      | nil => simp [hacc, hattempt.isSome_iff]
      | cons o' later => simp
  next hacc =>
    cases hx
    simp [hacc]

theorem laterOperations_eq (hnodup : (docs.map (·.path)).Nodup)
    (hc : compile s docs settings = .ok c) (hd : d ∈ docs) (hacc : d.accepted s)
    {o : Operation} {later : List Operation} (hops : d.operations = o :: later) :
    (Problem.under d.path c.problems).filter (·.kind == .multipleRootOperations) =
      later.map (.laterOperation · o) := by
  rcases compile_own hnodup hc hd with ⟨hchecked, x, hx, _, hown⟩
  rw [if_pos hacc] at hx
  rw [(structuralProblems_eq_nil_iff hchecked).mpr hacc, List.nil_append] at hown
  rcases SourceDocument.outcome_cases hops hx with ⟨query?, ps, hattempt, _, hproblems⟩
  -- These are among the problems of its own, which are those of its first operation and these.
  have hfilter : (Problem.under d.path c.problems).filter (·.kind == .multipleRootOperations) =
      (Problem.ownUnder d.path c.problems).filter (·.kind == .multipleRootOperations) := by
    rw [Problem.ownUnder, List.filter_filter]
    congr 1
    funext p
    cases hkind : p.kind <;> simp [Problem.isDuplicate, hkind]
  have hfirst : ps.filter (·.kind == .multipleRootOperations) = [] := by
    rw [List.filter_eq_nil_iff]
    intro p hp
    simpa using (hattempt.problem_cases hp).2.2
  rw [hfilter, hown, hproblems, List.filter_append, hfirst, List.nil_append, List.filter_eq_self]
  exact List.forall_mem_map.mpr fun _ _ => rfl

theorem outcomes_paths_sublist {t : DefinitionTable}
    {found : List (Option CompiledQuery × List Event)}
    (h : List.Forall₂ (fun d x => d.outcome s t settings = .ok x) docs found) :
    ((found.flatMap (·.1.toList)).map (·.path)).Sublist (docs.map (·.path)) := by
  induction h with
  | nil => exact .slnil
  | @cons d x docs found hx _ ih =>
    rw [List.flatMap_cons, List.map_append, List.map_cons]
    cases hquery : x.1 with
    | none => exact ih.cons _
    | some q =>
      have hpath := SourceDocument.outcome_path hx hquery
      rw [Option.toList_some, List.map_singleton, List.singleton_append, hpath]
      exact ih.cons_cons _

theorem paths_sublist (hnodup : (docs.map (·.path)).Nodup)
    (hc : compile s docs settings = .ok c) :
    (c.queries.map (·.path)).Sublist (docs.map (·.path)) := by
  rcases compile_spec hnodup hc with ⟨_, found, _, hfound, hqueries, _⟩
  rw [hqueries]
  exact (outcomes_paths_sublist hfound).trans (List.filter_sublist.map _)

/--
A pass over a right schema ends iff all rules can be carried out. Then a path has a query iff its
document has an operation and no problem of its own; each operation behind the first is told about
together with the first, and there is no query beside it; queries are in the order of the documents.
-/
theorem compile_accounts (hnodup : (docs.map (·.path)).Nodup) :
    (s.flaws = [] → (∀ d ∈ docs, d.path ≠ "") → settings.Sound →
      ((∃ c, compile s docs settings = .ok c) ↔
        ∀ d ∈ docs, d.Decided s (ofDocuments s docs) settings)) ∧
    ∀ c, compile s docs settings = .ok c →
      (∀ d ∈ docs, d.path ∈ c.queries.map (·.path) ↔
        d.document.operations ≠ [] ∧
          ∀ e ∈ c.errors, e.file = d.path → e.kind = .duplicateFragment) ∧
      (∀ d ∈ docs, d.accepted s → ∀ o later, d.operations = o :: later →
        (Problem.under d.path c.problems).filter (·.kind == .multipleRootOperations) =
          later.map (.laterOperation · o) ∧
        (later ≠ [] → d.path ∉ c.queries.map (·.path))) ∧
      (c.queries.map (·.path)).Sublist (docs.map (·.path)) := by
  constructor
  . intro hschema hpaths hsettings
    rw [exists_compile_iff_decided hnodup hpaths hsettings]
    simp [hschema]
  intro c hc
  have hiff (d : SourceDocument) (hd : d ∈ docs) : d.path ∈ c.queries.map (·.path) ↔
      d.document.operations ≠ [] ∧
        ∀ e ∈ c.errors, e.file = d.path → e.kind = .duplicateFragment := by
    rw [mem_paths_iff, query_isSome_iff hnodup hc hd, Problem.ownUnder_eq_nil_iff]
    unfold Compilation.errors
    rw [List.forall_mem_map]
    rfl
  refine ⟨hiff, ?_, paths_sublist hnodup hc⟩
  intro d hd hacc o later hops
  have hlater := laterOperations_eq hnodup hc hd hacc hops
  refine ⟨hlater, ?_⟩
  intro hne hmem
  rw [mem_paths_iff, query_isSome_iff hnodup hc hd, Problem.ownUnder] at hmem
  cases later with
  | nil => exact hne rfl
  | cons o' later =>
    have hproblem : Problem.laterOperation o' o ∈ (Problem.under d.path c.problems).filter
        (·.kind == .multipleRootOperations) := by simp [hlater]
    have hkept := List.filter_eq_nil_iff.mp hmem.2 _ (List.mem_filter.mp hproblem).1
    exact hkept rfl

theorem compile_accounts_page : ∃ c,
    compile Sample.schema Sample.documents Sample.settings = .ok c ∧
      c.queries.map (·.path) = ["page"] := by
  rcases compile_accounts Sample.documents_nodup with ⟨hends, haccounts⟩
  have hdecided : ∀ d ∈ Sample.documents, d.Decided Sample.schema
      (ofDocuments Sample.schema Sample.documents) Sample.settings := by
    intro d hd
    rcases List.mem_pair.mp hd with rfl | rfl
    . exact Sample.page_decided _
    . exact Sample.parts_decided
  rcases (hends Sample.schema_flaws Sample.documents_path Sample.settings_sound).mpr hdecided with
    ⟨c, hc⟩
  rcases haccounts c hc with ⟨hiff, _, hsub⟩
  rcases Sample.exists_query hc with ⟨q, hq, hpath⟩
  have hpage : "page" ∈ c.queries.map (·.path) := hpath ▸ List.mem_map_of_mem hq
  have hparts : "parts" ∉ c.queries.map (·.path) := by
    intro hmem
    exact ((hiff Sample.parts (by simp [Sample.documents])).mp hmem).1 rfl
  refine ⟨c, hc, ?_⟩
  change (c.queries.map (·.path)).Sublist ["page", "parts"] at hsub
  generalize c.queries.map (·.path) = paths at hsub hpage hparts ⊢
  cases hsub with
  | cons _ hsub =>
    have hmem := hsub.subset hpage
    simp at hmem
  | cons_cons _ hsub =>
    rcases List.sublist_singleton.mp hsub with rfl | rfl
    . rfl
    . simp at hparts

/-- A right schema, paths and settings: still no pass ends that the sample's subscription is in. -/
theorem compile_without_account :
    Sample.schema.flaws = [] ∧ Sample.settings.Sound ∧
      ((Sample.documents ++ [Sample.live]).map (·.path)).Nodup ∧
      (∀ d ∈ Sample.documents ++ [Sample.live], d.path ≠ "") ∧
      ∀ c, compile Sample.schema (Sample.documents ++ [Sample.live]) Sample.settings ≠ .ok c := by
  exact ⟨Sample.schema_flaws, Sample.settings_sound, Sample.live_nodup, Sample.live_path,
    Sample.compile_live⟩

end

end QueryLinker
