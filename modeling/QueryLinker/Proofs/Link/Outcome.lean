import Mathlib.Data.List.Nodup
import QueryLinker.Proofs.Link.Pass

/-!
This module contains what a document comes to in a pass, case by case: a query, or problems that are
all filed under the document. A pass comes to what its documents come to: it ends iff each of them
does, and each has its own query and its own problems in the result, as if it were there alone.
-/

namespace QueryLinker

open Graphql Validation

theorem Explores.problem_cases {c : WalkContext} {path failed : List String} {site : Site}
    {spreads : List FragmentSpread} {r : Exploration} (h : Explores c path failed site spreads r)
    {p : Problem} (hp : p ∈ r.problems) :
    p.file = c.operation.site.file ∧ (p.kind = .unknownFragment ∨ p.kind = .fragmentCycle) := by
  induction h with
  | nil => simp at hp
  | cycle _ _ ih =>
    rcases List.mem_cons.mp hp with rfl | hp
    . exact ⟨rfl, .inr rfl⟩
    . exact ih hp
  | again _ _ _ ih => exact ih hp
  | unknown _ _ _ _ ih =>
    rcases List.mem_cons.mp hp with rfl | hp
    . exact ⟨rfl, .inl rfl⟩
    . exact ih hp
  | enter _ _ _ _ _ ihinner ihrest =>
    rcases List.mem_append.mp hp with hp | hp
    . exact ihinner hp
    . exact ihrest hp

namespace Resolution

def document (r : Resolution) (t : DefinitionTable) : Document :=
  r.operation.assemble ((r.fragments t).filterMap id)

def invalid (r : Resolution) (t : DefinitionTable) (e : Graphql.Error) : Problem :=
  .invalid r.operation e (r.operation.errorSite? ((r.fragments t).filterMap id) e)

variable {s : Schema} {t : DefinitionTable} {settings : PassSettings} {r : Resolution}

theorem compile_of_error {failure : Failure}
    (h : validateFull s (r.document t) settings.nesting = .error failure) :
    r.compile s t settings = .error (.rule failure) := by
  unfold document at h
  unfold compile
  dsimp only
  rw [h]
  rfl

theorem compile_of_valid (h : validateFull s (r.document t) settings.nesting = .ok []) :
    r.compile s t settings =
      (r.operation.query (r.document t) settings).map fun q => (some q, []) := by
  unfold document at h ⊢
  unfold compile
  dsimp only
  rw [h]
  simp only [bind, Except.bind, pure, Except.pure]
  cases r.operation.query _ settings <;> rfl

theorem compile_of_invalid {errors : List Graphql.Error} (hne : errors ≠ [])
    (h : validateFull s (r.document t) settings.nesting = .ok errors) :
    r.compile s t settings = .ok (none, (errors.map (r.invalid t)).map .problem ++
      [.invalidated r.operation errors.length]) := by
  unfold document at h
  unfold compile
  dsimp only
  rw [h]
  cases errors with
  | nil => exact absurd rfl hne
  | cons e errors =>
    rw [List.map_map]
    rfl

end Resolution

namespace DefinitionTable

variable {s : Schema} {t : DefinitionTable} {settings : PassSettings} {o : Operation}
variable {x : Option CompiledQuery × List Event}

theorem resolution_operation (t : DefinitionTable) (limit : Int) (o : Operation) :
    (t.resolution limit o).operation = o := by
  unfold resolution Resolver.resolve
  dsimp only
  split <;> rfl

theorem resolution_names_of_not_ok {limit : Int} (h : ¬ (t.resolution limit o).ok) :
    (t.resolution limit o).names = [] := by
  unfold resolution Resolver.resolve at h ⊢
  dsimp only at h ⊢
  split at h
  . exact absurd rfl h
  . rfl

theorem resolution_problem {limit : Int} {p : Problem} (hp : p ∈ (t.resolution limit o).problems) :
    p.file = o.site.file ∧ (p.kind = .unknownFragment ∨ p.kind = .fragmentCycle) := by
  rcases Resolver.exists_explores (.ofTable t limit) t o with ⟨e, he⟩
  rw [resolution, Resolver.problems_of_explores he (.nil _)] at hp
  exact he.problem_cases hp

/-- The ways in which the first operation of a file may end: with a query, or with problems. -/
inductive Attempt (s : Schema) (t : DefinitionTable) (settings : PassSettings) (o : Operation) :
    Option CompiledQuery → List Problem → Prop where
  | unresolved (hok : ¬ (t.resolution settings.suggestionLimit o).ok) :
      Attempt s t settings o none (t.resolution settings.suggestionLimit o).problems
  | compiled {q} (hok : (t.resolution settings.suggestionLimit o).ok)
      (hvalid : validateFull s ((t.resolution settings.suggestionLimit o).document t)
        settings.nesting = .ok [])
      (hquery : o.query ((t.resolution settings.suggestionLimit o).document t) settings = .ok q) :
      Attempt s t settings o (some q) []
  | invalid {errors} (hok : (t.resolution settings.suggestionLimit o).ok)
      (hvalid : validateFull s ((t.resolution settings.suggestionLimit o).document t)
        settings.nesting = .ok errors)
      (hne : errors ≠ []) :
      Attempt s t settings o none
        (errors.map ((t.resolution settings.suggestionLimit o).invalid t))

theorem attempt_cases (hx : t.attempt s settings o = .ok x) :
    Attempt s t settings o x.1 (Event.problems x.2) := by
  unfold attempt at hx
  dsimp only at hx
  split at hx
  next hok =>
    cases hvalid : validateFull s ((t.resolution settings.suggestionLimit o).document t)
        settings.nesting with
    | error failure =>
      rw [Resolution.compile_of_error hvalid] at hx
      cases hx
    | ok errors =>
      by_cases hne : errors = []
      . subst hne
        rw [Resolution.compile_of_valid hvalid, resolution_operation, map_eq_ok_iff] at hx
        rcases hx with ⟨q, hq, rfl⟩
        exact .compiled hok hvalid hq
      . rw [Resolution.compile_of_invalid hne hvalid, Except.ok.injEq] at hx
        subst hx
        rw [Event.problems_summed_up _ rfl]
        exact .invalid hok hvalid hne
  next hok =>
    rcases bind_eq_ok_iff.mp hx with ⟨_, _, hx⟩
    cases hx
    rw [Event.problems_summed_up _ rfl]
    exact .unresolved hok

theorem query_path {document : Document} {q : CompiledQuery}
    (h : o.query document settings = .ok q) : q.path = o.site.file ∧ q.text = document.text := by
  unfold Operation.query at h
  dsimp only at h
  split at h
  . rcases bind_eq_ok_iff.mp h with ⟨_, _, h⟩
    cases h
    exact ⟨rfl, rfl⟩
  . cases h
    exact ⟨rfl, rfl⟩

namespace Attempt

variable {query? : Option CompiledQuery} {ps : List Problem}

theorem isSome_iff (h : Attempt s t settings o query? ps) : query?.isSome ↔ ps = [] := by
  cases h with
  | unresolved hok =>
    rw [Resolution.ok, List.isEmpty_iff] at hok
    simp [hok]
  | compiled => simp
  | invalid _ _ hne => simp [hne]

theorem path_eq {q : CompiledQuery} (h : Attempt s t settings o (some q) ps) :
    q.path = o.site.file := by
  cases h with
  | compiled _ _ hquery => exact (query_path hquery).1

theorem problem_cases (h : Attempt s t settings o query? ps) {p : Problem} (hp : p ∈ ps) :
    p.file = o.site.file ∧ p.kind ≠ .duplicateFragment ∧ p.kind ≠ .multipleRootOperations := by
  cases h with
  | unresolved =>
    rcases resolution_problem hp with ⟨hfile, hkind⟩
    rcases hkind with hkind | hkind <;> simp [hfile, hkind]
  | compiled => simp at hp
  | invalid =>
    rcases List.mem_map.mp hp with ⟨e, _, rfl⟩
    refine ⟨?_, by simp [Resolution.invalid, Problem.kind],
      by simp [Resolution.invalid, Problem.kind]⟩
    simp [Resolution.invalid, Problem.file, resolution_operation]

end Attempt

end DefinitionTable

namespace SourceDocument

open DefinitionTable

variable {s : Schema} {t : DefinitionTable} {settings : PassSettings} {d : SourceDocument}
variable {x : Option CompiledQuery × List Event}

theorem attempt_of_nil (hd : d.operations = []) : d.attempt s t settings = .ok (none, []) := by
  unfold attempt
  rw [hd]

theorem exists_attempt_iff_head :
    (∃ x, d.attempt s t settings = .ok x) ↔
      ∀ o ∈ d.operations.head?, ∃ y, t.attempt s settings o = .ok y := by
  unfold attempt
  cases hops : d.operations with
  | nil => simp
  | cons o later =>
    simp only [List.head?_cons, Option.mem_def, Option.some.injEq, forall_eq']
    constructor
    . rintro ⟨_, hx⟩
      rcases bind_eq_ok_iff.mp hx with ⟨y, hy, _⟩
      exact ⟨y, hy⟩
    . rintro ⟨y, hy⟩
      exact ⟨_, bind_eq_ok_iff.mpr ⟨y, hy, rfl⟩⟩

theorem outcome_of_nil (hd : d.operations = []) : d.outcome s t settings = .ok (none, []) := by
  unfold outcome
  rw [attempt_of_nil hd]
  simp [Except.map]

theorem attempt_cases {o : Operation} {later : List Operation} (hd : d.operations = o :: later)
    (hx : d.attempt s t settings = .ok x) :
    ∃ ps, Attempt s t settings o x.1 ps ∧
      Event.problems x.2 = ps ++ later.map fun o' => .laterOperation o' o := by
  unfold attempt at hx
  rw [hd] at hx
  rcases bind_eq_ok_iff.mp hx with ⟨y, hfirst, heq⟩
  cases heq
  refine ⟨Event.problems y.2, DefinitionTable.attempt_cases hfirst, ?_⟩
  rw [Event.problems_append, ← Event.problems_map_problem (later.map _), List.map_map]
  rfl

theorem attempt_path (hx : d.attempt s t settings = .ok x) {q : CompiledQuery} (hq : q ∈ x.1) :
    q.path = d.path := by
  cases hops : d.operations with
  | nil =>
    rw [attempt_of_nil hops] at hx
    cases hx
    cases hq
  | cons o later =>
    rcases attempt_cases hops hx with ⟨ps, hattempt, _⟩
    rw [Option.mem_def.mp hq] at hattempt
    rw [hattempt.path_eq]
    exact operation_file (by simp [hops])

theorem outcome_eq_ok_iff :
    d.outcome s t settings = .ok x ↔ ∃ y, d.attempt s t settings = .ok y ∧
      (if d.operations.length ≤ 1 then y.1 else none, y.2) = x :=
  map_eq_ok_iff

theorem outcome_cases {o : Operation} {later : List Operation} (hd : d.operations = o :: later)
    (hx : d.outcome s t settings = .ok x) :
    ∃ query? ps, Attempt s t settings o query? ps ∧ x.1 = (if later = [] then query? else none) ∧
      Event.problems x.2 = ps ++ later.map fun o' => .laterOperation o' o := by
  rcases outcome_eq_ok_iff.mp hx with ⟨y, hy, rfl⟩
  rcases attempt_cases hd hy with ⟨ps, hattempt, hproblems⟩
  refine ⟨_, _, hattempt, ?_, hproblems⟩
  rw [hd]
  cases later <;> simp

theorem outcome_path (hx : d.outcome s t settings = .ok x) {q : CompiledQuery} (hq : q ∈ x.1) :
    q.path = d.path := by
  rcases outcome_eq_ok_iff.mp hx with ⟨y, hy, rfl⟩
  dsimp only at hq
  split at hq
  . exact attempt_path hy hq
  . cases hq

theorem outcome_problem (hx : d.outcome s t settings = .ok x) {p : Problem}
    (hp : p ∈ Event.problems x.2) : p.file = d.path ∧ p.kind ≠ .duplicateFragment := by
  cases hops : d.operations with
  | nil =>
    rw [outcome_of_nil hops] at hx
    cases hx
    cases hp
  | cons o later =>
    have hfile : ∀ o' ∈ o :: later, o'.site.file = d.path := by
      rw [← hops]
      exact fun _ => operation_file
    rcases outcome_cases hops hx with ⟨query?, ps, hattempt, _, hproblems⟩
    rw [hproblems] at hp
    rcases List.mem_append.mp hp with hp | hp
    . rcases hattempt.problem_cases hp with ⟨hpfile, hkind, _⟩
      exact ⟨hpfile.trans (hfile o (by simp)), hkind⟩
    . rcases List.mem_map.mp hp with ⟨o', ho', rfl⟩
      exact ⟨hfile o' (by simp [ho']), by simp [Problem.kind]⟩

end SourceDocument

open DefinitionTable

theorem filter_flatMap_of_forall₂ {α β γ : Type} {r : α → β → Prop} {as : List α} {bs : List β}
    {path : α → String} (key : γ → String) (pick : β → List γ) (h : List.Forall₂ r as bs)
    (hkey : ∀ a b, r a b → ∀ c ∈ pick b, key c = path a) (hnodup : (as.map path).Nodup) :
    (∀ a ∈ as, ∃ b, r a b ∧ (bs.flatMap pick).filter (key · == path a) = pick b) ∧
      ∀ p ∉ as.map path, (bs.flatMap pick).filter (key · == p) = [] := by
  induction h with
  | nil => simp
  | @cons a b as bs hab _ ih =>
    rw [List.map_cons, List.nodup_cons] at hnodup
    rcases ih hnodup.2 with ⟨hmem, hnot⟩
    constructor
    . intro a' ha'
      simp only [List.flatMap_cons, List.filter_append]
      rcases List.mem_cons.mp ha' with rfl | ha'
      . refine ⟨b, hab, ?_⟩
        rw [hnot _ hnodup.1, List.append_nil, List.filter_eq_self]
        simpa using hkey _ _ hab
      . rcases hmem a' ha' with ⟨b', hab', heq⟩
        refine ⟨b', hab', ?_⟩
        rw [heq, List.filter_eq_nil_iff.mpr, List.nil_append]
        intro c hc
        have hne : path a ≠ path a' := fun heq => hnodup.1 (heq ▸ List.mem_map_of_mem ha')
        simpa [hkey _ _ hab c hc] using hne
    . intro p hp
      simp only [List.map_cons, List.mem_cons, not_or] at hp
      simp only [List.flatMap_cons, List.filter_append, hnot p hp.2, List.append_nil]
      rw [List.filter_eq_nil_iff]
      intro c hc
      simpa [hkey _ _ hab c hc] using fun heq : path a = p => hp.1 heq.symm

variable {s : Schema} {t : DefinitionTable} {settings : PassSettings} {docs : List SourceDocument}
variable {c : Compilation} {d : SourceDocument}

theorem filter_conflicted {conflicted : List String}
    {attempts : List (Option CompiledQuery × List Event)}
    (h : List.Forall₂ (fun d x => d.attempt s t settings = .ok x) docs attempts)
    (hconflicted : ∀ d ∈ docs, d.path ∈ conflicted ↔ 1 < d.operations.length) :
    ∃ found, List.Forall₂ (fun d x => d.outcome s t settings = .ok x) docs found ∧
      (attempts.flatMap (·.1.toList)).filter (fun q => !conflicted.contains q.path) =
        found.flatMap (·.1.toList) ∧
      attempts.flatMap (·.2) = found.flatMap (·.2) := by
  induction h with
  | nil => exact ⟨[], .nil, rfl, rfl⟩
  | @cons d x docs attempts hx _ ih =>
    rw [List.forall_mem_cons] at hconflicted
    rcases ih hconflicted.2 with ⟨found, hfound, hqueries, hevents⟩
    refine ⟨_ :: found, .cons (SourceDocument.outcome_eq_ok_iff.mpr ⟨x, hx, rfl⟩) hfound, ?_, ?_⟩
    -- A path is left out as a whole, and its query is only that of this document.
    . rw [List.flatMap_cons, List.flatMap_cons, List.filter_append, hqueries]
      congr 1
      dsimp only
      split
      next hlength =>
        rw [List.filter_eq_self]
        intro q hq
        rw [SourceDocument.attempt_path hx (Option.mem_toList.mp hq)]
        simpa [hconflicted.1] using hlength
      next hlength =>
        rw [Option.toList_none, List.filter_eq_nil_iff]
        intro q hq
        rw [SourceDocument.attempt_path hx (Option.mem_toList.mp hq)]
        simpa [hconflicted.1] using hlength
    . rw [List.flatMap_cons, List.flatMap_cons, hevents]

def acceptedOf (s : Schema) (docs : List SourceDocument) : List SourceDocument :=
  docs.filter (·.accepted s)

theorem nodup_acceptedOf (hnodup : (docs.map (·.path)).Nodup) :
    ((acceptedOf s docs).map (·.path)).Nodup :=
  hnodup.sublist (List.filter_sublist.map _)

theorem compileAll_operations (s : Schema) (settings : PassSettings)
    (hnodup : (docs.map (·.path)).Nodup) :
    ∃ r : Resolver, (∀ d ∈ acceptedOf s docs, d.path ∈ r.conflicted ↔ 1 < d.operations.length) ∧
      (Resolver.ofTable (ofDocuments s docs) settings.suggestionLimit).compileAll s
          (ofDocuments s docs) settings (ofDocuments s docs).operations =
        ((acceptedOf s docs).mapM (SourceDocument.attempt s (ofDocuments s docs) settings)).map
          fun xs => (r, xs.flatMap (·.1.toList), xs.flatMap (·.2)) := by
  have hstart := Resolver.processed_ofTable (ofDocuments s docs) settings.suggestionLimit
  have hnodup' := nodup_acceptedOf (s := s) hnodup
  rcases Resolver.compileAll_documents (s := s) hstart hnodup' (by simp) with ⟨r, hr, heq⟩
  rw [ofDocuments_operations]
  refine ⟨r, ?_, heq⟩
  intro d hd
  rw [hr.conflicted]
  constructor
  . rintro ⟨d', hd', hpath, hlength⟩
    cases List.inj_on_of_nodup_map hnodup' hd' hd hpath
    exact hlength
  . intro hlength
    exact ⟨d, hd, rfl, hlength⟩

theorem compile_spec (hnodup : (docs.map (·.path)).Nodup)
    (hc : compile s docs settings = .ok c) :
    ∃ collected found,
      empty.collectDocuments s docs = .ok (ofDocuments s docs, collected) ∧
      List.Forall₂ (fun d x => d.outcome s (ofDocuments s docs) settings = .ok x)
        (acceptedOf s docs) found ∧
      c.queries = found.flatMap (·.1.toList) ∧
      c.problems = Event.problems collected ++ found.flatMap (Event.problems ·.2) := by
  rcases bind_eq_ok_iff.mp hc with ⟨⟨t, collected⟩, hcollect, hrest⟩
  rcases collect_eq_ok_iff.mp hcollect with ⟨_, events, hevents, heq⟩
  cases heq
  rcases bind_eq_ok_iff.mp hrest with ⟨⟨r, queries, later⟩, hall, hend⟩
  rcases compileAll_operations s settings hnodup with ⟨r', hconflicted, heq⟩
  rw [heq, map_eq_ok_iff] at hall
  rcases hall with ⟨attempts, hattempts, heq⟩
  cases heq
  cases hend
  rcases filter_conflicted (mapM_eq_ok_iff.mp hattempts) hconflicted with
    ⟨found, hfound, hqueries, hsame⟩
  refine ⟨events, found, hevents, hfound, hqueries, ?_⟩
  rw [← Event.problems_flatMap, ← hsame, Compilation.problems]
  simp only [Event.problems_append]
  rw [Event.problems_log rfl, Event.problems_log rfl, List.append_nil, List.append_nil]

theorem compile_document (hnodup : (docs.map (·.path)).Nodup)
    (hc : compile s docs settings = .ok c) :
    ∃ collected, empty.collectDocuments s docs = .ok (ofDocuments s docs, collected) ∧
      ∀ d ∈ docs, ∃ x,
        (if d.accepted s then d.outcome s (ofDocuments s docs) settings else .ok (none, [])) =
          .ok x ∧
        c.query? d.path = x.1 ∧
        Problem.under d.path c.problems =
          Problem.under d.path (Event.problems collected) ++ Event.problems x.2 := by
  rcases compile_spec hnodup hc with ⟨collected, found, hcollected, hfound, hqueries, hproblems⟩
  refine ⟨collected, hcollected, ?_⟩
  have hnodup' := nodup_acceptedOf (s := s) hnodup
  have hpaths := filter_flatMap_of_forall₂ CompiledQuery.path (fun x => x.1.toList) hfound
    (fun d x hx q hq => SourceDocument.outcome_path hx (Option.mem_toList.mp hq)) hnodup'
  have hfiles := filter_flatMap_of_forall₂ Problem.file (fun x => Event.problems x.2) hfound
    (fun d x hx p hp => (SourceDocument.outcome_problem hx hp).1) hnodup'
  rw [← hqueries] at hpaths
  intro d hd
  unfold Compilation.query?
  rw [← List.head?_filter, hproblems, Problem.under_append]
  by_cases hacc : d.accepted s
  . have hmem : d ∈ acceptedOf s docs := List.mem_filter.mpr ⟨hd, hacc⟩
    rcases hpaths.1 d hmem with ⟨x, hx, hquery⟩
    rcases hfiles.1 d hmem with ⟨x', hx', hfile⟩
    rw [hx, Except.ok.injEq] at hx'
    subst hx'
    refine ⟨x, by rw [if_pos hacc, hx], ?_, ?_⟩
    . rw [hquery]
      cases x.1 <;> rfl
    . rw [Problem.under, Problem.under, hfile]
  . have hmem : d.path ∉ (acceptedOf s docs).map (·.path) := by
      intro hmem
      rcases List.mem_map.mp hmem with ⟨d', hd', hpath⟩
      rcases List.mem_filter.mp hd' with ⟨hd', hacc'⟩
      cases List.inj_on_of_nodup_map hnodup hd' hd hpath
      exact hacc hacc'
    refine ⟨(none, []), by rw [if_neg hacc], ?_, ?_⟩
    . rw [hpaths.2 _ hmem]
      rfl
    . rw [Problem.under, Problem.under, hfiles.2 _ hmem]
      rfl

def SourceDocument.Ends (s : Schema) (t : DefinitionTable) (settings : PassSettings)
    (d : SourceDocument) : Prop :=
  d.Checked s ∧ (d.accepted s → ∃ x, d.attempt s t settings = .ok x)

theorem exists_compile_iff (hnodup : (docs.map (·.path)).Nodup) :
    (∃ c, compile s docs settings = .ok c) ↔ (docs = [] ∨ s.flaws = []) ∧
      ∀ d ∈ docs, d.Ends s (ofDocuments s docs) settings := by
  rcases compileAll_operations s settings hnodup with ⟨r, _, heq⟩
  have hattempts : (∀ d ∈ acceptedOf s docs,
      ∃ x, d.attempt s (ofDocuments s docs) settings = .ok x) ↔
      ∃ xs, (acceptedOf s docs).mapM (SourceDocument.attempt s (ofDocuments s docs) settings) =
        .ok xs := by
    simp only [mapM_eq_ok_iff]
    exact exists_forall₂_iff.symm
  have hsplit : (∀ d ∈ docs, d.Ends s (ofDocuments s docs) settings) ↔
      (∀ d ∈ docs, d.Checked s) ∧
        ∃ xs, (acceptedOf s docs).mapM (SourceDocument.attempt s (ofDocuments s docs) settings) =
          .ok xs := by
    rw [← hattempts]
    simp only [acceptedOf, List.mem_filter]
    exact ⟨fun h => ⟨fun d hd => (h d hd).1, fun d hd => (h d hd.1).2 hd.2⟩,
      fun h d hd => ⟨h.1 d hd, fun hacc => h.2 d ⟨hd, hacc⟩⟩⟩
  rw [hsplit, ← exists_collectDocuments_iff empty]
  unfold compile
  constructor
  . rintro ⟨c, hc⟩
    rcases bind_eq_ok_iff.mp hc with ⟨⟨t, collected⟩, hcollect, hrest⟩
    rcases collect_eq_ok_iff.mp hcollect with ⟨hschema, events, hevents, hsame⟩
    cases hsame
    rcases bind_eq_ok_iff.mp hrest with ⟨_, hall, _⟩
    rw [heq, map_eq_ok_iff] at hall
    rcases hall with ⟨xs, hxs, _⟩
    exact ⟨hschema, ⟨_, hevents⟩, xs, hxs⟩
  . rintro ⟨hschema, ⟨⟨t, events⟩, hevents⟩, xs, hxs⟩
    cases collectDocuments_table hevents
    have hcollect := collect_eq_ok_iff.mpr ⟨hschema, _, hevents, rfl⟩
    rw [hcollect]
    simp only [bind, Except.bind, heq, hxs, Except.map]
    exact ⟨_, rfl⟩

end QueryLinker
