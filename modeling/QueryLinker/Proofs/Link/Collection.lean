import QueryLinker.Link.Collection
import QueryLinker.Proofs.Except
import QueryLinker.Proofs.Link.Table

/-!
This module contains what the collection of documents comes to: the table of the documents that are
right by themselves, and under each other one what is wrong with it.
-/

namespace QueryLinker

open Validation

namespace Event

theorem problems_append (events later : List Event) :
    problems (events ++ later) = problems events ++ problems later :=
  List.filterMap_append

theorem problems_map_problem (ps : List Problem) : problems (ps.map .problem) = ps := by
  unfold problems
  rw [List.filterMap_map]
  exact List.filterMap_some

theorem problems_flatMap {α : Type} (as : List α) (events : α → List Event) :
    problems (as.flatMap events) = as.flatMap fun a => problems (events a) :=
  List.filterMap_flatMap

theorem problems_log {e : Event} (he : e.problem? = none) : problems [e] = [] := by
  simp [problems, he]

theorem problems_summed_up (ps : List Problem) {e : Event} (he : e.problem? = none) :
    problems (ps.map .problem ++ [e]) = ps := by
  rw [problems_append, problems_map_problem, problems_log he, List.append_nil]

end Event

namespace Problem

def isDuplicate (p : Problem) : Bool :=
  p.kind == .duplicateFragment

def under (path : String) (ps : List Problem) : List Problem :=
  ps.filter (·.file == path)

/-- The problems that are filed under a path, without those of two fragments of one name. -/
def ownUnder (path : String) (ps : List Problem) : List Problem :=
  (under path ps).filter (!·.isDuplicate)

theorem under_append (path : String) (ps qs : List Problem) :
    under path (ps ++ qs) = under path ps ++ under path qs :=
  List.filter_append _ _

theorem under_of_forall {path : String} {ps : List Problem} (h : ∀ p ∈ ps, p.file = path) :
    under path ps = ps := by
  rw [under, List.filter_eq_self]
  simpa using h

theorem under_of_forall_ne {path path' : String} {ps : List Problem}
    (h : ∀ p ∈ ps, p.file = path') (hne : path' ≠ path) : under path ps = [] := by
  rw [under, List.filter_eq_nil_iff]
  intro p hp
  simpa [h p hp] using hne

end Problem

namespace SourceDocument

/-- Whether nothing is wrong with the document by itself. -/
def accepted (s : Schema) (d : SourceDocument) : Bool :=
  match validateStructure s d.document with
  | .ok [] => true
  | _ => false

theorem accepted_iff {s : Schema} {d : SourceDocument} :
    d.accepted s ↔ validateStructure s d.document = .ok [] := by
  unfold accepted
  split
  next h => simp [h]
  next h => simpa using h

/-- Whether it can be told what is wrong with the document by itself. -/
def Checked (s : Schema) (d : SourceDocument) : Prop :=
  ∃ errors, validateStructure s d.document = .ok errors

def structuralProblems (s : Schema) (d : SourceDocument) : List Problem :=
  match validateStructure s d.document with
  | .ok errors => errors.map d.structuralProblem
  | .error _ => []

end SourceDocument

namespace DefinitionTable

def addDocuments (t : DefinitionTable) (docs : List SourceDocument) : DefinitionTable :=
  docs.foldl (fun t d => (t.addDocument d).1) t

def ofDocuments (s : Schema) (docs : List SourceDocument) : DefinitionTable :=
  empty.addDocuments (docs.filter (·.accepted s))

theorem Represents.addDocuments {t : DefinitionTable} {fs : List Fragment} (h : t.Represents fs)
    (docs : List SourceDocument) :
    (t.addDocuments docs).Represents (fs ++ docs.flatMap (·.fragments)) := by
  induction docs generalizing t fs with
  | nil =>
    rw [List.flatMap_nil, List.append_nil]
    exact h
  | cons d docs ih =>
    rw [List.flatMap_cons, ← List.append_assoc]
    exact ih (h.addDocument d)

theorem addDocuments_operations (t : DefinitionTable) (docs : List SourceDocument) :
    (t.addDocuments docs).operations = t.operations ++ docs.flatMap (·.operations) := by
  induction docs generalizing t with
  | nil => simp [addDocuments]
  | cons d docs ih =>
    rw [List.flatMap_cons, ← List.append_assoc, ← addDocument_operations]
    exact ih _

theorem ofDocuments_represents (s : Schema) (docs : List SourceDocument) :
    (ofDocuments s docs).Represents ((docs.filter (·.accepted s)).flatMap (·.fragments)) :=
  Represents.empty.addDocuments _

theorem ofDocuments_operations (s : Schema) (docs : List SourceDocument) :
    (ofDocuments s docs).operations = (docs.filter (·.accepted s)).flatMap (·.operations) :=
  empty.addDocuments_operations _

variable {s : Schema} {t t' : DefinitionTable} {d : SourceDocument} {docs : List SourceDocument}
variable {events : List Event}

theorem collectDocument_of_accepted (h : d.accepted s) :
    t.collectDocument s d = .ok (t.addDocument d) := by
  rw [SourceDocument.accepted_iff] at h
  simp only [collectDocument, h]
  rfl

theorem collectDocument_of_rejected {errors : List Graphql.Error} (h : ¬ d.accepted s)
    (hd : validateStructure s d.document = .ok errors) :
    t.collectDocument s d = .ok (t, errors.map (fun e => .problem (d.structuralProblem e)) ++
      [.rejected d.path errors.length]) := by
  rw [SourceDocument.accepted_iff, hd, Except.ok.injEq] at h
  simp only [collectDocument, hd]
  rfl

theorem collectDocument_of_unchecked {failure : Failure}
    (hd : validateStructure s d.document = .error failure) :
    t.collectDocument s d = .error (.rule failure) := by
  simp only [collectDocument, hd]
  rfl

theorem collectDocument_spec (t : DefinitionTable) (hd : d.Checked s) :
    ∃ events, t.collectDocument s d =
        .ok (if d.accepted s then (t.addDocument d).1 else t, events) ∧
      (∀ p ∈ Event.problems events, p.file = d.path) ∧
      (Event.problems events).filter (!·.isDuplicate) = d.structuralProblems s := by
  rcases hd with ⟨errors, hd⟩
  unfold SourceDocument.structuralProblems
  rw [hd]
  dsimp only
  by_cases hacc : d.accepted s
  . refine ⟨_, by rw [if_pos hacc]; exact collectDocument_of_accepted hacc,
      fun p hp => (problem_of_addDocument hp).2, ?_⟩
    rw [SourceDocument.accepted_iff, hd] at hacc
    cases hacc
    rw [List.map_nil, List.filter_eq_nil_iff]
    intro p hp
    simp [Problem.isDuplicate, (problem_of_addDocument hp).1]
  . refine ⟨_, by rw [if_neg hacc]; exact collectDocument_of_rejected hacc hd, ?_⟩
    have hproblems : Event.problems (errors.map (fun e => .problem (d.structuralProblem e)) ++
        [.rejected d.path errors.length]) = errors.map d.structuralProblem := by
      rw [← Event.problems_summed_up (errors.map d.structuralProblem)
        (e := .rejected d.path errors.length) rfl, List.map_map]
      rfl
    rw [hproblems]
    refine ⟨List.forall_mem_map.mpr fun _ _ => rfl, ?_⟩
    rw [List.filter_eq_self]
    exact List.forall_mem_map.mpr fun _ _ => rfl

theorem collectDocuments_cons_eq_ok {x : DefinitionTable × List Event} :
    t.collectDocuments s (d :: docs) = .ok x ↔
      ∃ t₁ events, t.collectDocument s d = .ok (t₁, events) ∧
        ∃ t₂ later, t₁.collectDocuments s docs = .ok (t₂, later) ∧ (t₂, events ++ later) = x := by
  simp only [collectDocuments, bind_eq_ok_iff, Prod.exists, pure, Except.pure, Except.ok.injEq]

theorem collectDocument_eq_ok (h : t.collectDocument s d = .ok (t', events)) :
    d.Checked s ∧ t' = (if d.accepted s then (t.addDocument d).1 else t) ∧
      (∀ p ∈ Event.problems events, p.file = d.path) ∧
      (Event.problems events).filter (!·.isDuplicate) = d.structuralProblems s := by
  cases hd : validateStructure s d.document with
  | error failure =>
    rw [collectDocument_of_unchecked hd] at h
    cases h
  | ok errors =>
    rcases collectDocument_spec t ⟨errors, hd⟩ with ⟨events', heq, hfile, hown⟩
    rw [h] at heq
    cases heq
    exact ⟨⟨errors, hd⟩, rfl, hfile, hown⟩

theorem exists_collectDocuments_iff (t : DefinitionTable) :
    (∃ x, t.collectDocuments s docs = .ok x) ↔ ∀ d ∈ docs, d.Checked s := by
  induction docs generalizing t with
  | nil => simp [collectDocuments]
  | cons d docs ih =>
    rw [List.forall_mem_cons]
    constructor
    . rintro ⟨x, hx⟩
      rcases collectDocuments_cons_eq_ok.mp hx with ⟨t₁, events, hd, t₂, later, hdocs, _⟩
      exact ⟨(collectDocument_eq_ok hd).1, (ih t₁).mp ⟨_, hdocs⟩⟩
    . rintro ⟨hd, hdocs⟩
      rcases collectDocument_spec t hd with ⟨events, heq, _⟩
      rcases (ih _).mpr hdocs with ⟨⟨t₂, later⟩, hlater⟩
      exact ⟨_, collectDocuments_cons_eq_ok.mpr ⟨_, _, heq, _, _, hlater, rfl⟩⟩

theorem collectDocuments_table (h : t.collectDocuments s docs = .ok (t', events)) :
    t' = t.addDocuments (docs.filter (·.accepted s)) := by
  induction docs generalizing t t' events with
  | nil =>
    cases h
    rfl
  | cons d docs ih =>
    rcases collectDocuments_cons_eq_ok.mp h with ⟨t₁, _, hd, t₂, _, hdocs, heq⟩
    cases heq
    rw [ih hdocs, (collectDocument_eq_ok hd).2.1]
    by_cases hacc : d.accepted s
    . rw [if_pos hacc, List.filter_cons_of_pos hacc]
      rfl
    . rw [if_neg hacc, List.filter_cons_of_neg hacc]

theorem collectDocuments_file (h : t.collectDocuments s docs = .ok (t', events)) {p : Problem}
    (hp : p ∈ Event.problems events) : p.file ∈ docs.map (·.path) := by
  induction docs generalizing t t' events with
  | nil =>
    cases h
    simp [Event.problems] at hp
  | cons d docs ih =>
    rcases collectDocuments_cons_eq_ok.mp h with ⟨t₁, _, hd, t₂, _, hdocs, heq⟩
    cases heq
    rw [Event.problems_append] at hp
    rcases List.mem_append.mp hp with hp | hp
    . simp [(collectDocument_eq_ok hd).2.2.1 p hp]
    . exact List.mem_cons_of_mem _ (ih hdocs hp)

theorem under_collected_of_not_mem {path : String}
    (h : t.collectDocuments s docs = .ok (t', events)) (hpath : path ∉ docs.map (·.path)) :
    Problem.under path (Event.problems events) = [] := by
  rw [Problem.under, List.filter_eq_nil_iff]
  intro p hp hfile
  rw [beq_iff_eq] at hfile
  exact hpath (hfile ▸ collectDocuments_file h hp)

theorem collectDocuments_own (hnodup : (docs.map (·.path)).Nodup)
    (h : t.collectDocuments s docs = .ok (t', events)) (hd : d ∈ docs) :
    Problem.ownUnder d.path (Event.problems events) = d.structuralProblems s := by
  induction docs generalizing t t' events with
  | nil => cases hd
  | cons d' docs ih =>
    rcases collectDocuments_cons_eq_ok.mp h with ⟨t₁, _, hd', t₂, later, hdocs, heq⟩
    cases heq
    rcases (collectDocument_eq_ok hd').2.2 with ⟨hfile, hown⟩
    rw [List.map_cons, List.nodup_cons] at hnodup
    rw [Event.problems_append]
    rcases List.mem_cons.mp hd with rfl | hd
    . rw [Problem.ownUnder, Problem.under_append, under_collected_of_not_mem hdocs hnodup.1,
        List.append_nil, Problem.under_of_forall hfile, hown]
    . have hne : d'.path ≠ d.path := fun heq => hnodup.1 (heq ▸ List.mem_map_of_mem hd)
      rw [Problem.ownUnder, Problem.under_append, Problem.under_of_forall_ne hfile hne]
      exact ih hnodup.2 hdocs hd

theorem collect_eq (s : Schema) (docs : List SourceDocument) :
    collect s docs =
      if docs = [] ∨ s.flaws = [] then do
        let (t, events) ← empty.collectDocuments s docs
        return (t, events ++ [.collected t.operations.length t.fragments.length])
      else .error (.invalidSchema s.flaws) := by
  unfold collect checkSchema
  cases docs with
  | nil => rfl
  | cons d docs =>
    cases hflaws : s.flaws with
    | nil => simp [bind, Except.bind]
    | cons flaw flaws => simp [bind, Except.bind]

theorem collect_eq_ok_iff {x : DefinitionTable × List Event} :
    collect s docs = .ok x ↔ (docs = [] ∨ s.flaws = []) ∧
      ∃ events, empty.collectDocuments s docs = .ok (ofDocuments s docs, events) ∧
        (ofDocuments s docs, events ++ [.collected (ofDocuments s docs).operations.length
          (ofDocuments s docs).fragments.length]) = x := by
  rw [collect_eq]
  split
  next hschema =>
    simp only [bind_eq_ok_iff, Prod.exists, pure, Except.pure, Except.ok.injEq]
    constructor
    . rintro ⟨t, events, hdocs, rfl⟩
      cases collectDocuments_table hdocs
      exact ⟨hschema, events, hdocs, rfl⟩
    . rintro ⟨_, events, hdocs, rfl⟩
      exact ⟨_, events, hdocs, rfl⟩
  next hschema => simp [hschema]

end DefinitionTable

end QueryLinker
