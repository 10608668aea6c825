import QueryLinker.Proofs.Link.Collection
import QueryLinker.Proofs.Project.SourceFile
import QueryLinker.Proofs.Project.TaggedTemplate

/-!
This module contains what the files of a project come to when they are read: each file by itself has
a document, holds no GraphQL, or has a text that does not parse. Only a file that is no text, or one
of whose templates ends inside an escape, keeps the others from being read.
-/

namespace QueryLinker

open Graphql

namespace SourceFile

/--
The GraphQL texts of a file: the whole text of a file of GraphQL, and of any other file the bodies
of its tagged templates that are not blank.
-/
inductive GraphqlTexts (path text : String) : List String → Prop where
  | whole (hpath : path.endsWith ".graphql" ∨ path.endsWith ".gql") :
      GraphqlTexts path text [text]
  | tagged {chosen : List TaggedTemplate.Stretch}
      (hpath : ¬ (path.endsWith ".graphql" ∨ path.endsWith ".gql"))
      (hchosen : TaggedTemplate.Chosen text.toList 0 chosen) :
      GraphqlTexts path text
        ((chosen.filter (!·.isBlank)).map fun stretch => String.ofList stretch.body)

def operationsOf (path : String) (part : Nat) : List String → List OperationDefinition
  | [] => []
  | body :: bodies =>
    (match Graphql.parse { origin := ⟨path, part⟩, body } with
    | .ok d => d.operations
    | .error _ => []) ++ operationsOf path (part + 1) bodies

def outcome (path text : String) : Except ReadFailure (Option SourceDocument × List Problem) :=
  match document? path text with
  | .ok d? => .ok (d?, [])
  | .error (.unparsable site failure) =>
    if failure.isCutEscape then .error .cutEscape else .ok (none, [.unparsable site failure])
  | .error problem => .ok (none, [problem])

def readOne (tree : FileTree) (cwd path : String) :
    Except ReadFailure (Option SourceDocument × List Problem) := do
  outcome path (← text tree cwd path)

end SourceFile

/-- The GraphQL texts of a file have the given definitions of operations. -/
def FileTree.HoldsOperations (tree : FileTree) (cwd path : String)
    (operations : List OperationDefinition) : Prop :=
  ∃ text texts, SourceFile.text tree cwd path = .ok text ∧
    SourceFile.GraphqlTexts path text texts ∧ SourceFile.operationsOf path 0 texts = operations

/-- A file keeps no other from being read: it is text, and no template in it ends in an escape. -/
def FileTree.Tells (tree : FileTree) (cwd path : String) : Prop :=
  ∃ text, SourceFile.text tree cwd path = .ok text ∧
    ∀ site failure, SourceFile.document? path text = .error (.unparsable site failure) →
      ¬ failure.isCutEscape

namespace SourceFile

variable {tree : FileTree} {cwd path text : String} {paths : List String} {d : SourceDocument}
variable {docs : List SourceDocument} {ps : List Problem}

theorem exists_graphqlTexts (path text : String) : ∃ texts, GraphqlTexts path text texts := by
  by_cases hpath : path.endsWith ".graphql" ∨ path.endsWith ".gql"
  . exact ⟨_, .whole hpath⟩
  . rcases TaggedTemplate.exists_chosen [] text.toList with ⟨chosen, hchosen, _⟩
    exact ⟨_, .tagged hpath hchosen⟩

theorem isGraphql_iff : isGraphql path ↔ path.endsWith ".graphql" ∨ path.endsWith ".gql" := by
  simp [isGraphql, graphqlEndings]

theorem operationsOf_blank (path : String) {text : String} (h : Text.isBlankText text) :
    operationsOf path 0 [text] = [] := by
  have hbody : Text.isBlankText (Source.mk ⟨path, 0⟩ text []).body := h
  rcases exists_parse_of_blank hbody with ⟨e, he⟩
  rw [operationsOf, he]
  rfl

theorem operationsOf_templates {texts : List String} (h : GraphqlTexts path text texts) :
    operationsOf path 0 texts = operationsOf path 0 ((templates path text).map (·.body)) := by
  unfold templates
  cases h with
  | whole hpath =>
    rw [if_pos (isGraphql_iff.mpr hpath)]
    split
    next hblank => exact operationsOf_blank path hblank
    next => rfl
  | tagged hpath hchosen =>
    rcases TaggedTemplate.exists_chosen [] text.toList with ⟨chosen, hchosen', hscan⟩
    rw [if_neg (mt isGraphql_iff.mp hpath), TaggedTemplate.extract, hscan, hchosen'.unique hchosen,
      List.map_map]
    rfl

theorem parseTemplates_operations {part : Nat} {ts : List TaggedTemplate}
    {found : List (TemplateLocation × Definition)} (h : parseTemplates path part ts = .ok found) :
    (Document.mk (found.map (·.2))).operations = operationsOf path part (ts.map (·.body)) := by
  induction ts generalizing part found with
  | nil =>
    cases h
    rfl
  | cons t ts ih =>
    unfold parseTemplates at h
    rw [List.map_cons, operationsOf]
    split at h
    . cases h
    next d hparse =>
      rcases bind_eq_ok_iff.mp h with ⟨later, hlater, heq⟩
      cases heq
      rw [hparse, ← ih hlater]
      unfold Document.operations
      rw [List.map_append, List.filterMap_append, List.map_map]
      simp

theorem parseTemplates_error {part : Nat} {ts : List TaggedTemplate} {problem : Problem}
    (h : parseTemplates path part ts = .error problem) :
    ∃ place failure, problem = .unparsable ⟨path, place⟩ failure := by
  induction ts generalizing part with
  | nil => cases h
  | cons t ts ih =>
    unfold parseTemplates at h
    split at h
    . cases h
      exact ⟨_, _, rfl⟩
    . cases hlater : parseTemplates path (part + 1) ts with
      | ok later =>
        rw [hlater] at h
        cases h
      | error other =>
        rw [hlater] at h
        cases h
        exact ih hlater

theorem document?_error {problem : Problem} (h : document? path text = .error problem) :
    ∃ place failure, problem = .unparsable ⟨path, place⟩ failure := by
  unfold document? at h
  split at h
  . cases h
  next first others _ =>
    dsimp only at h
    cases hparse : parseTemplates path 0 (first :: others) with
    | ok found =>
      rw [hparse] at h
      cases h
    | error other =>
      rw [hparse] at h
      cases h
      exact parseTemplates_error hparse

theorem document?_none (h : document? path text = .ok none) : templates path text = [] := by
  unfold document? at h
  split at h
  next hnone => exact hnone
  next first others _ =>
    rcases bind_eq_ok_iff.mp h with ⟨found, _, heq⟩
    cases heq

theorem document?_some (h : document? path text = .ok (some d)) :
    d.path = path ∧
      d.document.operations = operationsOf path 0 ((templates path text).map (·.body)) := by
  unfold document? at h
  split at h
  . cases h
  next first others htemplates =>
    rcases bind_eq_ok_iff.mp h with ⟨found, hfound, heq⟩
    cases heq
    rw [htemplates, ← parseTemplates_operations hfound]
    exact ⟨rfl, rfl⟩

theorem holdsOperations_iff {d? : Option SourceDocument} {operations : List OperationDefinition}
    (htext : SourceFile.text tree cwd path = .ok text) (h : document? path text = .ok d?) :
    tree.HoldsOperations cwd path operations ↔
      operations = d?.toList.flatMap (·.document.operations) := by
  have hdocument : operationsOf path 0 ((templates path text).map (·.body)) =
      d?.toList.flatMap (·.document.operations) := by
    cases d? with
    | none =>
      rw [document?_none h]
      rfl
    | some d =>
      rw [← (document?_some h).2]
      simp
  constructor
  . rintro ⟨text', texts, htext', htexts, rfl⟩
    cases htext.symm.trans htext'
    rw [operationsOf_templates htexts, hdocument]
  . rintro rfl
    rcases exists_graphqlTexts path text with ⟨texts, htexts⟩
    exact ⟨text, texts, htext, htexts, (operationsOf_templates htexts).trans hdocument⟩

theorem outcome_cases {x : Option SourceDocument × List Problem} (h : outcome path text = .ok x) :
    document? path text = .ok x.1 ∧ x.2 = [] ∨
      x.1 = none ∧ ∃ place failure,
        document? path text = .error (.unparsable ⟨path, place⟩ failure) ∧
        ¬ failure.isCutEscape ∧ x.2 = [.unparsable ⟨path, place⟩ failure] := by
  unfold outcome at h
  cases hdocument : document? path text with
  | ok d? =>
    rw [hdocument] at h
    cases h
    exact .inl ⟨rfl, rfl⟩
  | error problem =>
    rcases document?_error hdocument with ⟨place, failure, rfl⟩
    rw [hdocument] at h
    dsimp only at h
    split at h
    . cases h
    next hcut =>
      cases h
      exact .inr ⟨rfl, place, failure, rfl, hcut, rfl⟩

theorem exists_outcome_iff : (∃ x, outcome path text = .ok x) ↔
    ∀ site failure, document? path text = .error (.unparsable site failure) →
      ¬ failure.isCutEscape := by
  constructor
  . rintro ⟨x, hx⟩ site failure hdocument
    rcases outcome_cases hx with ⟨hsome, _⟩ | ⟨_, place, failure', herror, hcut, _⟩
    . rw [hdocument] at hsome
      cases hsome
    . rw [hdocument] at herror
      cases herror
      exact hcut
  . intro h
    unfold outcome
    cases hdocument : document? path text with
    | ok d? => exact ⟨_, rfl⟩
    | error problem =>
      rcases document?_error hdocument with ⟨place, failure, rfl⟩
      dsimp only
      rw [if_neg (h _ _ hdocument)]
      exact ⟨_, rfl⟩

theorem exists_readOne_iff : (∃ x, readOne tree cwd path = .ok x) ↔ tree.Tells cwd path := by
  unfold readOne FileTree.Tells
  simp only [bind_eq_ok_iff, ← exists_outcome_iff]
  exact ⟨fun ⟨x, text, htext, hx⟩ => ⟨text, htext, x, hx⟩,
    fun ⟨text, htext, x, hx⟩ => ⟨x, text, htext, hx⟩⟩

theorem readAll_cons (tree : FileTree) (cwd path : String) (paths : List String) :
    readAll tree cwd (path :: paths) = do
      let x ← readOne tree cwd path
      let later ← readAll tree cwd paths
      return (x.1.toList ++ later.1, x.2 ++ later.2) := by
  rw [readAll]
  generalize readAll tree cwd paths = later
  unfold readOne outcome
  cases htext : SourceFile.text tree cwd path with
  | error failure => rfl
  | ok text =>
    simp only [bind, Except.bind]
    cases hdocument : document? path text with
    | ok d? => cases later <;> rfl
    | error problem =>
      rcases document?_error hdocument with ⟨place, failure, rfl⟩
      dsimp only
      split
      . rfl
      . cases later <;> rfl

theorem readAll_cons_eq_ok {read : List SourceDocument × List Problem} :
    readAll tree cwd (path :: paths) = .ok read ↔
      ∃ x, readOne tree cwd path = .ok x ∧ ∃ later, readAll tree cwd paths = .ok later ∧
        (x.1.toList ++ later.1, x.2 ++ later.2) = read := by
  rw [readAll_cons]
  simp only [bind_eq_ok_iff, pure, Except.pure, Except.ok.injEq]

theorem exists_readAll_iff : (∃ read, readAll tree cwd paths = .ok read) ↔
    ∀ path ∈ paths, tree.Tells cwd path := by
  induction paths with
  | nil => simp [readAll]
  | cons path paths ih =>
    rw [List.forall_mem_cons, ← ih, ← exists_readOne_iff]
    simp only [readAll_cons_eq_ok]
    exact ⟨fun ⟨_, x, hx, later, hlater, _⟩ => ⟨⟨x, hx⟩, later, hlater⟩,
      fun ⟨⟨x, hx⟩, later, hlater⟩ => ⟨_, x, hx, later, hlater, rfl⟩⟩

theorem readOne_path (h : readOne tree cwd path = .ok (some d, ps)) : d.path = path := by
  rcases bind_eq_ok_iff.mp h with ⟨text, _, houtcome⟩
  rcases outcome_cases houtcome with ⟨hdocument, _⟩ | ⟨hnone, _⟩
  . exact (document?_some hdocument).1
  . cases hnone

theorem mem_readAll (h : readAll tree cwd paths = .ok (docs, ps)) :
    d ∈ docs ↔ ∃ path ∈ paths, ∃ own, readOne tree cwd path = .ok (some d, own) := by
  induction paths generalizing docs ps with
  | nil =>
    cases h
    simp
  | cons path paths ih =>
    rcases readAll_cons_eq_ok.mp h with ⟨⟨d?, own⟩, hx, ⟨later, others⟩, hlater, heq⟩
    cases heq
    rw [List.mem_append, ih hlater, List.exists_mem_cons_iff, hx]
    simp [eq_comm]

theorem paths_sublist_of_readAll (h : readAll tree cwd paths = .ok (docs, ps)) :
    (docs.map (·.path)).Sublist paths := by
  induction paths generalizing docs ps with
  | nil =>
    cases h
    exact .slnil
  | cons path paths ih =>
    rcases readAll_cons_eq_ok.mp h with ⟨⟨d?, own⟩, hx, ⟨later, others⟩, hlater, heq⟩
    cases heq
    cases d? with
    | none => exact (ih hlater).cons _
    | some d =>
      rw [List.map_append, Option.toList_some, List.map_singleton, readOne_path hx]
      exact (ih hlater).cons_cons _

theorem path_ne_empty_of_readAll (h : readAll tree cwd paths = .ok (docs, ps)) :
    ∀ d ∈ docs, d.path ≠ "" := by
  intro d hd hempty
  rcases (mem_readAll h).mp hd with ⟨path, _, own, hone⟩
  rw [← readOne_path hone, hempty] at hone
  rcases bind_eq_ok_iff.mp hone with ⟨text, htext, _⟩
  exact text_empty tree cwd text htext

theorem exists_readOne_of_readAll (h : readAll tree cwd paths = .ok (docs, ps))
    (hpath : path ∈ paths) :
    ∃ d? own, readOne tree cwd path = .ok (d?, own) ∧ (∀ d ∈ d?, d ∈ docs) ∧ own ⊆ ps := by
  induction paths generalizing docs ps with
  | nil => cases hpath
  | cons first paths ih =>
    rcases readAll_cons_eq_ok.mp h with ⟨⟨d?, own⟩, hx, ⟨later, others⟩, hlater, heq⟩
    cases heq
    rcases List.mem_cons.mp hpath with rfl | hpath
    . exact ⟨d?, own, hx, fun d hd => List.mem_append_left _ (Option.mem_toList.mpr hd),
        List.subset_append_left _ _⟩
    . rcases ih hlater hpath with ⟨d?', own', hx', hdocs, hps⟩
      exact ⟨d?', own', hx', fun d hd => List.mem_append_right _ (hdocs d hd),
        List.Subset.trans hps (List.subset_append_right _ _)⟩

theorem document?_of_readAll (h : readAll tree cwd paths = .ok (docs, [])) (hpath : path ∈ paths) :
    ∃ text d?, SourceFile.text tree cwd path = .ok text ∧ document? path text = .ok d? ∧
      ∀ d ∈ d?, d ∈ docs := by
  rcases exists_readOne_of_readAll h hpath with ⟨d?, own, hone, hdocs, hown⟩
  rcases bind_eq_ok_iff.mp hone with ⟨text, htext, houtcome⟩
  rcases outcome_cases houtcome with ⟨hdocument, _⟩ | ⟨_, _, _, _, _, hproblem⟩
  . exact ⟨text, d?, htext, hdocument, hdocs⟩
  . dsimp only at hproblem
    rw [hproblem] at hown
    cases hown List.mem_cons_self

theorem holdsOperations_or_document (h : readAll tree cwd paths = .ok (docs, []))
    (hpath : path ∈ paths) :
    (∀ operations, tree.HoldsOperations cwd path operations ↔ operations = []) ∨
      ∃ d ∈ docs, d.path = path := by
  rcases document?_of_readAll h hpath with ⟨text, d?, htext, hdocument, hdocs⟩
  cases d? with
  | none => exact .inl fun _ => holdsOperations_iff htext hdocument
  | some d => exact .inr ⟨d, hdocs d rfl, (document?_some hdocument).1⟩

theorem holdsOperations_of_mem (h : readAll tree cwd paths = .ok (docs, ps)) (hd : d ∈ docs)
    (operations : List OperationDefinition) :
    tree.HoldsOperations cwd d.path operations ↔ operations = d.document.operations := by
  rcases (mem_readAll h).mp hd with ⟨path, _, own, hone⟩
  rw [readOne_path hone]
  rcases bind_eq_ok_iff.mp hone with ⟨text, htext, houtcome⟩
  rcases outcome_cases houtcome with ⟨hdocument, _⟩ | ⟨hnone, _⟩
  . rw [holdsOperations_iff htext hdocument]
    simp
  . cases hnone

theorem problem_file_of_readOne {d? : Option SourceDocument}
    (h : readOne tree cwd path = .ok (d?, ps)) : ∀ p ∈ ps, p.file = path := by
  rcases bind_eq_ok_iff.mp h with ⟨text, _, houtcome⟩
  rcases outcome_cases houtcome with ⟨_, hnone⟩ | ⟨_, place, failure, _, _, hone⟩
  . dsimp only at hnone
    rw [hnone]
    simp
  . dsimp only at hone
    rw [hone]
    simp [Problem.file]

theorem readOne_congr {tree' : FileTree}
    (h : SourceFile.text tree' cwd path = SourceFile.text tree cwd path) :
    readOne tree' cwd path = readOne tree cwd path := by
  unfold readOne
  rw [h]

theorem readAll_filter {tree' : FileTree} {keep : String → Bool}
    (hsame : ∀ path ∈ paths.filter keep,
      SourceFile.text tree' cwd path = SourceFile.text tree cwd path)
    (hleft : ∀ path ∈ paths, ¬ keep path → ∃ own, readOne tree cwd path = .ok (none, own)) :
    readAll tree' cwd (paths.filter keep) =
      (readAll tree cwd paths).map fun read => (read.1, read.2.filter fun p => keep p.file) := by
  induction paths with
  | nil => rfl
  | cons path paths ih =>
    rw [List.forall_mem_cons] at hleft
    by_cases hkeep : keep path
    . rw [List.filter_cons_of_pos hkeep, List.forall_mem_cons] at hsame
      rw [List.filter_cons_of_pos hkeep, readAll_cons, readAll_cons, readOne_congr hsame.1,
        ih hsame.2 hleft.2]
      cases hone : readOne tree cwd path with
      | error failure => rfl
      | ok x =>
        have hown : x.2.filter (fun p => keep p.file) = x.2 := by
          rw [List.filter_eq_self]
          intro p hp
          rw [problem_file_of_readOne hone p hp, hkeep]
        cases readAll tree cwd paths with
        | error failure => rfl
        | ok later =>
          simp only [bind, Except.bind, Except.map, pure, Except.pure, List.filter_append, hown]
    . rw [List.filter_cons_of_neg hkeep] at hsame
      rcases hleft.1 hkeep with ⟨own, hone⟩
      have hown : own.filter (fun p => keep p.file) = [] := by
        rw [List.filter_eq_nil_iff]
        intro p hp
        rw [problem_file_of_readOne hone p hp]
        exact hkeep
      rw [List.filter_cons_of_neg hkeep, readAll_cons, hone, ih hsame hleft.2]
      cases readAll tree cwd paths with
      | error failure => rfl
      | ok later =>
        simp only [bind, Except.bind, Except.map, pure, Except.pure, List.filter_append, hown,
          Option.toList_none, List.nil_append]

end SourceFile

end QueryLinker
