import QueryLinker.Proofs.Link.FailedFragment
import QueryLinker.Proofs.Project.Attribution

/-!
This module contains that spreads of unknown fragments are reported completely and once each: for
every such spread in the operation and in each fragment that is reached there is one error, whatever
else failed and whatever was known from earlier walks.
-/

namespace QueryLinker

open Graphql

abbrev SpreadOccurrence := Site × FragmentSpread

def Operation.occurrences (o : Operation) : List SpreadOccurrence :=
  o.node.selectionSet.allSpreads.map (o.site, ·)

def Fragment.occurrences (f : Fragment) : List SpreadOccurrence :=
  f.node.selectionSet.allSpreads.map (f.site, ·)

namespace DefinitionTable

def occurrencesIn (t : DefinitionTable) (n : String) : List SpreadOccurrence :=
  match t.get? n with
  | some f => f.occurrences
  | none => []

def unknown (t : DefinitionTable) (xs : List SpreadOccurrence) : List SpreadOccurrence :=
  xs.filter fun x => !t.contains x.2.name.value

variable {t : DefinitionTable}

theorem occurrencesIn_of_get? {n : String} {f : Fragment} (h : t.get? n = some f) :
    t.occurrencesIn n = f.spreads.map (f.site, ·) := by
  simp [occurrencesIn, h, Fragment.occurrences, Fragment.spreads]

theorem unknown_append (xs ys : List SpreadOccurrence) :
    t.unknown (xs ++ ys) = t.unknown xs ++ t.unknown ys :=
  List.filter_append _ _

theorem unknown_occurrencesIn_of_resolvable {n : String} (h : t.spreadGraph.Resolvable n) :
    t.unknown (t.occurrencesIn n) = [] := by
  rcases Option.isSome_iff_exists.mp (contains_of_resolvable h) with ⟨f, hget⟩
  rw [occurrencesIn_of_get? hget, unknown, List.filter_eq_nil_iff]
  intro x hx
  rcases List.mem_map.mp hx with ⟨s, hs, rfl⟩
  simp [contains_of_resolvable (h.of_follows (follows_of_spread hget hs))]

end DefinitionTable

namespace WalkContext

def unknownProblem (c : WalkContext) (x : SpreadOccurrence) : Problem :=
  .unknownFragment c.operation x.2 x.1 (closestName c.known c.suggestionLimit x.2.name.value)

def unknownProblems (c : WalkContext) (xs : List SpreadOccurrence) : List Problem :=
  (c.table.unknown xs).map c.unknownProblem

variable {c : WalkContext}

theorem unknownProblems_append (xs ys : List SpreadOccurrence) :
    c.unknownProblems (xs ++ ys) = c.unknownProblems xs ++ c.unknownProblems ys := by
  rw [unknownProblems, DefinitionTable.unknown_append, List.map_append]
  rfl

theorem unknownProblems_cons_of_contains {x : SpreadOccurrence} {xs : List SpreadOccurrence}
    (h : c.table.contains x.2.name.value) :
    c.unknownProblems (x :: xs) = c.unknownProblems xs := by
  simp [unknownProblems, DefinitionTable.unknown, h]

theorem unknownProblems_cons_of_get? {x : SpreadOccurrence} {xs : List SpreadOccurrence}
    (h : c.table.get? x.2.name.value = none) :
    c.unknownProblems (x :: xs) = c.unknownProblem x :: c.unknownProblems xs := by
  simp [unknownProblems, DefinitionTable.unknown, DefinitionTable.contains, h]

end WalkContext

def Problem.ofKind (kind : ErrorKind) (ps : List Problem) : List Problem :=
  ps.filter (·.kind == kind)

theorem Problem.ofKind_append (kind : ErrorKind) (ps qs : List Problem) :
    ofKind kind (ps ++ qs) = ofKind kind ps ++ ofKind kind qs :=
  List.filter_append _ _

theorem Problem.ofKind_report (kind : ErrorKind) (ps : List Problem) :
    CompileError.ofKind kind (ps.map report) = (ofKind kind ps).map report := by
  unfold CompileError.ofKind ofKind
  rw [List.filter_map]
  rfl

namespace Explores

variable {c : WalkContext} {path failed : List String} {site : Site}
variable {spreads : List FragmentSpread} {r : Exploration}

theorem unknownProblems_perm (h : Explores c path failed site spreads r)
    (hpath : ∀ m ∈ path, c.table.contains m) (hfailed : ∀ m ∈ failed, c.table.contains m) :
    (Problem.ofKind .unknownFragment r.problems ++
      c.unknownProblems (failed.flatMap c.table.occurrencesIn)).Perm
        (c.unknownProblems (spreads.map (site, ·)) ++
          c.unknownProblems (r.failed.flatMap c.table.occurrencesIn)) ∧
      ∀ m ∈ r.failed, c.table.contains m := by
  induction h with
  | nil => exact ⟨.refl _, hfailed⟩
  | cycle hmem _ ih =>
    rcases ih hpath hfailed with ⟨hperm, hknown⟩
    refine ⟨?_, hknown⟩
    rw [List.map_cons, WalkContext.unknownProblems_cons_of_contains (hpath _ hmem)]
    exact hperm
  | again hmem hfail _ ih =>
    rcases ih hpath hfailed with ⟨hperm, hknown⟩
    refine ⟨?_, hknown⟩
    rw [List.map_cons, WalkContext.unknownProblems_cons_of_contains (hfailed _ hfail)]
    exact hperm
  | unknown hmem hfail hget _ ih =>
    rcases ih hpath hfailed with ⟨hperm, hknown⟩
    refine ⟨?_, hknown⟩
    rw [List.map_cons, WalkContext.unknownProblems_cons_of_get? hget]
    exact hperm.cons _
  | @enter path failed site s rest f inner r hmem hfail hget hinner hrest ihinner ihrest =>
    have hs := DefinitionTable.contains_of_get? hget
    rcases ihinner (List.forall_mem_cons.mpr ⟨hs, hpath⟩) hfailed with ⟨hperm, hknown⟩
    rw [List.map_cons, WalkContext.unknownProblems_cons_of_contains hs]
    cases hnames : inner.names? with
    | some names =>
      rw [hinner.failedWith_of_names hnames] at ihrest
      rw [Exploration.join, (hinner.visits hnames).2.1, List.nil_append]
      exact ihrest hpath hfailed
    | none =>
      rw [Exploration.failedWith_of_none hnames] at ihrest
      rcases ihrest hpath (List.forall_mem_cons.mpr ⟨hs, hknown⟩) with ⟨hperm', hknown'⟩
      refine ⟨?_, hknown'⟩
      rw [List.flatMap_cons, WalkContext.unknownProblems_append,
        DefinitionTable.occurrencesIn_of_get? hget] at hperm'
      rw [Exploration.join, Problem.ofKind_append]
      calc
        _ = Problem.ofKind .unknownFragment inner.problems ++
            (Problem.ofKind .unknownFragment r.problems ++
              c.unknownProblems (failed.flatMap c.table.occurrencesIn)) := List.append_assoc _ _ _
        List.Perm _ (Problem.ofKind .unknownFragment r.problems ++
            (Problem.ofKind .unknownFragment inner.problems ++
              c.unknownProblems (failed.flatMap c.table.occurrencesIn))) :=
          List.perm_append_comm_assoc _ _ _
        List.Perm _ _ := hperm.append_left _
        List.Perm _ _ := hperm'

theorem exists_reached_unknownProblems_perm (h : Explores c [] [] site spreads r) :
    ∃ reached : List String, reached.Nodup ∧
      (∀ n, n ∈ reached ↔
        c.table.spreadGraph.Reaches (spreads.map (·.name.value)) n ∧ c.table.contains n) ∧
      (Problem.ofKind .unknownFragment r.problems).Perm
        (c.unknownProblems (spreads.map (site, ·) ++ reached.flatMap c.table.occurrencesIn)) := by
  classical
  let sound (n : String) : Prop :=
    c.table.spreadGraph.Reaches (spreads.map (·.name.value)) n ∧ c.table.spreadGraph.Resolvable n
  have hnames {n : String} (hn : c.table.contains n) : n ∈ c.table.fragmentNames := by
    by_contra hnot
    simp [DefinitionTable.contains, DefinitionTable.get?,
      Walk.lookup_eq_none_of_not_mem hnot] at hn
  refine ⟨r.failed ++ c.table.fragmentNames.eraseDups.filter sound, ?_, ?_, ?_⟩
  . rw [List.nodup_append]
    refine ⟨h.failedInTurn_all.1.nodup, (nodup_eraseDups _).filter _, ?_⟩
    rintro n hfailed m hm rfl
    exact (h.mem_failed_iff.mp hfailed).2.2 (of_decide_eq_true (List.mem_filter.mp hm).2).2
  . intro n
    rw [List.mem_append, h.mem_failed_iff, List.mem_filter, List.mem_eraseDups, decide_eq_true_iff]
    constructor
    . rintro (⟨hreached, hknown, _⟩ | ⟨_, hreached, hres⟩)
      . exact ⟨hreached, hknown⟩
      . exact ⟨hreached, DefinitionTable.contains_of_resolvable hres⟩
    . rintro ⟨hreached, hknown⟩
      by_cases hres : c.table.spreadGraph.Resolvable n
      . exact .inr ⟨hnames hknown, hreached, hres⟩
      . exact .inl ⟨hreached, hknown, hres⟩
  . have hsound : c.unknownProblems
        ((c.table.fragmentNames.eraseDups.filter sound).flatMap c.table.occurrencesIn) = [] := by
      rw [WalkContext.unknownProblems, DefinitionTable.unknown, List.filter_flatMap,
        List.map_eq_nil_iff, List.flatMap_eq_nil_iff]
      intro n hn
      exact DefinitionTable.unknown_occurrencesIn_of_resolvable
        (of_decide_eq_true (List.mem_filter.mp hn).2).2
    have hperm := (h.unknownProblems_perm (by simp) (by simp)).1
    rw [List.flatMap_append, ← List.append_assoc, WalkContext.unknownProblems_append, hsound,
      WalkContext.unknownProblems_append]
    simpa [WalkContext.unknownProblems, DefinitionTable.unknown] using hperm

end Explores

namespace Resolver

/--
Whatever was resolved before, the errors about unknown fragments are one for each spread of an
unknown fragment, in the operation or in a fragment that is reached. Each error names what is not
there and is placed in the definition that the spread stands in: at the position of the spread in
its text, moved by where the text of the definition starts.
-/
theorem resolve_reports_unknown (t : DefinitionTable) (limit : Int) (history : List Operation)
    (o : Operation) :
    let used := (Resolver.ofTable t limit).resolveAll t history
    let errors := (used.resolve t o).2.problems.map (·.report)
    let error (x : SpreadOccurrence) : CompileError := (Problem.unknownFragment o x.2 x.1
      (closestName t.fragmentNames limit x.2.name.value)).report
    (∃ reached : List String, reached.Nodup ∧
      (∀ n, n ∈ reached ↔ t.spreadGraph.Reaches o.spreadNames n ∧ t.contains n) ∧
      (CompileError.ofKind .unknownFragment errors).Perm
        ((t.unknown (o.occurrences ++ reached.flatMap t.occurrencesIn)).map error)) ∧
      ∀ x, (∃ suggestion, (error x).message =
          "The fragment \"" ++ x.2.name.value ++ "\" does not exist." ++ suggestion) ∧
        (error x).context.lookup "fragmentName" = some (.str x.2.name.value) ∧
        (error x).file = o.site.file ∧ (error x).namedFile = x.1.file ∧
        (∀ loc, x.2.loc? = some loc → (error x).place? =
          some (.point (x.1.template.translate (.ofPosition loc.position)))) ∧
        (x.2.loc? = none → (error x).place? = none) := by
  intro used errors error
  rcases resolveAll_known (ofTable t limit) t history with ⟨hknown, hlimit⟩
  constructor
  . have hused : SoundClosures t.spreadGraph used.closures := soundClosures_resolveAll (.nil _) _
    rcases exists_explores used t o with ⟨x, hx⟩
    rcases hx.exists_reached_unknownProblems_perm with ⟨reached, hnodup, hreached, hperm⟩
    refine ⟨reached, hnodup, ?_, ?_⟩
    . intro n
      rw [hreached, o.spreads_map_name]
      rfl
    . have herror : (used.context t o).unknownProblem = fun x => .unknownFragment o x.2 x.1
          (closestName t.fragmentNames limit x.2.name.value) := by
        unfold WalkContext.unknownProblem context
        rw [hknown, hlimit]
        rfl
      have hspreads : o.spreads.map (o.site, ·) = o.occurrences := by
        simp [Operation.spreads, Operation.occurrences]
      rw [Problem.ofKind_report, problems_of_explores hx hused]
      rw [WalkContext.unknownProblems, herror, hspreads] at hperm
      have hreports := hperm.map (·.report)
      rw [List.map_map] at hreports
      exact hreports
  . intro x
    have hplace : (error x).place? = (x.1.locate x.2.loc?).map .point := rfl
    refine ⟨⟨_, rfl⟩, rfl, rfl, Problem.namedFile_otherFile rfl rfl, ?_, ?_⟩
    . intro loc hloc
      rw [hplace, hloc]
      rfl
    . intro hloc
      rw [hplace, hloc]
      rfl

end Resolver

/-!
A page that spreads two fragments, which spread each other, and one that is nowhere. Each of the two
spreads that one as well.
-/

namespace Sample

def spreadIn (file text name : String) (offset : Nat) : FragmentSpread :=
  ⟨⟨name, none⟩, [], some ⟨⟨⟨file, 0⟩, text, []⟩, offset, offset + 4⟩⟩

def spreadsOnly (spreads : List FragmentSpread) : SelectionSet :=
  .braces (spreads.map .spread) none

def looping (name other text : String) (template : TemplateLocation) : Fragment where
  name := name
  node := ⟨⟨name, none⟩, ⟨⟨"Query", none⟩, none⟩, [],
    spreadsOnly [spreadIn "parts.js" text other 22, spreadIn "parts.js" text "X" 27], none⟩
  text := text
  site := ⟨"parts.js", template⟩

def loopTable : DefinitionTable where
  fragments := [("A", looping "A" "B" "fragment A on Query { ...B ...X }" ⟨3, 5⟩),
    ("B", looping "B" "A" "fragment B on Query { ...A ...X }" ⟨7, 0⟩)]

def loopText : String :=
  "query { ...A ...B ...X }"

def loopQuery : Operation where
  name := ""
  node := ⟨.query, none, [], [], spreadsOnly [spreadIn "page.gql" loopText "A" 8,
    spreadIn "page.gql" loopText "B" 13, spreadIn "page.gql" loopText "X" 18], none⟩
  text := loopText
  site := ⟨"page.gql", {}⟩
  originText := loopText
  isHook := false
  isStaticQuery := false
  hash := ""

theorem contains_loopTable {n : String} : loopTable.contains n ↔ n ∈ ["A", "B"] := by
  unfold DefinitionTable.contains DefinitionTable.get?
  constructor
  . intro h
    rcases Option.isSome_iff_exists.mp h with ⟨f, hf⟩
    rcases List.lookup_eq_some_iff.mp hf with ⟨before, after, heq, _⟩
    have hmem : n ∈ loopTable.fragmentNames := by
      rw [DefinitionTable.fragmentNames, heq]
      simp
    exact hmem
  . rw [List.mem_pair]
    rintro (rfl | rfl) <;> rfl

theorem spreadNames_loopQuery : loopQuery.spreadNames = ["A", "B", "X"] := by
  cbv

theorem reaches_loopTable {n : String} :
    loopTable.spreadGraph.Reaches loopQuery.spreadNames n ∧ loopTable.contains n ↔
      n ∈ ["A", "B"] := by
  rw [contains_loopTable, and_iff_right_iff_imp, spreadNames_loopQuery]
  intro hn
  exact .of_mem (List.subset_append_left ["A", "B"] ["X"] hn)

end Sample

theorem Resolver.resolve_reports_unknown_again :
    let used := (Resolver.ofTable Sample.loopTable 10).resolveAll Sample.loopTable
      [Sample.loopQuery]
    let errors := (used.resolve Sample.loopTable Sample.loopQuery).2.problems.map (·.report)
    ((CompileError.ofKind .unknownFragment errors).map fun e => (e.namedFile, e.place?)).Perm
      [("page.gql", some (.point ⟨1, 19⟩)), ("parts.js", some (.point ⟨3, 33⟩)),
        ("parts.js", some (.point ⟨7, 28⟩))] := by
  intro used errors
  rcases Resolver.resolve_reports_unknown Sample.loopTable 10 [Sample.loopQuery] Sample.loopQuery
    with ⟨⟨reached, hnodup, hreached, hperm⟩, _⟩
  have hboth : reached.Perm ["A", "B"] := by
    rw [List.perm_ext_iff_of_nodup hnodup (by decide)]
    intro n
    rw [hreached, Sample.reaches_loopTable]
  have hspreads := (hboth.flatMap_right Sample.loopTable.occurrencesIn).append_left
    Sample.loopQuery.occurrences
  have hall := (hperm.trans ((hspreads.filter _).map _)).map fun e => (e.namedFile, e.place?)
  refine hall.trans (.of_eq ?_)
  decide +kernel

end QueryLinker
