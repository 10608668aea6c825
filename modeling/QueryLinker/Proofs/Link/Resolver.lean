import QueryLinker.Proofs.Link.WalkExploration

/-!
This module contains that a resolver finds the same as a fresh one, whatever it was asked before,
and what that is: the fragments of the recursive walk, if all that is reached is known and acyclic.
-/

namespace QueryLinker

open Graphql

namespace Operation

def spreadNames (o : Operation) : List String :=
  o.node.selectionSet.spreadNames

theorem spreads_map_name (o : Operation) : o.spreads.map (·.name.value) = o.spreadNames := by
  simp [spreads, spreadNames, SelectionSet.spreadNames]

end Operation

def Exploration.resolution (x : Exploration) (o : Operation) : Resolution :=
  match x.names? with
  | some names => { operation := o, names := names.eraseDups }
  | none => { operation := o, problems := x.problems }

namespace Resolver

variable {t : DefinitionTable} {r r' : Resolver} {o : Operation}

def context (r : Resolver) (t : DefinitionTable) (o : Operation) : WalkContext :=
  ⟨t, r.known, r.suggestionLimit, o⟩

theorem exists_explores (r : Resolver) (t : DefinitionTable) (o : Operation) :
    ∃ x, Explores (r.context t o) [] [] o.site o.spreads x :=
  Explores.exists_explores _ _ _ _ _

theorem resolve_of_explores {x : Exploration}
    (h : Explores (r.context t o) [] [] o.site o.spreads x)
    (hr : SoundClosures t.spreadGraph r.closures) :
    (r.resolve t o).2 = x.resolution o ∧
      SoundClosures t.spreadGraph (r.resolve t o).1.closures := by
  rcases Walk.ofOperation_of_explores h hr with ⟨hnames, hproblems, hclosures, _⟩
  refine ⟨?_, hclosures⟩
  unfold resolve Exploration.resolution
  unfold context at hnames hproblems
  dsimp only
  rw [hnames, hproblems]
  cases x.names? <;> rfl

theorem problems_of_explores {x : Exploration}
    (h : Explores (r.context t o) [] [] o.site o.spreads x)
    (hr : SoundClosures t.spreadGraph r.closures) : (r.resolve t o).2.problems = x.problems := by
  rw [(resolve_of_explores h hr).1]
  unfold Exploration.resolution
  split
  next names hnames => rw [(h.visits hnames).2.1]
  next => rfl

theorem soundClosures_resolve (hr : SoundClosures t.spreadGraph r.closures) (o : Operation) :
    SoundClosures t.spreadGraph (r.resolve t o).1.closures := by
  rcases exists_explores r t o with ⟨x, hx⟩
  exact (resolve_of_explores hx hr).2

theorem resolve_congr (hr : SoundClosures t.spreadGraph r.closures)
    (hr' : SoundClosures t.spreadGraph r'.closures) (hknown : r.known = r'.known)
    (hlimit : r.suggestionLimit = r'.suggestionLimit) (o : Operation) :
    (r.resolve t o).2 = (r'.resolve t o).2 := by
  rcases exists_explores r t o with ⟨x, hx⟩
  have hx' : Explores (r'.context t o) [] [] o.site o.spreads x := by
    unfold context
    rw [← hknown, ← hlimit]
    exact hx
  rw [(resolve_of_explores hx hr).1, (resolve_of_explores hx' hr').1]

theorem resolve_ok_iff (hr : SoundClosures t.spreadGraph r.closures) (o : Operation) :
    (r.resolve t o).2.ok ↔ ∀ n, t.spreadGraph.Reaches o.spreadNames n →
      (t.spreadGraph n).isSome ∧ ¬ t.spreadGraph.OnCycle n := by
  rcases exists_explores r t o with ⟨x, hx⟩
  rw [(resolve_of_explores hx hr).1, Resolution.ok, List.isEmpty_iff, Exploration.resolution,
    ← o.spreads_map_name]
  constructor
  . intro hproblems n hn
    cases hnames : x.names? with
    | none =>
      simp only [hnames] at hproblems
      simpa [hnames] using hx.isSome_of_problems_eq_nil rfl hproblems
    | some names =>
      have hvisits := (hx.visits hnames).1
      have hmem := hvisits.mem_iff_reaches.mpr hn
      exact ⟨hvisits.isSome_of_mem hmem, hvisits.not_onCycle_of_mem hmem⟩
  . intro h
    have hproblems : x.problems = [] := by
      rw [List.eq_nil_iff_forall_not_mem]
      intro p hp
      rcases hx.exists_of_problem (.nil _) hp with ⟨n, hn, hbad⟩
      rcases h n hn with ⟨hsome, hcycle⟩
      rcases hbad with hnone | honcycle
      . simp only [context] at hnone
        simp [hnone] at hsome
      . exact hcycle honcycle
    split
    . rfl
    . exact hproblems

theorem exists_visits_of_ok (hr : SoundClosures t.spreadGraph r.closures)
    (hok : (r.resolve t o).2.ok) :
    ∃ met, t.spreadGraph.Visits o.spreadNames met ∧ (r.resolve t o).2.names = met.eraseDups := by
  rcases exists_explores r t o with ⟨x, hx⟩
  rw [(resolve_of_explores hx hr).1, Resolution.ok, List.isEmpty_iff] at hok
  rw [(resolve_of_explores hx hr).1, ← o.spreads_map_name]
  unfold Exploration.resolution at hok ⊢
  cases hnames : x.names? with
  | none =>
    simp only [hnames] at hok
    simpa [hnames] using hx.isSome_of_problems_eq_nil rfl hok
  | some names => exact ⟨names, (hx.visits hnames).1, rfl⟩

theorem resolve_of_visits (hr : SoundClosures t.spreadGraph r.closures) {met : List String}
    (hv : t.spreadGraph.Visits o.spreadNames met) :
    (r.resolve t o).2.ok ∧ (r.resolve t o).2.names = met.eraseDups := by
  have hok : (r.resolve t o).2.ok := by
    rw [resolve_ok_iff hr]
    intro n hn
    have hmem := hv.mem_iff_reaches.mpr hn
    exact ⟨hv.isSome_of_mem hmem, hv.not_onCycle_of_mem hmem⟩
  rcases exists_visits_of_ok hr hok with ⟨met', hv', hnames⟩
  exact ⟨hok, by rw [hnames, hv'.unique hv]⟩

def resolveAll (r : Resolver) (t : DefinitionTable) (os : List Operation) : Resolver :=
  os.foldl (fun r o => (r.resolve t o).1) r

theorem soundClosures_resolveAll (hr : SoundClosures t.spreadGraph r.closures)
    (os : List Operation) : SoundClosures t.spreadGraph (r.resolveAll t os).closures := by
  unfold resolveAll
  induction os generalizing r with
  | nil => exact hr
  | cons o os ih => exact ih (soundClosures_resolve hr o)

theorem resolveAll_known (r : Resolver) (t : DefinitionTable) (os : List Operation) :
    (r.resolveAll t os).known = r.known ∧
      (r.resolveAll t os).suggestionLimit = r.suggestionLimit := by
  unfold resolveAll
  induction os generalizing r with
  | nil => exact ⟨rfl, rfl⟩
  | cons o os ih => exact ih _

/--
A resolver with a history gives what a fresh one gives, and that is what the recursive walk tells:
the fragments of its preorder, or else problems. All closures that it keeps are such preorders, too.
-/
theorem resolve_eq_recursive_walk (t : DefinitionTable) (limit : Int) (history : List Operation)
    (o : Operation) :
    let fresh := Resolver.ofTable t limit
    let used := fresh.resolveAll t history
    (used.resolve t o).2 = (fresh.resolve t o).2 ∧
      ((used.resolve t o).2.ok ↔ ∀ n, t.spreadGraph.Reaches o.spreadNames n →
        (t.spreadGraph n).isSome ∧ ¬ t.spreadGraph.OnCycle n) ∧
      ((used.resolve t o).2.ok → ∃ met, t.spreadGraph.Visits o.spreadNames met ∧
        (used.resolve t o).2.names = met.eraseDups) ∧
      ∀ n closure, (n, closure) ∈ used.closures →
        ∃ names below, t.spreadGraph n = some names ∧ t.spreadGraph.Visits names below ∧
          closure = below.eraseDups ∧ (∀ m, m ∈ closure ↔ t.spreadGraph.Reaches names m) ∧
          n ∉ closure ∧ ∀ m ∈ closure, m ∈ used.closures.map (·.1) := by
  intro fresh used
  have hfresh : SoundClosures t.spreadGraph fresh.closures := .nil _
  have hused : SoundClosures t.spreadGraph used.closures := soundClosures_resolveAll hfresh history
  rcases resolveAll_known fresh t history with ⟨hknown, hlimit⟩
  refine ⟨resolve_congr hused hfresh hknown hlimit o, resolve_ok_iff hused o,
    exists_visits_of_ok hused, ?_⟩
  intro n closure hentry
  rcases hused _ hentry with ⟨names, below, hn, hvisits, hclosure, hkeys⟩
  subst hclosure
  refine ⟨names, below, hn, hvisits, rfl, ?_, ?_, ?_⟩
  . intro m
    rw [List.mem_eraseDups, hvisits.mem_iff_reaches]
  . rw [List.mem_eraseDups]
    intro hmem
    rcases hvisits.mem_iff_reaches.mp hmem with ⟨a, ha, han⟩
    exact hvisits.not_onCycle_of_mem hmem (.head' ⟨names, hn, ha⟩ han)
  . intro m hm
    exact hkeys m (List.mem_eraseDups.mp hm)

end Resolver

end QueryLinker
