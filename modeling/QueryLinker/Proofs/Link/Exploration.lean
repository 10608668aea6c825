import QueryLinker.Link.Resolver
import QueryLinker.Proofs.Graphql.Spread
import QueryLinker.Proofs.Link.SpreadGraph

/-!
This module contains the recursive walk over the spreads of a definition, which keeps no closures
and remembers failed fragments only. What it finds is what is to be found: it comes back with names
if and only if everything reached is known and acyclic, and each of its problems is real.
-/

namespace QueryLinker

open Graphql Relation

def DefinitionTable.spreadGraph (t : DefinitionTable) : SpreadGraph :=
  fun n => (t.get? n).map fun f => f.node.selectionSet.spreadNames

theorem DefinitionTable.spreadGraph_of_get? {t : DefinitionTable} {n : String} {f : Fragment}
    (h : t.get? n = some f) : t.spreadGraph n = some (f.spreads.map (·.name.value)) := by
  simp [DefinitionTable.spreadGraph, h, SelectionSet.spreadNames, Fragment.spreads]

namespace DefinitionTable

def workLeft (t : DefinitionTable) (entered : List String) : Nat :=
  t.fragments.foldr
    (fun entry steps => (if entry.1 ∈ entered then 0 else entry.2.spreads.length + 1) + steps) 0

theorem workLeft_anti (t : DefinitionTable) {entered entered' : List String}
    (h : entered ⊆ entered') : t.workLeft entered' ≤ t.workLeft entered := by
  unfold workLeft
  induction t.fragments with
  | nil => simp
  | cons entry entries ih =>
    simp only [List.foldr_cons]
    by_cases hentry : entry.1 ∈ entered
    . rw [if_pos hentry, if_pos (h hentry)]
      omega
    . rw [if_neg hentry]
      split <;> omega

theorem workLeft_enter {t : DefinitionTable} {n : String} {f : Fragment} (hget : t.get? n = some f)
    (entered entered' : List String) (hn : n ∉ entered) (hn' : n ∈ entered')
    (h : entered ⊆ entered') :
    t.workLeft entered' + (f.spreads.length + 1) ≤ t.workLeft entered := by
  unfold get? at hget
  unfold workLeft
  induction hfragments : t.fragments generalizing t with
  | nil => simp [hfragments] at hget
  | cons entry entries ih =>
    rcases entry with ⟨m, f'⟩
    rw [hfragments, List.lookup_cons] at hget
    have hanti := workLeft_anti { t with fragments := entries } h
    simp only [List.foldr_cons]
    split at hget
    next hm =>
      cases hget
      rw [beq_iff_eq] at hm
      subst hm
      rw [if_neg hn, if_pos hn']
      unfold workLeft at hanti
      dsimp at hanti
      omega
    next =>
      have := ih (t := { t with fragments := entries }) hget rfl
      by_cases hm : m ∈ entered
      . rw [if_pos hm, if_pos (h hm)]
        omega
      . rw [if_neg hm]
        split <;> omega

end DefinitionTable

def SpreadGraph.Resolvable (g : SpreadGraph) (n : String) : Prop :=
  ∃ met, g.Visits [n] met

theorem SpreadGraph.Visits.resolvable {g : SpreadGraph} {start met : List String}
    (hv : g.Visits start met) {n : String} (hn : n ∈ met) : g.Resolvable n := by
  rcases hv.exists_of_mem hn with ⟨names, below, hnames, hbelow, _⟩
  exact ⟨_, .cons hnames hbelow .nil⟩

theorem not_resolvable_of_get? {t : DefinitionTable} {n : String} (hget : t.get? n = none) :
    ¬ t.spreadGraph.Resolvable n := by
  rintro ⟨met, hv⟩
  have := hv.isSome_of_mem hv.head_mem
  simp [DefinitionTable.spreadGraph, hget] at this

/-- What a walk finds: the names that it meets unless it fails, the failed fragments, problems. -/
structure Exploration where
  names? : Option (List String)
  failed : List String
  problems : List Problem

namespace Exploration

def refuse (ps : List Problem) (r : Exploration) : Exploration :=
  ⟨none, r.failed, ps ++ r.problems⟩

def join (n : String) (inner r : Exploration) : Exploration :=
  { names? := inner.names?.bind fun below => r.names?.map fun later => n :: (below ++ later)
    failed := r.failed
    problems := inner.problems ++ r.problems }

def failedWith (n : String) (inner : Exploration) : List String :=
  match inner.names? with
  | some _ => inner.failed
  | none => n :: inner.failed

theorem failed_subset_failedWith (n : String) (inner : Exploration) :
    inner.failed ⊆ inner.failedWith n := by
  unfold failedWith
  split <;> simp

theorem failedWith_of_none {inner : Exploration} (h : inner.names? = none) (n : String) :
    inner.failedWith n = n :: inner.failed := by
  simp [failedWith, h]

end Exploration

inductive Explores (c : WalkContext) :
    List String → List String → Site → List FragmentSpread → Exploration → Prop where
  | nil {path failed site} : Explores c path failed site [] ⟨some [], failed, []⟩
  | cycle {path failed site s rest r} (hpath : s.name.value ∈ path)
      (hrest : Explores c path failed site rest r) :
      Explores c path failed site (s :: rest)
        (r.refuse [.fragmentCycle c.operation s site (Walk.cycle path s.name.value)])
  | again {path failed site s rest r} (hpath : s.name.value ∉ path)
      (hfailed : s.name.value ∈ failed) (hrest : Explores c path failed site rest r) :
      Explores c path failed site (s :: rest) (r.refuse [])
  | unknown {path failed site s rest r} (hpath : s.name.value ∉ path)
      (hfailed : s.name.value ∉ failed) (hget : c.table.get? s.name.value = none)
      (hrest : Explores c path failed site rest r) :
      Explores c path failed site (s :: rest)
        (r.refuse [.unknownFragment c.operation s site
          (closestName c.known c.suggestionLimit s.name.value)])
  | enter {path failed site s rest f inner r} (hpath : s.name.value ∉ path)
      (hfailed : s.name.value ∉ failed) (hget : c.table.get? s.name.value = some f)
      (hinner : Explores c (s.name.value :: path) failed f.site f.spreads inner)
      (hrest : Explores c path (inner.failedWith s.name.value) site rest r) :
      Explores c path failed site (s :: rest) (inner.join s.name.value r)

def Leads (c : WalkContext) (path : List String) (spreads : List FragmentSpread) : Prop :=
  ∀ m ∈ path, ∀ s ∈ spreads, TransGen c.table.spreadGraph.Follows m s.name.value

namespace Leads

variable {c : WalkContext} {path : List String} {s : FragmentSpread} {rest : List FragmentSpread}

theorem nil (spreads : List FragmentSpread) : Leads c [] spreads := by
  intro m hm
  simp at hm

theorem tail (h : Leads c path (s :: rest)) : Leads c path rest := by
  intro m hm x hx
  exact h m hm x (List.mem_cons_of_mem _ hx)

theorem enter (h : Leads c path (s :: rest)) {f : Fragment}
    (hget : c.table.get? s.name.value = some f) :
    Leads c (s.name.value :: path) f.spreads := by
  intro m hm x hx
  have hfollows : c.table.spreadGraph.Follows s.name.value x.name.value :=
    ⟨_, DefinitionTable.spreadGraph_of_get? hget, List.mem_map_of_mem hx⟩
  rcases List.mem_cons.mp hm with rfl | hm
  . exact .single hfollows
  . exact (h m hm s (by simp)).tail hfollows

end Leads

namespace Explores

variable {c : WalkContext} {path failed : List String} {site : Site}
variable {spreads : List FragmentSpread} {r : Exploration}

theorem failed_subset (h : Explores c path failed site spreads r) : failed ⊆ r.failed := by
  induction h with
  | nil => simp
  | cycle _ _ ih => exact ih
  | again _ _ _ ih => exact ih
  | unknown _ _ _ _ ih => exact ih
  | enter _ _ _ _ _ ihinner ihrest =>
    exact List.Subset.trans ihinner
      (List.Subset.trans (Exploration.failed_subset_failedWith _ _) ihrest)

theorem visits (h : Explores c path failed site spreads r) {names : List String}
    (hr : r.names? = some names) :
    c.table.spreadGraph.Visits (spreads.map (·.name.value)) names ∧ r.problems = [] ∧
      r.failed = failed := by
  induction h generalizing names with
  | nil =>
    cases hr
    exact ⟨.nil, rfl, rfl⟩
  | cycle => simp [Exploration.refuse] at hr
  | again => simp [Exploration.refuse] at hr
  | unknown => simp [Exploration.refuse] at hr
  | @enter path failed site s rest f inner r hpath hfailed hget _ _ ihinner ihrest =>
    simp only [Exploration.join, Option.bind_eq_some_iff, Option.map_eq_some_iff] at hr
    rcases hr with ⟨below, hbelow, later, hlater, rfl⟩
    rcases ihinner hbelow with ⟨hvisits, hproblems, hsame⟩
    rcases ihrest hlater with ⟨hvisits', hproblems', hsame'⟩
    refine ⟨?_, by simp [Exploration.join, hproblems, hproblems'], ?_⟩
    . exact .cons (DefinitionTable.spreadGraph_of_get? hget) hvisits hvisits'
    . simp only [Exploration.join, hsame', Exploration.failedWith, hbelow, hsame]

theorem failedWith_of_names (h : Explores c path failed site spreads r) {names : List String}
    (hr : r.names? = some names) (n : String) : r.failedWith n = failed := by
  simp [Exploration.failedWith, hr, (h.visits hr).2.2]

theorem isSome_of_problems_eq_nil (h : Explores c path failed site spreads r)
    (hfailed : failed = []) (hproblems : r.problems = []) : r.names?.isSome ∧ r.failed = [] := by
  induction h with
  | nil => simp [hfailed]
  | cycle => simp [Exploration.refuse] at hproblems
  | again _ hmem => simp [hfailed] at hmem
  | unknown => simp [Exploration.refuse] at hproblems
  | @enter path failed site s rest f inner r _ _ _ _ _ ihinner ihrest =>
    simp only [Exploration.join, List.append_eq_nil_iff] at hproblems
    rcases ihinner hfailed hproblems.1 with ⟨hsome, hnone⟩
    rcases Option.isSome_iff_exists.mp hsome with ⟨below, hbelow⟩
    have hwith : inner.failedWith s.name.value = [] := by
      simp [Exploration.failedWith, hbelow, hnone]
    rcases ihrest hwith hproblems.2 with ⟨hsome', hnone'⟩
    rcases Option.isSome_iff_exists.mp hsome' with ⟨later, hlater⟩
    exact ⟨by simp [Exploration.join, hbelow, hlater], hnone'⟩

theorem exists_of_problem (h : Explores c path failed site spreads r)
    (hleads : Leads c path spreads) {p : Problem} (hp : p ∈ r.problems) :
    ∃ n, c.table.spreadGraph.Reaches (spreads.map (·.name.value)) n ∧
      (c.table.spreadGraph n = none ∨ c.table.spreadGraph.OnCycle n) := by
  induction h with
  | nil => simp at hp
  | @cycle path failed site s rest r hpath _ ih =>
    simp only [Exploration.refuse, List.singleton_append, List.mem_cons] at hp
    rcases hp with rfl | hp
    . exact ⟨s.name.value, .of_mem (by simp), .inr (hleads _ hpath s (by simp))⟩
    . rcases ih hleads.tail hp with ⟨n, hn, hbad⟩
      exact ⟨n, hn.mono (by simp), hbad⟩
  | again _ _ _ ih =>
    simp only [Exploration.refuse, List.nil_append] at hp
    rcases ih hleads.tail hp with ⟨n, hn, hbad⟩
    exact ⟨n, hn.mono (by simp), hbad⟩
  | @unknown path failed site s rest r hpath _ hget _ ih =>
    simp only [Exploration.refuse, List.singleton_append, List.mem_cons] at hp
    rcases hp with rfl | hp
    . exact ⟨s.name.value, .of_mem (by simp), .inl (by simp [DefinitionTable.spreadGraph, hget])⟩
    . rcases ih hleads.tail hp with ⟨n, hn, hbad⟩
      exact ⟨n, hn.mono (by simp), hbad⟩
  | enter _ _ hget _ _ ihinner ihrest =>
    simp only [Exploration.join, List.mem_append] at hp
    rcases hp with hp | hp
    . rcases ihinner (hleads.enter hget) hp with ⟨n, hn, hbad⟩
      exact ⟨n, .enter (.of_mem (by simp)) (DefinitionTable.spreadGraph_of_get? hget) hn, hbad⟩
    . rcases ihrest hleads.tail hp with ⟨n, hn, hbad⟩
      exact ⟨n, hn.mono (by simp), hbad⟩

theorem isSome_of_visits (h : Explores c path failed site spreads r)
    (hleads : Leads c path spreads) (hfailed : ∀ m ∈ failed, ¬ c.table.spreadGraph.Resolvable m)
    {met : List String} (hv : c.table.spreadGraph.Visits (spreads.map (·.name.value)) met) :
    r.names?.isSome := by
  -- The spreads lose their first one at each step, as the walk of the graph does.
  induction h generalizing met with
  | nil => simp
  | @cycle _ _ _ s _ _ hpath =>
    exfalso
    -- What is on the path leads to the spread, so the spread would close a cycle.
    exact hv.not_onCycle_of_mem hv.head_mem (hleads _ hpath s (by simp))
  | again _ hmem =>
    exfalso
    exact hfailed _ hmem (hv.resolvable hv.head_mem)
  | unknown _ _ hget =>
    exfalso
    exact not_resolvable_of_get? hget (hv.resolvable hv.head_mem)
  | @enter path failed site s rest f inner r _ _ hget hinner _ ihinner ihrest =>
    cases hv with
    | cons hn hbelow hlater =>
      rw [DefinitionTable.spreadGraph_of_get? hget] at hn
      cases hn
      have hsome := ihinner (hleads.enter hget) hfailed hbelow
      rcases Option.isSome_iff_exists.mp hsome with ⟨below, hbelow'⟩
      rw [hinner.failedWith_of_names hbelow'] at ihrest
      rcases Option.isSome_iff_exists.mp (ihrest hleads.tail hfailed hlater) with ⟨later, hlater'⟩
      simp [Exploration.join, hbelow', hlater']

theorem not_resolvable (h : Explores c (n :: path) failed site spreads r)
    (hleads : Leads c (n :: path) spreads)
    (hfailed : ∀ m ∈ failed, ¬ c.table.spreadGraph.Resolvable m)
    (hn : c.table.spreadGraph n = some (spreads.map (·.name.value))) (hr : r.names? = none) :
    ¬ c.table.spreadGraph.Resolvable n := by
  rintro ⟨met, hv⟩
  cases hv with
  | cons hn' hbelow hlater =>
    rw [hn] at hn'
    cases hn'
    have := h.isSome_of_visits hleads hfailed hbelow
    simp [hr] at this

theorem failedWith_not_resolvable {inner : Exploration} {n : String}
    (h : Explores c (n :: path) failed site spreads inner) (hleads : Leads c (n :: path) spreads)
    (hfailed : ∀ m ∈ failed, ¬ c.table.spreadGraph.Resolvable m)
    (hn : c.table.spreadGraph n = some (spreads.map (·.name.value)))
    (hinner : ∀ m ∈ inner.failed, ¬ c.table.spreadGraph.Resolvable m) :
    ∀ m ∈ inner.failedWith n, ¬ c.table.spreadGraph.Resolvable m := by
  intro m hm
  unfold Exploration.failedWith at hm
  split at hm
  . exact hinner m hm
  next hnone =>
    rcases List.mem_cons.mp hm with rfl | hm
    . exact h.not_resolvable hleads hfailed hn hnone
    . exact hinner m hm

theorem failed_not_resolvable (h : Explores c path failed site spreads r)
    (hleads : Leads c path spreads)
    (hfailed : ∀ m ∈ failed, ¬ c.table.spreadGraph.Resolvable m) :
    ∀ m ∈ r.failed, ¬ c.table.spreadGraph.Resolvable m := by
  induction h with
  | nil => exact hfailed
  | cycle _ _ ih => exact ih hleads.tail hfailed
  | again _ _ _ ih => exact ih hleads.tail hfailed
  | unknown _ _ _ _ ih => exact ih hleads.tail hfailed
  | enter _ _ hget hinner _ ihinner ihrest =>
    apply ihrest hleads.tail
    exact hinner.failedWith_not_resolvable (hleads.enter hget) hfailed
      (DefinitionTable.spreadGraph_of_get? hget) (ihinner (hleads.enter hget) hfailed)

theorem exists_explores (c : WalkContext) (path failed : List String) (site : Site)
    (spreads : List FragmentSpread) : ∃ r, Explores c path failed site spreads r := by
  match spreads with
  | [] => exact ⟨_, .nil⟩
  | s :: rest =>
    by_cases hpath : s.name.value ∈ path
    . rcases exists_explores c path failed site rest with ⟨r, hr⟩
      exact ⟨_, .cycle hpath hr⟩
    by_cases hfailed : s.name.value ∈ failed
    . rcases exists_explores c path failed site rest with ⟨r, hr⟩
      exact ⟨_, .again hpath hfailed hr⟩
    cases hget : c.table.get? s.name.value with
    | none =>
      rcases exists_explores c path failed site rest with ⟨r, hr⟩
      exact ⟨_, .unknown hpath hfailed hget hr⟩
    | some f =>
      rcases exists_explores c (s.name.value :: path) failed f.site f.spreads with ⟨inner, hinner⟩
      rcases exists_explores c path (inner.failedWith s.name.value) site rest with ⟨r, hr⟩
      exact ⟨_, .enter hpath hfailed hget hinner hr⟩
termination_by (c.table.workLeft (path ++ failed), spreads.length)
-- Names on the path and failed ones are not entered again, and neither are ever fewer.
decreasing_by
  . apply Prod.Lex.right
    simp
  . apply Prod.Lex.right
    simp
  . apply Prod.Lex.right
    simp
  . apply Prod.Lex.left
    have := DefinitionTable.workLeft_enter hget (path ++ failed) (s.name.value :: path ++ failed)
      (by simp [hpath, hfailed]) (by simp) (by simp)
    omega
  . have hsub : failed ⊆ inner.failedWith s.name.value :=
      List.Subset.trans hinner.failed_subset (Exploration.failed_subset_failedWith _ _)
    apply Prod.Lex.right'
    . apply DefinitionTable.workLeft_anti
      intro m hm
      rcases List.mem_append.mp hm with hm | hm
      . exact List.mem_append_left _ hm
      . exact List.mem_append_right _ (hsub hm)
    . simp

end Explores

end QueryLinker
