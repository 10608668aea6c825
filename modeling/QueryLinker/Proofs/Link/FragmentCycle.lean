import Mathlib.Data.List.Chain
import Mathlib.Data.List.Nodup
import QueryLinker.Proofs.Link.FailedFragment

/-!
This module contains that cycles of fragments are reported if and only if there are any: each cycle
that is reported is one, and every cycle that is reached has a spread that is reported to close one.
-/

namespace QueryLinker

open Graphql Relation

/-- A way along spreads, each of them with the fragment in whose body it stands. -/
inductive DefinitionTable.Way (t : DefinitionTable) :
    String → List (String × FragmentSpread) → String → Prop where
  | nil (n : String) : Way t n [] n
  | cons {a f s hops b} (hget : t.get? a = some f) (hs : s ∈ f.node.selectionSet.allSpreads)
      (hrest : Way t s.name.value hops b) : Way t a ((a, s) :: hops) b

namespace DefinitionTable

variable {t : DefinitionTable} {a b : String}

theorem exists_way_of_transGen (h : TransGen t.spreadGraph.Follows a b) :
    ∃ hops, t.Way a hops b ∧ hops ≠ [] := by
  induction h using TransGen.head_induction_on with
  | single hab =>
    rcases exists_spread_of_follows hab with ⟨f, s, hget, hs, rfl⟩
    rw [Fragment.spreads, SelectionSet.spreads_eq_allSpreads] at hs
    exact ⟨_, .cons hget hs (.nil _), by simp⟩
  | head hac _ ih =>
    rcases ih with ⟨hops, hway, _⟩
    rcases exists_spread_of_follows hac with ⟨f, s, hget, hs, rfl⟩
    rw [Fragment.spreads, SelectionSet.spreads_eq_allSpreads] at hs
    exact ⟨_, .cons hget hs hway, by simp⟩

theorem Way.transGen {hops : List (String × FragmentSpread)} (h : t.Way a hops b)
    (hne : hops ≠ []) : TransGen t.spreadGraph.Follows a b := by
  induction h with
  | nil => exact absurd rfl hne
  | @cons a f s hops b hget hs hrest ih =>
    rw [← SelectionSet.spreads_eq_allSpreads] at hs
    have hfollows := follows_of_spread hget hs
    cases hops with
    | nil =>
      cases hrest
      exact .single hfollows
    | cons => exact .head hfollows (ih (by simp))

theorem Way.contains {hops : List (String × FragmentSpread)} (h : t.Way a hops b)
    (hb : t.contains b) : t.contains a := by
  cases h with
  | nil => exact hb
  | cons hget _ _ => exact contains_of_get? hget

theorem Way.resolvable {hops : List (String × FragmentSpread)} (h : t.Way a hops b)
    (ha : t.spreadGraph.Resolvable a) : t.spreadGraph.Resolvable b := by
  induction h with
  | nil => exact ha
  | cons hget hs _ ih =>
    rw [← SelectionSet.spreads_eq_allSpreads] at hs
    exact ih (ha.of_follows (follows_of_spread hget hs))

end DefinitionTable

namespace Walk

theorem cycle_eq_reverse (path : List String) (n : String) :
    cycle path n = (n :: (path.takeWhile (· != n) ++ [n])).reverse := by
  simp [cycle]

theorem prefix_of_mem {path : List String} {n : String} (hn : n ∈ path) :
    path.takeWhile (· != n) ++ [n] <+: path := by
  rcases eq_append_of_mem hn with ⟨post, hpost⟩
  refine ⟨post, ?_⟩
  rw [List.append_assoc, List.singleton_append, ← hpost]

theorem exists_cycle_eq_append (n m : String) (path : List String) :
    ∃ before, cycle (n :: path) m = before ++ [n, m] := by
  by_cases hn : n = m
  . exact ⟨[], by simp [cycle, hn]⟩
  . refine ⟨m :: (path.takeWhile (· != m)).reverse, ?_⟩
    simp [cycle, hn]

end Walk

/--
The names on a path, each of a fragment that spreads the one before it, and spreads in the body of
the fragment at its head or, at the very beginning, in the operation.
-/
structure Trail (c : WalkContext) (path : List String) (spreads : List FragmentSpread) :
    Prop where
  nodup : path.Nodup
  known : ∀ n ∈ path, c.table.contains n
  chain : path.IsChain fun a b => c.table.spreadGraph.Follows b a
  body : ∀ n ∈ path.head?, ∃ f, c.table.get? n = some f ∧ spreads ⊆ f.spreads

namespace Trail

variable {c : WalkContext} {path : List String} {s : FragmentSpread} {rest : List FragmentSpread}

theorem nil (c : WalkContext) (spreads : List FragmentSpread) : Trail c [] spreads where
  nodup := List.nodup_nil
  known := by simp
  chain := List.isChain_nil
  body := by simp

theorem tail (h : Trail c path (s :: rest)) : Trail c path rest where
  nodup := h.nodup
  known := h.known
  chain := h.chain
  body := by
    intro n hn
    rcases h.body n hn with ⟨f, hget, hsub⟩
    exact ⟨f, hget, (List.cons_subset.mp hsub).2⟩

theorem chain_cons (h : Trail c path (s :: rest)) :
    (s.name.value :: path).IsChain fun a b => c.table.spreadGraph.Follows b a := by
  rw [List.isChain_cons]
  refine ⟨?_, h.chain⟩
  intro n hn
  rcases h.body n hn with ⟨f, hget, hsub⟩
  exact DefinitionTable.follows_of_spread hget (hsub List.mem_cons_self)

theorem enter (h : Trail c path (s :: rest)) (hpath : s.name.value ∉ path) {f : Fragment}
    (hget : c.table.get? s.name.value = some f) :
    Trail c (s.name.value :: path) f.spreads where
  nodup := List.nodup_cons.mpr ⟨hpath, h.nodup⟩
  known := List.forall_mem_cons.mpr ⟨DefinitionTable.contains_of_get? hget, h.known⟩
  chain := h.chain_cons
  body := by
    intro n hn
    rw [List.head?_cons, Option.mem_def, Option.some.injEq] at hn
    subst hn
    exact ⟨f, hget, List.Subset.refl _⟩

end Trail

structure DefinitionTable.IsCycle (t : DefinitionTable) (names : List String) : Prop where
  closed : ∃ n inner, names = n :: (inner ++ [n])
  nodup : names.dropLast.Nodup
  known : ∀ n ∈ names, t.contains n
  chain : names.IsChain t.spreadGraph.Follows

theorem DefinitionTable.IsCycle.onCycle {t : DefinitionTable} {n : String} {names : List String}
    (h : t.IsCycle (n :: names)) : t.spreadGraph.OnCycle n := by
  rcases h.closed with ⟨_, inner, heq⟩
  cases heq
  have hpairwise := List.isChain_iff_pairwise.mp (h.chain.imp fun _ _ => TransGen.single)
  exact (List.pairwise_cons.mp hpairwise).1 n (by simp)

theorem Trail.isCycle {c : WalkContext} {path : List String} {s : FragmentSpread}
    {rest : List FragmentSpread} (h : Trail c path (s :: rest)) (hpath : s.name.value ∈ path) :
    c.table.IsCycle (Walk.cycle path s.name.value) where
  closed := ⟨_, _, rfl⟩
  nodup := by
    have := h.nodup.sublist (Walk.prefix_of_mem hpath).sublist
    rw [← List.nodup_reverse] at this
    rw [Walk.cycle, List.dropLast_concat]
    simpa using this
  known := by
    intro n hn
    rw [Walk.cycle_eq_reverse, List.mem_reverse, List.mem_cons] at hn
    rcases hn with rfl | hn
    . exact h.known _ hpath
    . exact h.known n ((Walk.prefix_of_mem hpath).subset hn)
  chain := by
    rw [Walk.cycle_eq_reverse, List.isChain_reverse]
    exact h.chain_cons.prefix (List.cons_prefix_cons.mpr ⟨rfl, Walk.prefix_of_mem hpath⟩)

def TellsOfCycle (c : WalkContext) (start : List String) (p : Problem) : Prop :=
  ∃ s site path, p = .fragmentCycle c.operation s site (Walk.cycle path s.name.value) ∧
    c.table.IsCycle (Walk.cycle path s.name.value) ∧
    c.table.spreadGraph.Reaches start s.name.value

theorem TellsOfCycle.of_reaches {c : WalkContext} {start start' : List String} {p : Problem}
    (h : TellsOfCycle c start p) (hstart : ∀ n, c.table.spreadGraph.Reaches start n →
      c.table.spreadGraph.Reaches start' n) : TellsOfCycle c start' p := by
  rcases h with ⟨s, site, path, heq, hcycle, hreach⟩
  exact ⟨s, site, path, heq, hcycle, hstart _ hreach⟩

theorem Explores.tellsOfCycle {c : WalkContext} {path failed : List String} {site : Site}
    {spreads : List FragmentSpread} {r : Exploration} (h : Explores c path failed site spreads r)
    (htrail : Trail c path spreads) {p : Problem} (hp : p ∈ r.problems)
    (hkind : p.kind = .fragmentCycle) : TellsOfCycle c (spreads.map (·.name.value)) p := by
  induction h with
  | nil => simp at hp
  | cycle hmem _ ih =>
    rcases List.mem_cons.mp hp with rfl | hp
    . exact ⟨_, _, _, rfl, htrail.isCycle hmem, .of_mem (by simp)⟩
    . exact (ih htrail.tail hp).of_reaches fun _ => .mono (by simp)
  | again _ _ _ ih => exact (ih htrail.tail hp).of_reaches fun _ => .mono (by simp)
  | unknown _ _ _ _ ih =>
    rcases List.mem_cons.mp hp with rfl | hp
    . simp [Problem.kind] at hkind
    . exact (ih htrail.tail hp).of_reaches fun _ => .mono (by simp)
  | enter hpath _ hget _ _ ihinner ihrest =>
    rcases List.mem_append.mp hp with hp | hp
    . apply (ihinner (htrail.enter hpath hget) hp).of_reaches
      intro n hn
      exact .enter (.of_mem (by simp)) (DefinitionTable.spreadGraph_of_get? hget) hn
    . exact (ihrest htrail.tail hp).of_reaches fun _ => .mono (by simp)

def ClosesCycle (c : WalkContext) (problems : List Problem) (hop : String × FragmentSpread) :
    Prop :=
  ∃ f before, c.table.get? hop.1 = some f ∧
    .fragmentCycle c.operation hop.2 f.site (before ++ [hop.1, hop.2.name.value]) ∈ problems

namespace FailedInTurn

variable {c : WalkContext} {total failed : List String} {problems : List Problem}

theorem idxOf_lt (h : FailedInTurn c total problems failed) {a : String} {f : Fragment}
    {s : FragmentSpread} (ha : a ∈ failed) (hget : c.table.get? a = some f) (hs : s ∈ f.spreads)
    (hknown : c.table.contains s.name.value)
    (hres : ¬ c.table.spreadGraph.Resolvable s.name.value) :
    ClosesCycle c problems (a, s) ∨
      s.name.value ∈ failed ∧ failed.idxOf a < failed.idxOf s.name.value := by
  induction h with
  | nil => simp at ha
  | @cons n f' path older hget' hn _ hspreads _ ih =>
    have hne {m : String} (hm : m ∈ older) : n ≠ m := fun heq => hn (heq ▸ hm)
    rcases List.mem_cons.mp ha with rfl | ha
    . rw [hget, Option.some.injEq] at hget'
      subst hget'
      cases hspreads s hs with
      | unknown h => simp [DefinitionTable.contains, h] at hknown
      | resolvable h => exact absurd h hres
      | failed h =>
        right
        refine ⟨List.mem_cons_of_mem _ h, ?_⟩
        rw [List.idxOf_cons_self, List.idxOf_cons_ne _ (hne h)]
        omega
      | cycle _ h =>
        left
        rcases Walk.exists_cycle_eq_append a s.name.value path with ⟨before, hbefore⟩
        rw [hbefore] at h
        exact ⟨f, before, hget, h⟩
    . rcases ih ha with hcloses | ⟨hmem, hlt⟩
      . exact .inl hcloses
      . right
        refine ⟨List.mem_cons_of_mem _ hmem, ?_⟩
        rw [List.idxOf_cons_ne _ (hne ha), List.idxOf_cons_ne _ (hne hmem)]
        omega

theorem idxOf_le_of_way (h : FailedInTurn c total problems failed) {a b : String}
    {hops : List (String × FragmentSpread)} (hway : c.table.Way a hops b) (ha : a ∈ failed)
    (hknown : c.table.contains b) (hres : ¬ c.table.spreadGraph.Resolvable b) :
    (∃ hop ∈ hops, ClosesCycle c problems hop) ∨
      failed.idxOf a + hops.length ≤ failed.idxOf b := by
  induction hway with
  | nil => exact .inr (Nat.le_refl _)
  | @cons a f s hops b hget hs hrest ih =>
    rw [← SelectionSet.spreads_eq_allSpreads] at hs
    rcases h.idxOf_lt ha hget hs (hrest.contains hknown) fun hs => hres (hrest.resolvable hs) with
      hcloses | ⟨hmem, hlt⟩
    . exact .inl ⟨_, List.mem_cons_self, hcloses⟩
    rcases ih hmem hknown hres with ⟨hop, hhop, hcloses⟩ | hle
    . exact .inl ⟨hop, List.mem_cons_of_mem _ hhop, hcloses⟩
    . right
      rw [List.length_cons]
      omega

end FailedInTurn

theorem Explores.exists_closesCycle {c : WalkContext} {site : Site}
    {spreads : List FragmentSpread} {r : Exploration} (h : Explores c [] [] site spreads r)
    {n : String} {hops : List (String × FragmentSpread)}
    (hn : c.table.spreadGraph.Reaches (spreads.map (·.name.value)) n)
    (hway : c.table.Way n hops n) (hhops : hops ≠ []) :
    ∃ hop ∈ hops, ClosesCycle c r.problems hop := by
  have hcycle := hway.transGen hhops
  have hknown : c.table.contains n := by
    rcases TransGen.head'_iff.mp hcycle with ⟨_, hfollows, _⟩
    exact DefinitionTable.contains_of_follows hfollows
  have hres : ¬ c.table.spreadGraph.Resolvable n := fun hres => hres.not_onCycle hcycle
  have hmem := h.mem_failed_iff.mpr ⟨hn, hknown, hres⟩
  rcases h.failedInTurn_all.1.idxOf_le_of_way hway hmem hknown hres with hcloses | hle
  . exact hcloses
  . have := List.length_pos_iff.mpr hhops
    omega

theorem SoundClosures.not_onCycle {g : SpreadGraph} {closures : Closures}
    (h : SoundClosures g closures) {entry : String × List String} (hentry : entry ∈ closures)
    {n : String} (hn : g.Reaches [entry.1] n) : ¬ g.OnCycle n := by
  rcases h entry hentry with ⟨names, below, hnames, hvisits, _⟩
  have hall := SpreadGraph.Visits.cons hnames hvisits .nil
  exact hall.not_onCycle_of_mem (hall.mem_iff_reaches.mpr hn)

namespace Resolver

section

variable {r : Resolver} {t : DefinitionTable} {o : Operation}
variable (hr : SoundClosures t.spreadGraph r.closures)

include hr

theorem exists_tellsOfCycle {e : CompileError}
    (he : e ∈ CompileError.ofKind .fragmentCycle ((r.resolve t o).2.problems.map (·.report))) :
    ∃ p, p.report = e ∧ TellsOfCycle (r.context t o) o.spreadNames p := by
  rcases exists_explores r t o with ⟨x, hx⟩
  rw [problems_of_explores hx hr] at he
  rcases List.mem_filter.mp he with ⟨he, hkind⟩
  rcases List.mem_map.mp he with ⟨p, hp, rfl⟩
  have htells := hx.tellsOfCycle (.nil _ _) hp (eq_of_beq hkind)
  rw [o.spreads_map_name] at htells
  exact ⟨p, rfl, htells⟩

theorem exists_closesCycle {n : String} {hops : List (String × FragmentSpread)}
    (hn : t.spreadGraph.Reaches o.spreadNames n) (hway : t.Way n hops n) (hhops : hops ≠ []) :
    ∃ hop ∈ hops, ClosesCycle (r.context t o) (r.resolve t o).2.problems hop := by
  rcases exists_explores r t o with ⟨x, hx⟩
  rw [problems_of_explores hx hr]
  rw [← o.spreads_map_name] at hn
  exact hx.exists_closesCycle hn hway hhops

end

/--
Whatever was resolved before, a cycle is reported if and only if one is reached, and each cycle that
is reached has a spread that is reported. What an error tells of is a cycle, and nothing that leads
to a cycle is ever kept as a closure.
-/
theorem resolve_reports_cycles (t : DefinitionTable) (limit : Int) (history : List Operation)
    (o : Operation) :
    let used := (Resolver.ofTable t limit).resolveAll t history
    let problems := (used.resolve t o).2.problems
    let errors := CompileError.ofKind .fragmentCycle (problems.map (·.report))
    (errors ≠ [] ↔ ∃ n, t.spreadGraph.Reaches o.spreadNames n ∧ t.spreadGraph.OnCycle n) ∧
      (∀ n hops, t.spreadGraph.Reaches o.spreadNames n → t.Way n hops n → hops ≠ [] →
        ∃ hop ∈ hops, ∃ f before, t.get? hop.1 = some f ∧
          .fragmentCycle o hop.2 f.site (before ++ [hop.1, hop.2.name.value]) ∈ problems) ∧
      (∀ e ∈ errors, ∃ names, e.context.lookup "cycle" = some (Json.ofStrings names) ∧
        t.IsCycle names) ∧
      ∀ entry ∈ (used.resolve t o).1.closures, ∀ n, t.spreadGraph.Reaches [entry.1] n →
        ¬ t.spreadGraph.OnCycle n := by
  intro used problems errors
  have hused : SoundClosures t.spreadGraph used.closures := soundClosures_resolveAll (.nil _) _
  refine ⟨⟨?_, ?_⟩, fun n hops => exists_closesCycle hused, ?_, ?_⟩
  . intro hne
    rcases List.exists_mem_of_ne_nil _ hne with ⟨e, he⟩
    rcases exists_tellsOfCycle hused he with ⟨_, _, s, _, _, _, hcycle, hreach⟩
    exact ⟨s.name.value, hreach, hcycle.onCycle⟩
  . rintro ⟨n, hn, hcycle⟩
    rcases DefinitionTable.exists_way_of_transGen hcycle with ⟨hops, hway, hhops⟩
    rcases exists_closesCycle hused hn hway hhops with ⟨hop, _, f, before, _, hmem⟩
    apply List.ne_nil_of_mem
    exact List.mem_filter.mpr ⟨List.mem_map_of_mem hmem, rfl⟩
  . intro e he
    rcases exists_tellsOfCycle hused he with ⟨_, rfl, s, site, path, rfl, hcycle, _⟩
    exact ⟨_, rfl, hcycle⟩
  . intro entry hentry n hn
    exact (soundClosures_resolve hused o).not_onCycle hentry hn

end Resolver

end QueryLinker
