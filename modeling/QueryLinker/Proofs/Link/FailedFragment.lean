import QueryLinker.Proofs.Link.Resolver

/-!
This module contains which fragments fail in a walk, and why. They are the reachable ones that
cannot be resolved; and in the order in which they fail, each spread of a failed fragment that leads
to another one is either reported to close a cycle or leads to one that failed before.
-/

namespace QueryLinker

open Graphql Relation

namespace DefinitionTable

variable {t : DefinitionTable} {a b : String}

theorem follows_of_spread {f : Fragment} {s : FragmentSpread} (hget : t.get? a = some f)
    (hs : s ∈ f.spreads) : t.spreadGraph.Follows a s.name.value :=
  ⟨_, spreadGraph_of_get? hget, List.mem_map_of_mem hs⟩

theorem exists_spread_of_follows (h : t.spreadGraph.Follows a b) :
    ∃ f s, t.get? a = some f ∧ s ∈ f.spreads ∧ s.name.value = b := by
  rcases h with ⟨names, hnames, hb⟩
  cases hget : t.get? a with
  | none => simp [spreadGraph, hget] at hnames
  | some f =>
    rw [spreadGraph_of_get? hget] at hnames
    cases hnames
    rcases List.mem_map.mp hb with ⟨s, hs, rfl⟩
    exact ⟨f, s, rfl, hs, rfl⟩

theorem contains_of_get? {f : Fragment} (hget : t.get? a = some f) : t.contains a := by
  simp [contains, hget]

theorem contains_of_follows (h : t.spreadGraph.Follows a b) : t.contains a := by
  rcases exists_spread_of_follows h with ⟨f, _, hget, _⟩
  exact contains_of_get? hget

theorem contains_of_resolvable (h : t.spreadGraph.Resolvable a) : t.contains a := by
  rcases h with ⟨met, hv⟩
  have := hv.isSome_of_mem hv.head_mem
  rwa [spreadGraph, Option.isSome_map] at this

end DefinitionTable

inductive Accounted (c : WalkContext) (path failed : List String) (problems : List Problem)
    (site : Site) (s : FragmentSpread) : Prop where
  | unknown (h : c.table.get? s.name.value = none)
  | resolvable (h : c.table.spreadGraph.Resolvable s.name.value)
  | failed (h : s.name.value ∈ failed)
  | cycle (hpath : s.name.value ∈ path)
      (h : .fragmentCycle c.operation s site (Walk.cycle path s.name.value) ∈ problems)

/--
Some of the fragments that fail in all, the last one first. Whatever a fragment spreads is accounted
for by those that failed before it, or by a cycle through fragments that are still to fail.
-/
inductive FailedInTurn (c : WalkContext) (total : List String) (problems : List Problem) :
    List String → Prop where
  | nil : FailedInTurn c total problems []
  | cons {n f path older} (hget : c.table.get? n = some f) (hn : n ∉ older)
      (hpath : n :: path ⊆ total)
      (hspreads : ∀ s ∈ f.spreads, Accounted c (n :: path) older problems f.site s)
      (holder : FailedInTurn c total problems older) : FailedInTurn c total problems (n :: older)

namespace Explores

variable {c : WalkContext} {path failed : List String} {site : Site}
variable {spreads : List FragmentSpread} {r : Exploration}

theorem failedInTurn (h : Explores c path failed site spreads r) {total : List String}
    {problems : List Problem} (hproblems : r.problems ⊆ problems) (htotal : r.failed ⊆ total)
    (hpath : path ⊆ total) (hfresh : ∀ m ∈ path, m ∉ failed)
    (hfailed : FailedInTurn c total problems failed) :
    FailedInTurn c total problems r.failed ∧
      (∀ s ∈ spreads, Accounted c path r.failed problems site s) ∧ ∀ m ∈ path, m ∉ r.failed := by
  induction h with
  | nil => exact ⟨hfailed, by simp, hfresh⟩
  | cycle hmem hrest ih =>
    rw [Exploration.refuse, List.singleton_append, List.cons_subset] at hproblems
    rcases ih hproblems.2 htotal hpath hfresh hfailed with ⟨hturn, hspreads, hfresh'⟩
    refine ⟨hturn, ?_, hfresh'⟩
    rw [List.forall_mem_cons]
    exact ⟨.cycle hmem hproblems.1, hspreads⟩
  | again hmem hfail hrest ih =>
    rcases ih hproblems htotal hpath hfresh hfailed with ⟨hturn, hspreads, hfresh'⟩
    refine ⟨hturn, ?_, hfresh'⟩
    rw [List.forall_mem_cons]
    exact ⟨.failed (hrest.failed_subset hfail), hspreads⟩
  | unknown hmem hfail hget hrest ih =>
    rw [Exploration.refuse, List.append_subset] at hproblems
    rcases ih hproblems.2 htotal hpath hfresh hfailed with ⟨hturn, hspreads, hfresh'⟩
    refine ⟨hturn, ?_, hfresh'⟩
    rw [List.forall_mem_cons]
    exact ⟨.unknown hget, hspreads⟩
  | @enter path failed site s rest f inner r hmem hfail hget hinner hrest ihinner ihrest =>
    rw [Exploration.join, List.append_subset] at hproblems
    cases hnames : inner.names? with
    | some names =>
      have hvisits := (hinner.visits hnames).1
      rw [hinner.failedWith_of_names hnames] at ihrest
      rcases ihrest hproblems.2 htotal hpath hfresh hfailed with ⟨hturn, hspreads, hfresh'⟩
      refine ⟨hturn, ?_, hfresh'⟩
      rw [List.forall_mem_cons]
      exact ⟨.resolvable ⟨_, .cons (DefinitionTable.spreadGraph_of_get? hget) hvisits .nil⟩,
        hspreads⟩
    | none =>
      -- The fragment fails after all that fails inside it, and before whatever is on the path.
      rw [Exploration.failedWith_of_none hnames] at hrest ihrest
      have hsub : s.name.value :: inner.failed ⊆ r.failed := hrest.failed_subset
      have hn : s.name.value ∈ r.failed := hsub List.mem_cons_self
      have hpath' : s.name.value :: path ⊆ total := List.cons_subset.mpr ⟨htotal hn, hpath⟩
      have hfresh₁ : ∀ m ∈ s.name.value :: path, m ∉ failed :=
        List.forall_mem_cons.mpr ⟨hfail, hfresh⟩
      rcases ihinner hproblems.1
          (List.Subset.trans (List.subset_cons_self _ _) (List.Subset.trans hsub htotal)) hpath'
          hfresh₁ hfailed with ⟨hturn, hspreads, hfresh₂⟩
      rw [List.forall_mem_cons] at hfresh₂
      have hfresh₃ : ∀ m ∈ path, m ∉ s.name.value :: inner.failed := by
        intro m hm
        rw [List.mem_cons, not_or]
        exact ⟨fun heq => hmem (heq ▸ hm), hfresh₂.2 m hm⟩
      rcases ihrest hproblems.2 htotal hpath hfresh₃
          (.cons hget hfresh₂.1 hpath' hspreads hturn) with ⟨hturn', hspreads', hfresh'⟩
      refine ⟨hturn', ?_, hfresh'⟩
      rw [List.forall_mem_cons]
      exact ⟨.failed hn, hspreads'⟩

theorem reaches_of_mem_failed (h : Explores c path failed site spreads r) {n : String}
    (hn : n ∈ r.failed) :
    n ∈ failed ∨ c.table.spreadGraph.Reaches (spreads.map (·.name.value)) n := by
  induction h with
  | nil => exact .inl hn
  | cycle _ _ ih => exact (ih hn).imp_right (.mono (by simp))
  | again _ _ _ ih => exact (ih hn).imp_right (.mono (by simp))
  | unknown _ _ _ _ ih => exact (ih hn).imp_right (.mono (by simp))
  | @enter path failed site s rest f inner r _ _ hget _ _ ihinner ihrest =>
    have hs : c.table.spreadGraph.Reaches ((s :: rest).map (·.name.value)) s.name.value :=
      .of_mem (by simp)
    have henter (hn : n ∈ inner.failed) : n ∈ failed ∨
        c.table.spreadGraph.Reaches ((s :: rest).map (·.name.value)) n :=
      (ihinner hn).imp_right (.enter hs (DefinitionTable.spreadGraph_of_get? hget))
    rcases ihrest hn with hn | hn
    . unfold Exploration.failedWith at hn
      split at hn
      . exact henter hn
      . rcases List.mem_cons.mp hn with rfl | hn
        . exact .inr hs
        . exact henter hn
    . exact .inr (hn.mono (by simp))

end Explores

namespace FailedInTurn

variable {c : WalkContext} {total failed : List String} {problems : List Problem}

theorem nodup (h : FailedInTurn c total problems failed) : failed.Nodup := by
  induction h with
  | nil => exact List.nodup_nil
  | cons _ hn _ _ _ ih => exact List.nodup_cons.mpr ⟨hn, ih⟩

theorem contains (h : FailedInTurn c total problems failed) {n : String} (hn : n ∈ failed) :
    c.table.contains n := by
  induction h with
  | nil => simp at hn
  | cons hget _ _ _ _ ih =>
    rcases List.mem_cons.mp hn with rfl | hn
    . exact DefinitionTable.contains_of_get? hget
    . exact ih hn

theorem mem_of_follows (h : FailedInTurn c total problems failed) (hsub : failed ⊆ total)
    {a b : String} (ha : a ∈ failed) (hab : c.table.spreadGraph.Follows a b)
    (hb : c.table.contains b) (hres : ¬ c.table.spreadGraph.Resolvable b) : b ∈ total := by
  induction h with
  | nil => simp at ha
  | @cons n f path older hget _ hpath hspreads _ ih =>
    rw [List.cons_subset] at hsub
    rcases List.mem_cons.mp ha with rfl | ha
    . rcases DefinitionTable.exists_spread_of_follows hab with ⟨f', s, hget', hs, rfl⟩
      rw [hget, Option.some.injEq] at hget'
      subst hget'
      cases hspreads s hs with
      | unknown h => simp [DefinitionTable.contains, h] at hb
      | resolvable h => exact absurd h hres
      | failed h => exact hsub.2 h
      | cycle h _ => exact hpath h
    . exact ih hsub.2 ha

end FailedInTurn

theorem SpreadGraph.Resolvable.of_follows {g : SpreadGraph} {a b : String} (h : g.Resolvable a)
    (hab : g.Follows a b) : g.Resolvable b := by
  rcases h with ⟨met, hv⟩
  exact hv.resolvable (hv.mem_of_follows hv.head_mem hab)

theorem SpreadGraph.Resolvable.not_onCycle {g : SpreadGraph} {n : String} (h : g.Resolvable n) :
    ¬ g.OnCycle n := by
  rcases h with ⟨met, hv⟩
  exact hv.not_onCycle_of_mem hv.head_mem

namespace Explores

variable {c : WalkContext} {site : Site} {spreads : List FragmentSpread} {r : Exploration}

theorem failedInTurn_all (h : Explores c [] [] site spreads r) :
    FailedInTurn c r.failed r.problems r.failed ∧
      ∀ s ∈ spreads, Accounted c [] r.failed r.problems site s := by
  rcases h.failedInTurn (List.Subset.refl _) (List.Subset.refl _) (by simp) (by simp) .nil with
    ⟨hturn, hspreads, _⟩
  exact ⟨hturn, hspreads⟩

theorem mem_failed_iff (h : Explores c [] [] site spreads r) {n : String} :
    n ∈ r.failed ↔ c.table.spreadGraph.Reaches (spreads.map (·.name.value)) n ∧
      c.table.contains n ∧ ¬ c.table.spreadGraph.Resolvable n := by
  rcases h.failedInTurn_all with ⟨hturn, hspreads⟩
  constructor
  . intro hn
    refine ⟨?_, hturn.contains hn, h.failed_not_resolvable (.nil _) (by simp) n hn⟩
    rcases h.reaches_of_mem_failed hn with hn | hn
    . simp at hn
    . exact hn
  . rintro ⟨⟨a, ha, han⟩, hknown, hres⟩
    -- On the way to a fragment that cannot be resolved, none can.
    induction han with
    | refl =>
      rcases List.mem_map.mp ha with ⟨s, hs, rfl⟩
      cases hspreads s hs with
      | unknown h => simp [DefinitionTable.contains, h] at hknown
      | resolvable h => exact absurd h hres
      | failed h => exact h
      | cycle h _ => simp at h
    | tail _ hbn ih =>
      exact hturn.mem_of_follows (List.Subset.refl _)
        (ih (DefinitionTable.contains_of_follows hbn) fun hb => hres (hb.of_follows hbn)) hbn hknown
        hres

end Explores

end QueryLinker
