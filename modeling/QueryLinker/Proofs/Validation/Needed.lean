import Mathlib.Data.List.Nodup
import QueryLinker.Proofs.Graphql.Spread
import QueryLinker.Proofs.Link.SpreadGraph
import QueryLinker.Validation.Subject

/-!
This module contains the fragments of a document as the rules see them: the graph that they form,
and that the search for the fragments which an operation needs finds all of them.
-/

namespace QueryLinker.Validation

open Graphql Relation

theorem mem_ownSpreads_cons (f : FragmentSpread) (x : Selection) (ss : List Selection) :
    f ∈ ownSpreads (x :: ss) ↔ x = .spread f ∨ f ∈ ownSpreads ss := by
  cases x with
  | spread g => simp [ownSpreads, eq_comm]
  | _ => simp [ownSpreads]

mutual

theorem mem_setSpreads {f : FragmentSpread} (set : SelectionSet) :
    f ∈ setSpreads set ↔ f ∈ set.allSpreads := by
  cases set with
  | absent => simp [setSpreads, SelectionSet.allSpreads]
  | braces selections loc? =>
    simp only [setSpreads, SelectionSet.allSpreads, List.mem_append]
    exact mem_ownSpreads_or_innerSpreads selections
termination_by structural set

theorem mem_ownSpreads_or_innerSpreads {f : FragmentSpread} (ss : List Selection) :
    f ∈ ownSpreads ss ∨ f ∈ innerSpreads ss ↔ f ∈ allSpreadsIn ss := by
  cases ss with
  | nil => simp [ownSpreads, innerSpreads, allSpreadsIn]
  | cons x ss =>
    rw [mem_ownSpreads_cons, innerSpreads, allSpreadsIn, List.mem_append, List.mem_append,
      ← mem_ownSpreads_or_innerSpreads ss, ← mem_selectionSpreads x]
    grind
termination_by structural ss

theorem mem_selectionSpreads {f : FragmentSpread} (x : Selection) :
    x = .spread f ∨ f ∈ selectionSpreads x ↔ f ∈ x.allSpreads := by
  cases x with
  | field head set =>
    simp only [selectionSpreads, Selection.allSpreads, reduceCtorEq, false_or]
    exact mem_setSpreads set
  | spread g => simp [selectionSpreads, Selection.allSpreads, eq_comm]
  | inline head set =>
    simp only [selectionSpreads, Selection.allSpreads, reduceCtorEq, false_or]
    exact mem_setSpreads set
termination_by structural x

end

theorem mem_spreadNames_iff {n : String} {set : SelectionSet} :
    n ∈ set.spreadNames ↔ ∃ f ∈ setSpreads set, f.name.value = n := by
  simp only [SelectionSet.spreadNames, List.mem_map, mem_setSpreads]

namespace Subject

variable {s : Subject} {n : String} {f : FragmentDefinition}

theorem fragment?_eq_some (h : s.fragment? n = some f) :
    f ∈ s.document.fragments ∧ f.name.value = n := by
  unfold fragment? at h
  rw [List.findRev?_eq_find?_reverse] at h
  exact ⟨List.mem_reverse.mp (List.mem_of_find?_eq_some h), by simpa using List.find?_some h⟩

theorem isSome_fragment?_iff :
    (s.fragment? n).isSome ↔ n ∈ s.document.fragments.map (·.name.value) := by
  unfold fragment?
  rw [List.findRev?_eq_find?_reverse, List.find?_isSome]
  simp

theorem fragment?_of_nodup (hnodup : (s.document.fragments.map (·.name.value)).Nodup)
    (hf : f ∈ s.document.fragments) : s.fragment? f.name.value = some f := by
  have hsome : (s.fragment? f.name.value).isSome := by
    rw [isSome_fragment?_iff]
    exact List.mem_map_of_mem hf
  rcases Option.isSome_iff_exists.mp hsome with ⟨f', hf'⟩
  rcases fragment?_eq_some hf' with ⟨hmem, hname⟩
  rw [hf', List.inj_on_of_nodup_map hnodup hmem hf hname]

def spreadGraph (s : Subject) : SpreadGraph :=
  fun n => (s.fragment? n).map (·.selectionSet.spreadNames)

theorem follows_of_mem {g : FragmentSpread} (h : s.fragment? n = some f)
    (hg : g ∈ setSpreads f.selectionSet) : s.spreadGraph.Follows n g.name.value :=
  ⟨_, by rw [spreadGraph, h, Option.map_some], mem_spreadNames_iff.mpr ⟨g, hg, rfl⟩⟩

theorem exists_of_follows {m : String} (h : s.spreadGraph.Follows n m) :
    ∃ f, s.fragment? n = some f ∧ ∃ g ∈ setSpreads f.selectionSet, g.name.value = m := by
  rcases h with ⟨names, hnames, hm⟩
  rcases Option.map_eq_some_iff.mp hnames with ⟨f, hf, rfl⟩
  exact ⟨f, hf, mem_spreadNames_iff.mp hm⟩

def unseen (s : Subject) (seen : List String) : List String :=
  (s.document.fragments.map (·.name.value)).filter (· ∉ seen)

/-- The name was seen, or there is no fragment of the name, or it is among the found ones. -/
def Settled (s : Subject) (seen : List String) (found : List FragmentDefinition) (n : String) :
    Prop :=
  n ∈ seen ∨ s.fragment? n = none ∨ ∃ f ∈ found, s.fragment? n = some f

theorem Settled.mono {seen : List String} {found found' : List FragmentDefinition}
    (h : s.Settled seen found n) (hsub : found ⊆ found') : s.Settled seen found' n := by
  rcases h with hseen | hnone | ⟨f, hf, hget⟩
  . exact .inl hseen
  . exact .inr (.inl hnone)
  . exact .inr (.inr ⟨f, hsub hf, hget⟩)

theorem unseen_cons_lt {seen : List String} (hn : n ∉ seen) (hsome : (s.fragment? n).isSome) :
    (s.unseen (n :: seen)).length < (s.unseen seen).length := by
  unfold unseen
  have hfilter : (s.document.fragments.map (·.name.value)).filter (· ∉ n :: seen) =
      ((s.document.fragments.map (·.name.value)).filter (· ∉ seen)).filter (· ≠ n) := by
    rw [List.filter_filter]
    congr 1
    funext m
    simp [List.mem_cons, not_or, Bool.decide_and]
  rw [hfilter, List.length_filter_lt_length_iff_exists]
  refine ⟨n, ?_, by simp⟩
  rw [List.mem_filter]
  exact ⟨isSome_fragment?_iff.mp hsome, by simpa using hn⟩

theorem unseen_cons_le (seen : List String) :
    (s.unseen (n :: seen)).length ≤ (s.unseen seen).length := by
  unfold unseen
  apply List.Sublist.length_le
  apply List.monotone_filter_right
  intro m hm
  simp only [decide_eq_true_eq, List.mem_cons, not_or] at hm ⊢
  exact hm.2

theorem newFragments_spec (s : Subject) (seen : List String) (fs : List FragmentSpread) :
    (∀ f ∈ fs, f.name.value ∈ (s.newFragments seen fs).2) ∧
      (∀ m ∈ (s.newFragments seen fs).2, s.Settled seen (s.newFragments seen fs).1 m) ∧
      (s.unseen (s.newFragments seen fs).2).length + (s.newFragments seen fs).1.length ≤
        (s.unseen seen).length ∧
      seen ⊆ (s.newFragments seen fs).2 := by
  induction fs generalizing seen with
  | nil =>
    unfold newFragments
    exact ⟨by simp, fun m hm => .inl hm, by simp, fun m hm => hm⟩
  | cons f fs ih =>
    unfold newFragments
    split
    next hseen =>
      rcases ih seen with ⟨hnames, hsettled, hlength, hsub⟩
      rw [List.contains_iff_mem] at hseen
      rw [List.forall_mem_cons]
      exact ⟨⟨hsub hseen, hnames⟩, hsettled, hlength, hsub⟩
    next hseen =>
      rw [List.contains_iff_mem] at hseen
      rcases ih (f.name.value :: seen) with ⟨hnames, hsettled, hlength, hsub⟩
      dsimp only
      rw [List.forall_mem_cons]
      refine ⟨⟨hsub (by simp), hnames⟩, ?_, ?_, fun m hm => hsub (by simp [hm])⟩
      . intro m hm
        rcases hsettled m hm with hmem | hnone | ⟨g, hg, hget⟩
        . rcases List.mem_cons.mp hmem with rfl | hmem
          . cases hget : s.fragment? f.name.value with
            | none => exact .inr (.inl hget)
            | some g => exact .inr (.inr ⟨g, by simp, hget⟩)
          . exact .inl hmem
        . exact .inr (.inl hnone)
        . exact .inr (.inr ⟨g, List.mem_append_right _ hg, hget⟩)
      . cases hget : s.fragment? f.name.value with
        | none =>
          have := unseen_cons_le (s := s) (n := f.name.value) seen
          simp only [Option.toList_none, List.nil_append]
          omega
        | some g =>
          have := unseen_cons_lt hseen (by rw [hget]; rfl)
          simp only [Option.toList_some, List.length_append, List.length_singleton]
          omega

theorem settled_fragmentsFrom (s : Subject) (fuel : Nat) (seen : List String)
    (stack : List SelectionSet) (hfuel : (s.unseen seen).length + stack.length ≤ fuel) :
    (∀ set ∈ stack, ∀ n ∈ set.spreadNames, s.Settled seen (s.fragmentsFrom fuel seen stack) n) ∧
      ∀ f ∈ s.fragmentsFrom fuel seen stack, ∀ n ∈ f.selectionSet.spreadNames,
        s.Settled seen (s.fragmentsFrom fuel seen stack) n := by
  induction fuel generalizing seen stack with
  | zero =>
    have hstack : stack = [] := List.length_eq_zero_iff.mp (by omega)
    rw [hstack]
    simp [fragmentsFrom]
  | succ fuel ih =>
    cases stack with
    | nil => simp [fragmentsFrom]
    | cons set stack =>
      rcases s.newFragments_spec seen (setSpreads set) with ⟨hnames, hsettled, hlength, _⟩
      unfold fragmentsFrom
      dsimp only
      generalize (s.newFragments seen (setSpreads set)).1 = found at *
      generalize (s.newFragments seen (setSpreads set)).2 = seen' at *
      rcases ih seen' ((found.map (·.selectionSet)).reverse ++ stack) (by
        simp only [List.length_cons] at hfuel
        simp only [List.length_append, List.length_reverse, List.length_map]
        omega) with ⟨hstack, hfound⟩
      generalize s.fragmentsFrom fuel seen' ((found.map (·.selectionSet)).reverse ++ stack) =
        later at *
      have hall {m : String} (hm : s.Settled seen' later m) :
          s.Settled seen (found ++ later) m := by
        rcases hm with hmem | hnone | ⟨g, hg, hget⟩
        . exact (hsettled m hmem).mono (List.subset_append_left _ _)
        . exact .inr (.inl hnone)
        . exact .inr (.inr ⟨g, List.mem_append_right _ hg, hget⟩)
      constructor
      . intro set' hset' m hm
        rcases List.mem_cons.mp hset' with rfl | hset'
        . rcases mem_spreadNames_iff.mp hm with ⟨f, hf, rfl⟩
          exact hall (.inl (hnames f hf))
        . exact hall (hstack set' (List.mem_append_right _ hset') m hm)
      . intro f hf m hm
        rcases List.mem_append.mp hf with hf | hf
        . apply hall
          apply hstack f.selectionSet _ m hm
          apply List.mem_append_left
          rw [List.mem_reverse]
          exact List.mem_map_of_mem hf
        . exact hall (hfound f hf m hm)

theorem mem_fragmentsOf {o : OperationDefinition}
    (hn : s.spreadGraph.Reaches o.selectionSet.spreadNames n) (hf : s.fragment? n = some f) :
    f ∈ s.fragmentsOf o := by
  rcases s.settled_fragmentsFrom (s.document.fragments.length + 1) [] [o.selectionSet] (by
    have := List.length_filter_le (· ∉ ([] : List String)) (s.document.fragments.map (·.name.value))
    rw [List.length_map] at this
    unfold unseen
    rw [List.length_singleton]
    omega) with ⟨hstart, hfound⟩
  have hall : s.Settled [] (s.fragmentsOf o) n := by
    rcases hn with ⟨a, ha, han⟩
    induction han generalizing f with
    | refl => exact hstart _ (by simp) a ha
    | tail _ hbc ih =>
      rcases exists_of_follows hbc with ⟨g, hg, x, hx, rfl⟩
      rcases ih hg with hnot | hnone | ⟨g', hg', hget⟩
      . cases hnot
      . rw [hg] at hnone
        cases hnone
      . rw [hg, Option.some.injEq] at hget
        subst hget
        exact hfound g hg' _ (mem_spreadNames_iff.mpr ⟨x, hx, rfl⟩)
  rcases hall with hnot | hnone | ⟨g, hg, hget⟩
  . cases hnot
  . rw [hf] at hnone
    cases hnone
  . rw [hf, Option.some.injEq] at hget
    rw [hget]
    exact hg

end Subject

end QueryLinker.Validation
