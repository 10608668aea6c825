import Mathlib.Data.List.Perm.Subperm
import QueryLinker.Proofs.Except
import QueryLinker.Proofs.Validation.Needed
import QueryLinker.Validation.Rules.Fragments

/-!
This module contains what the search for cycles among fragments finds: it reports nothing if there
is no cycle, and if it comes to an end without a report, no fragment that it has visited can be
followed for ever. It comes to an end unless there are more fragments than it may nest.
-/

namespace QueryLinker.Validation.Rules

open Graphql Relation

variable {s : Subject} {fuel : Nat} {way : List (String × FragmentSpread)}
variable {search search' search'' : CycleSearch} {f : FragmentDefinition} {name : String}

def Ending (s : Subject) (n : String) : Prop :=
  Acc (flip s.spreadGraph.Follows) n

theorem not_self_of_acc {α : Type} {r : α → α → Prop} {a : α} (h : Acc r a) : ¬ r a a := by
  induction h with
  | intro a _ ih => exact fun haa => ih a haa haa

theorem Ending.not_onCycle {n : String} (h : Ending s n) : ¬ s.spreadGraph.OnCycle n := by
  intro hcycle
  have hflip : TransGen (flip s.spreadGraph.Follows) n n := by
    rw [← transGen_swap]
    exact hcycle
  exact not_self_of_acc h.transGen hflip

theorem ending_of_unknown {n : String} (h : s.fragment? n = none) : Ending s n := by
  refine .intro _ fun m hm => ?_
  rcases Subject.exists_of_follows hm with ⟨f, hf, _⟩
  rw [h] at hf
  cases hf

theorem ending_of_spreads {n : String} (hf : s.fragment? n = some f)
    (h : ∀ g ∈ setSpreads f.selectionSet, Ending s g.name.value) : Ending s n := by
  refine .intro _ fun m hm => ?_
  rcases Subject.exists_of_follows hm with ⟨f', hf', g, hg, rfl⟩
  rw [hf, Option.some.injEq] at hf'
  subst hf'
  exact h g hg

def Orderly (s : Subject) (names visited : List String) : Prop :=
  ∀ m ∈ visited, m ∈ names ∨ Ending s m

structure Advances (s : Subject) (names : List String) (search search' : CycleSearch) : Prop where
  visited : search.visited ⊆ search'.visited
  errors : search.errors <+: search'.errors
  cycle : search'.errors ≠ search.errors → ∃ n, s.spreadGraph.OnCycle n
  orderly : search'.errors = search.errors → Orderly s names search.visited →
    Orderly s names search'.visited

namespace Advances

variable {names : List String}

theorem refl (s : Subject) (names : List String) (search : CycleSearch) :
    Advances s names search search where
  visited := fun _ h => h
  errors := List.prefix_refl _
  cycle := fun h => absurd rfl h
  orderly := fun _ h => h

theorem errors_eq (h : Advances s names search search') (h' : Advances s names search' search'')
    (heq : search''.errors = search.errors) :
    search'.errors = search.errors ∧ search''.errors = search'.errors := by
  have hsame : search.errors = search'.errors := by
    apply h.errors.eq_of_length_le
    rw [← heq]
    exact h'.errors.length_le
  exact ⟨hsame.symm, heq.trans hsame⟩

theorem trans (h : Advances s names search search') (h' : Advances s names search' search'') :
    Advances s names search search'' where
  visited := List.Subset.trans h.visited h'.visited
  errors := h.errors.trans h'.errors
  cycle := by
    intro hne
    by_cases heq : search'.errors = search.errors
    . exact h'.cycle (by rw [heq]; exact hne)
    . exact h.cycle heq
  orderly := by
    intro heq horderly
    rcases h.errors_eq h' heq with ⟨heq', heq''⟩
    exact h'.orderly heq'' (h.orderly heq' horderly)

end Advances

def Leading (s : Subject) (way : List (String × FragmentSpread)) (n : String) : Prop :=
  ∀ m ∈ way.map (·.1), TransGen s.spreadGraph.Follows m n

theorem any_way_iff (way : List (String × FragmentSpread)) (n : String) :
    way.any (fun step => step.1 == n) ↔ n ∈ way.map (·.1) := by
  simp

theorem searchSpreads_cons (s : Subject) (fuel : Nat) (way : List (String × FragmentSpread))
    (name : String) (search : CycleSearch) (g : FragmentSpread) (gs : List FragmentSpread) :
    ∃ e : Graphql.Error, searchSpreads s fuel way name search (g :: gs) =
      if g.name.value ∈ name :: way.map (·.1) then
        searchSpreads s fuel way name { search with errors := search.errors ++ [e] } gs
      else
        match s.fragment? g.name.value with
        | some f => do
          let search ← searchFragment s fuel ((name, g) :: way) search f
          searchSpreads s fuel way name search gs
        | none => searchSpreads s fuel way name search gs := by
  rw [searchSpreads]
  by_cases hmem : g.name.value ∈ name :: way.map (·.1)
  . have hany := (any_way_iff ((name, g) :: way) _).mpr hmem
    apply Exists.intro
    rw [if_pos hmem]
    dsimp only
    rw [if_pos hany]
    rfl
  . have hany : ¬ ((name, g) :: way).any (fun step => step.1 == g.name.value) :=
      fun h => hmem ((any_way_iff _ _).mp h)
    refine ⟨default, ?_⟩
    rw [if_neg hmem]
    dsimp only
    rw [if_neg hany]
    cases s.fragment? g.name.value <;> rfl

theorem searchSpreads_of_error {g : FragmentSpread} {gs : List FragmentSpread} {halt : Halt}
    (hnew : g.name.value ∉ name :: way.map (·.1)) (hf : s.fragment? g.name.value = some f)
    (h : searchFragment s fuel ((name, g) :: way) search f = .error halt) :
    searchSpreads s fuel way name search (g :: gs) = .error halt := by
  rcases searchSpreads_cons s fuel way name search g gs with ⟨e, heq⟩
  rw [heq, if_neg hnew, hf]
  dsimp only
  rw [h]
  rfl

def FragmentSearched (s : Subject) (fuel : Nat) : Prop :=
  ∀ way search search' f, s.fragment? f.name.value = some f → Leading s way f.name.value →
    f.name.value ∉ way.map (·.1) → searchFragment s fuel way search f = .ok search' →
    Advances s (way.map (·.1)) search search' ∧ f.name.value ∈ search'.visited

theorem advances_searchSpreads (hsearched : FragmentSearched s fuel)
    (hf : s.fragment? name = some f) (hway : Leading s way name) (gs : List FragmentSpread)
    (hgs : ∀ g ∈ gs, g ∈ setSpreads f.selectionSet)
    (h : searchSpreads s fuel way name search gs = .ok search') :
    Advances s (name :: way.map (·.1)) search search' ∧
      (search'.errors = search.errors → Orderly s (name :: way.map (·.1)) search.visited →
        ∀ g ∈ gs, Ending s g.name.value) := by
  induction gs generalizing search with
  | nil =>
    rw [searchSpreads] at h
    cases h
    exact ⟨.refl _ _ _, by simp⟩
  | cons g gs ih =>
    rw [List.forall_mem_cons] at hgs
    have hfollows : s.spreadGraph.Follows name g.name.value := Subject.follows_of_mem hf hgs.1
    have hleading : Leading s ((name, g) :: way) g.name.value := by
      rw [Leading, List.map_cons, List.forall_mem_cons]
      exact ⟨.single hfollows, fun m hm => (hway m hm).tail hfollows⟩
    rcases searchSpreads_cons s fuel way name search g gs with ⟨e, heq⟩
    rw [heq] at h
    split at h
    next hmem =>
      -- A spread of what is on the way closes a cycle.
      have hcycle : ∃ n, s.spreadGraph.OnCycle n := ⟨_, hleading _ hmem⟩
      rcases ih hgs.2 h with ⟨hadvances, _⟩
      have hgrown : search'.errors ≠ search.errors := by
        intro hsame
        have := hadvances.errors.length_le
        rw [hsame, List.length_append, List.length_singleton] at this
        omega
      refine ⟨⟨hadvances.visited, ?_, fun _ => hcycle, fun h => absurd h hgrown⟩,
        fun h => absurd h hgrown⟩
      exact (List.prefix_append _ _).trans hadvances.errors
    next hmem =>
      split at h
      next f' hf' =>
        rcases bind_eq_ok_iff.mp h with ⟨search₁, hfragment, hlater⟩
        have hname := (Subject.fragment?_eq_some hf').2
        rcases hsearched _ _ _ f' (by rw [hname]; exact hf') (by rw [hname]; exact hleading)
          (by rw [hname]; exact hmem) hfragment with ⟨hfirst, hvisited⟩
        rcases ih hgs.2 hlater with ⟨hrest, hending⟩
        refine ⟨hfirst.trans hrest, fun hsame horderly => ?_⟩
        rcases hfirst.errors_eq hrest hsame with ⟨heq₁, heq₂⟩
        have horderly₁ := hfirst.orderly heq₁ horderly
        rw [List.forall_mem_cons]
        refine ⟨?_, hending heq₂ horderly₁⟩
        rw [hname] at hvisited
        exact (horderly₁ _ hvisited).resolve_left hmem
      next hnone =>
        rcases ih hgs.2 h with ⟨hrest, hending⟩
        refine ⟨hrest, fun hsame horderly => ?_⟩
        rw [List.forall_mem_cons]
        exact ⟨ending_of_unknown hnone, hending hsame horderly⟩

theorem fragmentSearched (s : Subject) (fuel : Nat) : FragmentSearched s fuel := by
  induction fuel with
  | zero =>
    intro way search search' f _ _ _ h
    rw [searchFragment] at h
    cases h
  | succ fuel ih =>
    intro way search search' f hf hway hnot h
    rw [searchFragment] at h
    split at h
    next hvisited =>
      cases h
      exact ⟨.refl _ _ _, List.contains_iff_mem.mp hvisited⟩
    next hvisited =>
      rcases advances_searchSpreads ih hf hway _ (fun _ hg => hg) h with ⟨hadvances, hending⟩
      have hstart : Orderly s (way.map (·.1)) search.visited →
          Orderly s (f.name.value :: way.map (·.1)) (f.name.value :: search.visited) := by
        intro horderly
        rw [Orderly, List.forall_mem_cons]
        refine ⟨.inl (by simp), fun m hm => ?_⟩
        exact (horderly m hm).imp_left (List.mem_cons_of_mem _)
      refine ⟨⟨?_, hadvances.errors, hadvances.cycle, fun hsame horderly m hm => ?_⟩,
        hadvances.visited (by simp)⟩
      . exact fun m hm => hadvances.visited (List.mem_cons_of_mem _ hm)
      . rcases hadvances.orderly hsame (hstart horderly) m hm with hmem | hend
        . rcases List.mem_cons.mp hmem with rfl | hmem
          . exact .inr (ending_of_spreads hf (hending hsame (hstart horderly)))
          . exact .inl hmem
        . exact .inr hend

theorem searchSpreads_error {halt : Halt} (gs : List FragmentSpread)
    (hfragment : ∀ way search f, searchFragment s fuel way search f = .error halt → halt = .tooDeep)
    (h : searchSpreads s fuel way name search gs = .error halt) : halt = .tooDeep := by
  induction gs generalizing search with
  | nil =>
    rw [searchSpreads] at h
    cases h
  | cons g gs ih =>
    rcases searchSpreads_cons s fuel way name search g gs with ⟨e, heq⟩
    rw [heq] at h
    split at h
    . exact ih h
    . split at h
      next f _ =>
        cases hfirst : searchFragment s fuel ((name, g) :: way) search f with
        | error halt' =>
          rw [hfirst] at h
          cases h
          exact hfragment _ _ _ hfirst
        | ok search₁ =>
          rw [hfirst] at h
          exact ih h
      next => exact ih h

theorem searchFragment_error {halt : Halt}
    (h : searchFragment s fuel way search f = .error halt) : halt = .tooDeep := by
  induction fuel generalizing way search f with
  | zero =>
    rw [searchFragment] at h
    cases h
    rfl
  | succ fuel ih =>
    rw [searchFragment] at h
    split at h
    . cases h
    . exact searchSpreads_error _ (fun _ _ _ => ih) h

structure Distinct (s : Subject) (names : List String) : Prop where
  nodup : names.Nodup
  known : ∀ n ∈ names, n ∈ s.document.fragments.map (·.name.value)

theorem Distinct.length_le {names : List String} (h : Distinct s names) :
    names.length ≤ s.document.fragments.length := by
  rw [← List.length_map (f := fun f : FragmentDefinition => f.name.value)]
  exact (List.Nodup.subperm h.nodup h.known).length_le

theorem exists_searchSpreads (gs : List FragmentSpread)
    (hdistinct : Distinct s (name :: way.map (·.1)))
    (hsearched : ∀ way search f, Distinct s (f.name.value :: way.map (·.1)) →
      s.document.fragments.length ≤ fuel + way.length →
      ∃ search', searchFragment s fuel way search f = .ok search')
    (hfuel : s.document.fragments.length ≤ fuel + (way.length + 1)) (search : CycleSearch) :
    ∃ search', searchSpreads s fuel way name search gs = .ok search' := by
  induction gs generalizing search with
  | nil => exact ⟨search, by rw [searchSpreads]⟩
  | cons g gs ih =>
    rcases searchSpreads_cons s fuel way name search g gs with ⟨e, heq⟩
    rw [heq]
    split
    . exact ih _
    next hmem =>
      cases hf : s.fragment? g.name.value with
      | none => exact ih _
      | some f =>
        rcases Subject.fragment?_eq_some hf with ⟨hdocument, hname⟩
        have hnew : Distinct s (f.name.value :: ((name, g) :: way).map (·.1)) := by
          refine ⟨List.nodup_cons.mpr ⟨by rw [hname]; exact hmem, hdistinct.nodup⟩, ?_⟩
          rw [List.forall_mem_cons]
          exact ⟨List.mem_map_of_mem hdocument, hdistinct.known⟩
        rcases hsearched _ search f hnew hfuel with ⟨search₁, hfirst⟩
        rcases ih search₁ with ⟨search₂, hrest⟩
        exact ⟨search₂, bind_eq_ok_iff.mpr ⟨search₁, hfirst, hrest⟩⟩

theorem exists_searchFragment (hdistinct : Distinct s (f.name.value :: way.map (·.1)))
    (hfuel : s.document.fragments.length ≤ fuel + way.length) (search : CycleSearch) :
    ∃ search', searchFragment s fuel way search f = .ok search' := by
  induction fuel generalizing way search f with
  | zero =>
    have := hdistinct.length_le
    rw [List.length_cons, List.length_map] at this
    omega
  | succ fuel ih =>
    rw [searchFragment]
    split
    . exact ⟨search, rfl⟩
    . exact exists_searchSpreads _ hdistinct (fun _ search _ hnew hle => ih hnew hle search)
        (by omega) _

end QueryLinker.Validation.Rules
