import Mathlib.Logic.Relation

/-!
This module contains the graph that fragments form by spreading each other: what is reached from
some names, what lies on a cycle, and the order in which a recursive walk meets the names.
-/

namespace QueryLinker

open Relation

/-- The names that the fragment of a name spreads, in the order of the text, if there is one. -/
abbrev SpreadGraph := String → Option (List String)

namespace SpreadGraph

variable {g h : SpreadGraph}

def Follows (g : SpreadGraph) (a b : String) : Prop :=
  ∃ names, g a = some names ∧ b ∈ names

def Reaches (g : SpreadGraph) (start : List String) (n : String) : Prop :=
  ∃ a ∈ start, ReflTransGen g.Follows a n

def OnCycle (g : SpreadGraph) (n : String) : Prop :=
  TransGen g.Follows n n

/-- The recursive walk along `start`, in its order, meets the names `met`, some repeatedly. -/
inductive Visits (g : SpreadGraph) : List String → List String → Prop where
  | nil : Visits g [] []
  | cons {n names rest below later} (hn : g n = some names) (hbelow : Visits g names below)
      (hlater : Visits g rest later) : Visits g (n :: rest) (n :: (below ++ later))

theorem Reaches.of_mem {start : List String} {n : String} (hn : n ∈ start) : g.Reaches start n :=
  ⟨n, hn, .refl⟩

theorem Reaches.mono {xs ys : List String} {n : String} (hsub : xs ⊆ ys) (hn : g.Reaches xs n) :
    g.Reaches ys n := by
  rcases hn with ⟨a, ha, han⟩
  exact ⟨a, hsub ha, han⟩

theorem Reaches.enter {start names : List String} {n m : String} (hn : g.Reaches start n)
    (hnames : g n = some names) (hm : g.Reaches names m) : g.Reaches start m := by
  rcases hn with ⟨a, ha, han⟩
  rcases hm with ⟨b, hb, hbm⟩
  exact ⟨a, ha, (han.tail ⟨names, hnames, hb⟩).trans hbm⟩

theorem reaches_congr {start : List String} (heq : ∀ n, g.Reaches start n → g n = h n)
    (n : String) : g.Reaches start n ↔ h.Reaches start n := by
  constructor
  . rintro ⟨a, ha, han⟩
    refine ⟨a, ha, ?_⟩
    induction han with
    | refl => exact .refl
    | tail hab hbc ih =>
      rcases hbc with ⟨names, hnames, hmem⟩
      rw [heq _ ⟨a, ha, hab⟩] at hnames
      exact ih.tail ⟨names, hnames, hmem⟩
  . rintro ⟨a, ha, han⟩
    refine ⟨a, ha, ?_⟩
    induction han with
    | refl => exact .refl
    | tail _ hbc ih =>
      rcases hbc with ⟨names, hnames, hmem⟩
      rw [← heq _ ⟨a, ha, ih⟩] at hnames
      exact ih.tail ⟨names, hnames, hmem⟩

namespace Visits

variable {start met : List String}

theorem unique {met' : List String} (hv : g.Visits start met) (hv' : g.Visits start met') :
    met = met' := by
  induction hv generalizing met' with
  | nil => cases hv'; rfl
  | cons hn _ _ ihbelow ihlater =>
    cases hv' with
    | cons hn' hbelow' hlater' =>
      rw [hn] at hn'
      cases hn'
      rw [ihbelow hbelow', ihlater hlater']

theorem start_subset (hv : g.Visits start met) : start ⊆ met := by
  induction hv with
  | nil => simp
  | cons hn _ _ _ ih =>
    intro m hm
    rcases List.mem_cons.mp hm with rfl | hm
    . simp
    . simp [ih hm]

theorem head_mem {n : String} {rest : List String} (hv : g.Visits (n :: rest) met) : n ∈ met :=
  hv.start_subset (by simp)

theorem exists_of_mem (hv : g.Visits start met) {n : String} (hn : n ∈ met) :
    ∃ names below, g n = some names ∧ g.Visits names below ∧ below ⊆ met ∧
      below.length < met.length := by
  induction hv with
  | nil => simp at hn
  | @cons m names rest below later hm hbelow _ ihbelow ihlater =>
    simp only [List.mem_cons, List.mem_append] at hn
    rcases hn with rfl | hn | hn
    . refine ⟨names, below, hm, hbelow, ?_, ?_⟩
      . intro x hx
        simp [hx]
      . rw [List.length_cons, List.length_append]
        omega
    . rcases ihbelow hn with ⟨names', below', h1, h2, h3, h4⟩
      refine ⟨names', below', h1, h2, ?_, by simp; omega⟩
      intro x hx
      simp [h3 hx]
    . rcases ihlater hn with ⟨names', below', h1, h2, h3, h4⟩
      refine ⟨names', below', h1, h2, ?_, by simp; omega⟩
      intro x hx
      simp [h3 hx]

theorem isSome_of_mem (hv : g.Visits start met) {n : String} (hn : n ∈ met) : (g n).isSome := by
  rcases hv.exists_of_mem hn with ⟨names, _, hnames, _⟩
  simp [hnames]

theorem mem_of_follows (hv : g.Visits start met) {a b : String} (ha : a ∈ met)
    (hab : g.Follows a b) : b ∈ met := by
  rcases hv.exists_of_mem ha with ⟨names, below, hnames, hbelow, hsub, _⟩
  rcases hab with ⟨names', hnames', hb⟩
  rw [hnames] at hnames'
  cases hnames'
  exact hsub (hbelow.start_subset hb)

theorem reaches_of_mem (hv : g.Visits start met) {n : String} (hn : n ∈ met) :
    g.Reaches start n := by
  induction hv with
  | nil => simp at hn
  | @cons m names rest below later hm _ _ ihbelow ihlater =>
    simp only [List.mem_cons, List.mem_append] at hn
    rcases hn with rfl | hn | hn
    . exact .of_mem (by simp)
    . exact .enter (.of_mem (by simp)) hm (ihbelow hn)
    . exact (ihlater hn).mono (by simp)

theorem mem_iff_reaches (hv : g.Visits start met) {n : String} : n ∈ met ↔ g.Reaches start n := by
  constructor
  . exact hv.reaches_of_mem
  . rintro ⟨a, ha, han⟩
    induction han with
    | refl => exact hv.start_subset ha
    | tail _ hbc ih => exact hv.mem_of_follows ih hbc

theorem shorter_of_follows {a b : String} {names below : List String} (ha : g a = some names)
    (hv : g.Visits names below) (hab : g.Follows a b) :
    ∃ names' below', g b = some names' ∧ g.Visits names' below' ∧
      below'.length < below.length := by
  rcases hab with ⟨names', hnames', hb⟩
  rw [ha] at hnames'
  cases hnames'
  rcases hv.exists_of_mem (hv.start_subset hb) with ⟨names', below', h1, h2, _, h4⟩
  exact ⟨names', below', h1, h2, h4⟩

theorem shorter_of_transGen {a b : String} {names below : List String} (ha : g a = some names)
    (hv : g.Visits names below) (hab : TransGen g.Follows a b) :
    ∃ names' below', g b = some names' ∧ g.Visits names' below' ∧
      below'.length < below.length := by
  induction hab with
  | single hab => exact shorter_of_follows ha hv hab
  | tail _ hbc ih =>
    rcases ih with ⟨names', below', hb, hv', hlt⟩
    rcases shorter_of_follows hb hv' hbc with ⟨names'', below'', hc, hv'', hlt'⟩
    exact ⟨names'', below'', hc, hv'', by omega⟩

theorem not_onCycle_of_mem (hv : g.Visits start met) {n : String} (hn : n ∈ met) :
    ¬ g.OnCycle n := by
  intro hcycle
  -- Along a cycle the walk below `n` would be shorter than itself.
  rcases hv.exists_of_mem hn with ⟨names, below, hnames, hbelow, _⟩
  rcases shorter_of_transGen hnames hbelow hcycle with ⟨names', below', hnames', hbelow', hlt⟩
  rw [hnames] at hnames'
  cases hnames'
  rw [hbelow.unique hbelow'] at hlt
  omega

end Visits

end SpreadGraph

end QueryLinker
