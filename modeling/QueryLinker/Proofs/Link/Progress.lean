import QueryLinker.Proofs.Link.Resolver

/-!
This module contains that a walk comes to an end and repeats no work: no fragment is opened twice by
one walk, and a fragment whose closure is known is not opened any more, however the table changes
between the walks.
-/

namespace QueryLinker

open Relation

namespace Walk

variable {c : WalkContext} {w w' : Walk}

structure Tracked (w : Walk) : Prop where
  names : w.frames.map (·.name?) = w.path.map some ++ [none]
  nodup : w.path.Nodup
  inProgress : ∀ n, w.inProgress.contains n ↔ n ∈ w.path
  top : w.frames ≠ []
  parent : ∀ frame below, w.frames = frame :: below → frame.name?.isSome → below ≠ []
  index : ∀ n, w.inProgress.contains n → w.path.reverse.idxOf n < w.path.length ∧
    cycle w.path n = w.path.reverse.drop (w.path.reverse.idxOf n) ++ [n]

theorem cycle_eq_drop {path : List String} {n : String} (hpath : path.Nodup) (hn : n ∈ path) :
    cycle path n = path.reverse.drop (path.reverse.idxOf n) ++ [n] := by
  rcases eq_append_of_mem hn with ⟨post, heq⟩
  have hpost : n ∉ post.reverse := by
    rw [heq, List.nodup_append] at hpath
    rw [List.mem_reverse]
    exact (List.nodup_cons.mp hpath.2.1).1
  unfold cycle
  generalize path.takeWhile (· != n) = inner at heq
  subst heq
  rw [List.reverse_append, List.reverse_cons, List.append_assoc, List.idxOf_append, if_neg hpost]
  simp

theorem WellFormed.tracked (hw : w.WellFormed) : w.Tracked where
  names := hw.stacked.map_name?
  nodup := hw.nodup
  inProgress := hw.inProgress
  top := hw.frames_ne_nil
  parent := by
    intro frame below hframes hname hbelow
    have hnames := hw.stacked.map_name?
    rw [hframes, hbelow] at hnames
    cases hpath : w.path with
    | nil => simp_all
    | cons n path => simp [hpath] at hnames
  index := by
    intro n hn
    rw [hw.inProgress] at hn
    refine ⟨?_, cycle_eq_drop hw.nodup hn⟩
    rw [← List.length_reverse, List.idxOf_lt_length_iff, List.mem_reverse]
    exact hn

theorem wellFormed_of_reach (hw : w.WellFormed)
    (h : ReflTransGen (fun w w' => w.step c = .inl w') w w') : w'.WellFormed := by
  induction h with
  | refl => exact hw
  | tail _ hstep ih => exact (Step.of_step_eq ih hstep).wellFormed ih

theorem Step.closures_prefix (h : Step c w w') : w.closures <+: w'.closures := by
  cases h with
  | leave => exact prefix_keep _ _ _
  | _ => exact List.prefix_rfl

theorem Step.entered_subset (h : Step c w w') (hw : w.WellFormed) : w.entered ⊆ w'.entered := by
  cases h with
  | enter => exact List.subset_cons_self _ _
  | @leave frame parent below n hframes hrest hname =>
    have hstacked := hw.stacked
    rw [hframes] at hstacked
    rcases hstacked.of_name hname with ⟨path, hpath, _⟩
    have hkeep := map_fst_subset_keep w.closures n frame.closure?
    intro m hm
    simp only [entered, leaving, hpath, List.mem_append, List.mem_cons, List.tail_cons,
      List.map_append, List.map_cons, List.map_nil, List.not_mem_nil, or_false] at hm ⊢
    rcases hm with ((rfl | hm) | hm) | hm
    . simp
    . simp [hm]
    . simp [hm]
    . exact .inr (hkeep hm)
  | _ => exact List.Subset.refl _

theorem Step.nodup_closures (h : Step c w w') (hw : w.WellFormed)
    (hclosures : (w.closures.map (·.1)).Nodup) : (w'.closures.map (·.1)).Nodup := by
  cases h with
  | @leave frame parent below n hframes hrest hname =>
    have hstacked := hw.stacked
    rw [hframes] at hstacked
    rcases hstacked.of_name hname with ⟨path, hpath, _⟩
    have hfresh := hw.closures_fresh n (by simp [hpath])
    dsimp only [leaving]
    cases frame.closure? with
    | none => exact hclosures
    | some closure =>
      simp only [keep, List.map_append, List.map_cons, List.map_nil]
      rw [List.nodup_append]
      refine ⟨hclosures, by simp, ?_⟩
      intro m hm m' hm' heq
      rw [List.mem_singleton] at hm'
      exact hfresh (hm' ▸ heq ▸ hm)
  | _ => exact hclosures

def opened? (w w' : Walk) : Option String :=
  if w.frames.length < w'.frames.length then w'.frames.head?.bind (·.name?) else none

def openings (c : WalkContext) : Nat → Walk → List String
  | 0, _ => []
  | fuel + 1, w =>
    match w.step c with
    | .inl w' => (w.opened? w').toList ++ openings c fuel w'
    | .inr _ => []

theorem opened?_entering {frame frame' : Frame} {below : List Frame}
    (hframes : w.frames = frame :: below) (n : String) (f : Fragment) :
    w.opened? (w.entering frame' below n f) = some n := by
  simp [opened?, entering, hframes, Frame.ofFragment]

theorem Step.of_opened? (h : Step c w w') (hw : w.WellFormed) {n : String}
    (hn : w.opened? w' = some n) : n ∉ w.entered ∧ n ∈ w'.entered := by
  cases h with
  | enter hframes _ hpath hclosure hvisited =>
    rw [opened?_entering hframes, Option.some.injEq] at hn
    subst hn
    rw [hw.inProgress] at hpath
    simp [entered, entering, hpath, not_mem_map_fst_of_lookup hclosure,
      not_mem_map_fst_of_lookup hvisited, -List.mem_map]
  | cycle hframes => simp [opened?, hframes] at hn
  | known hframes => simp [opened?, hframes] at hn
  | visited hframes => simp [opened?, hframes] at hn
  | unknown hframes => simp [opened?, hframes] at hn
  | leave hframes =>
    simp only [opened?, leaving, hframes, List.length_cons] at hn
    rw [if_neg (by omega)] at hn
    cases hn

theorem openings_spec (hw : w.WellFormed) (fuel : Nat) :
    (openings c fuel w).Nodup ∧ ∀ n ∈ openings c fuel w, n ∉ w.entered := by
  induction fuel generalizing w with
  | zero => simp [openings]
  | succ fuel ih =>
    rw [openings]
    cases hnext : w.step c with
    | inr result => simp
    | inl w' =>
      have hstep := Step.of_step_eq hw hnext
      rcases ih (hstep.wellFormed hw) with ⟨hnodup, hfresh⟩
      have hfresh' : ∀ n ∈ openings c fuel w', n ∉ w.entered :=
        fun n hn hentered => hfresh n hn (hstep.entered_subset hw hentered)
      dsimp only
      cases hopened : w.opened? w' with
      | none => exact ⟨hnodup, hfresh'⟩
      | some n =>
        rcases hstep.of_opened? hw hopened with ⟨hnew, hentered⟩
        rw [Option.toList_some, List.singleton_append, List.nodup_cons, List.forall_mem_cons]
        exact ⟨⟨fun hn => hfresh n hn hentered, hnodup⟩, hnew, hfresh'⟩

theorem closures_of_end {result : Walked} (h : w.step c = .inr result) :
    result.closures = w.closures := by
  unfold step close at h
  split at h
  . cases h
    rfl
  . split at h
    . split at h
      . cases h
      . cases h
        rfl
    . cases h

theorem closures_prefix_run (hw : w.WellFormed) (fuel : Nat) :
    w.closures <+: (run c fuel w).closures := by
  induction fuel generalizing w with
  | zero => exact List.prefix_rfl
  | succ fuel ih =>
    rw [run]
    cases hnext : w.step c with
    | inr result => simp [closures_of_end hnext]
    | inl w' =>
      have hstep := Step.of_step_eq hw hnext
      exact hstep.closures_prefix.trans (ih (hstep.wellFormed hw))

theorem exists_end_of_start (c : WalkContext) (closures : Closures) :
    ∃ w, ReflTransGen (Step c) (start c closures) w ∧
      w.step c = .inr (ofOperation c closures) := by
  have hstart := wellFormed_start c closures
  rcases exists_end (c := c) hstart with ⟨w, result, hsteps, hend⟩
  have hrun : ofOperation c closures = result :=
    run_eq_of_steps hsteps hend hstart (stepsLeft_start_le c closures)
  exact ⟨w, hsteps, hrun ▸ hend⟩

theorem nodup_closures_ofOperation (c : WalkContext) {closures : Closures}
    (h : (closures.map (·.1)).Nodup) : ((ofOperation c closures).closures.map (·.1)).Nodup := by
  rcases exists_end_of_start c closures with ⟨w, hsteps, hend⟩
  rw [closures_of_end hend]
  have hw : w.WellFormed ∧ (w.closures.map (·.1)).Nodup := by
    clear hend
    induction hsteps with
    | refl => exact ⟨wellFormed_start c closures, h⟩
    | tail _ hstep ih => exact ⟨hstep.wellFormed ih.1, hstep.nodup_closures ih.1 ih.2⟩
  exact hw.2

end Walk

def Resolver.openings (r : Resolver) (t : DefinitionTable) (o : Operation) : List String :=
  let c := r.context t o
  Walk.openings c (Walk.maxSteps c) (Walk.start c r.closures)

inductive Resolver.Action where
  | resolve (o : Operation)
  /-- An addition, a deletion, or whatever else is done to the table. -/
  | edit (change : DefinitionTable → DefinitionTable)

namespace Resolver.Action

def apply (s : Resolver × DefinitionTable) : Action → Resolver × DefinitionTable
  | .resolve o => ((s.1.resolve s.2 o).1, s.2)
  | .edit change => (s.1, change s.2)

def applyAll (s : Resolver × DefinitionTable) (actions : List Action) :
    Resolver × DefinitionTable :=
  actions.foldl apply s

def opened (s : Resolver × DefinitionTable) : Action → List String
  | .resolve o => s.1.openings s.2 o
  | .edit _ => []

def openedByAll (s : Resolver × DefinitionTable) : List Action → List String
  | [] => []
  | a :: actions => a.opened s ++ openedByAll (a.apply s) actions

variable (s : Resolver × DefinitionTable)

theorem closures_prefix_apply (a : Action) : s.1.closures <+: (a.apply s).1.closures := by
  cases a with
  | resolve o => exact Walk.closures_prefix_run (Walk.wellFormed_start (s.1.context s.2 o) _) _
  | edit change => exact List.prefix_rfl

theorem not_mem_opened (a : Action) {n : String} (hn : n ∈ s.1.closures.map (·.1)) :
    n ∉ a.opened s := by
  cases a with
  | resolve o =>
    intro hopened
    apply (Walk.openings_spec (Walk.wellFormed_start (s.1.context s.2 o) _) _).2 n hopened
    simpa [Walk.entered, Walk.start] using hn
  | edit change => simp [opened]

theorem nodup_closures_apply (a : Action) (h : (s.1.closures.map (·.1)).Nodup) :
    ((a.apply s).1.closures.map (·.1)).Nodup := by
  cases a with
  | resolve o => exact Walk.nodup_closures_ofOperation (s.1.context s.2 o) h
  | edit change => exact h

theorem applyAll_spec (actions : List Action) :
    s.1.closures <+: (applyAll s actions).1.closures ∧
      ∀ n ∈ s.1.closures.map (·.1), n ∉ openedByAll s actions := by
  induction actions generalizing s with
  | nil => simp [applyAll, openedByAll]
  | cons a actions ih =>
    have hkept := closures_prefix_apply s a
    rcases ih (a.apply s) with ⟨hlater, hclosed⟩
    refine ⟨hkept.trans hlater, ?_⟩
    intro n hn
    rw [openedByAll, List.mem_append, not_or]
    exact ⟨not_mem_opened s a hn, hclosed n ((hkept.sublist.map _).subset hn)⟩

theorem nodup_closures_applyAll (actions : List Action) (h : (s.1.closures.map (·.1)).Nodup) :
    ((applyAll s actions).1.closures.map (·.1)).Nodup := by
  induction actions generalizing s with
  | nil => exact h
  | cons a actions ih => exact ih _ (nodup_closures_apply s a h)

end Resolver.Action

/--
A walk ends, keeps track of where it is at every step, and opens no body twice; and a closure that
is once known is never changed or lost, nor is its fragment opened again, whatever is resolved or
done to the table in between.
-/
theorem walks_end_without_repetition :
    (∀ (c : WalkContext) (closures : Closures),
      let next : Walk → Walk → Prop := fun w w' => w.step c = .inl w'
      let start := Walk.start c closures
      (∃ w, ReflTransGen next start w ∧ w.step c = .inr (Walk.ofOperation c closures)) ∧
        ∀ w, ReflTransGen next start w → w.Tracked ∧ ∀ fuel,
          (Walk.openings c fuel w).Nodup ∧ w.closures <+: (Walk.run c fuel w).closures ∧
            ∀ n ∈ w.closures.map (·.1), n ∉ Walk.openings c fuel w) ∧
    ∀ (t : DefinitionTable) (limit : Int) (earlier later : List Resolver.Action),
      let s := Resolver.Action.applyAll (Resolver.ofTable t limit, t) earlier
      let s' := Resolver.Action.applyAll s later
      (s.1.closures.map (·.1)).Nodup ∧ s.1.closures <+: s'.1.closures ∧
        ∀ n closure, s.1.closures.lookup n = some closure →
          s'.1.closures.lookup n = some closure ∧ n ∉ Resolver.Action.openedByAll s later := by
  constructor
  . intro c closures next start
    have hstart := Walk.wellFormed_start c closures
    constructor
    . rcases Walk.exists_end_of_start c closures with ⟨w, hsteps, hend⟩
      exact ⟨w, hsteps.lift id fun _ _ hstep => hstep.step_eq, hend⟩
    . intro w hsteps
      have hw : w.WellFormed := Walk.wellFormed_of_reach hstart hsteps
      refine ⟨hw.tracked, ?_⟩
      intro fuel
      rcases Walk.openings_spec (c := c) hw fuel with ⟨hnodup, hfresh⟩
      refine ⟨hnodup, Walk.closures_prefix_run hw fuel, ?_⟩
      intro n hn hopened
      apply hfresh n hopened
      simp [Walk.entered, hn, -List.mem_map]
  . intro t limit earlier later s s'
    rcases Resolver.Action.applyAll_spec s later with ⟨hkept, hclosed⟩
    refine ⟨Resolver.Action.nodup_closures_applyAll _ earlier List.nodup_nil, hkept, ?_⟩
    intro n closure hlookup
    constructor
    . rcases hkept with ⟨new, hnew⟩
      rw [← hnew, List.lookup_append, hlookup]
      rfl
    . apply hclosed
      rcases List.lookup_eq_some_iff.mp hlookup with ⟨before, after, heq, _⟩
      simp [heq]

end QueryLinker
