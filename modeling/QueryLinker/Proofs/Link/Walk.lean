import QueryLinker.Proofs.Link.Exploration

/-!
This module contains the steps of a walk, one case for each thing a step can do, and what they
preserve: the path names the open frames. Each step takes away from the steps that are left, so that
the steps a walk may take are enough.
-/

namespace QueryLinker

namespace Walk

theorem eq_append_of_mem {path : List String} {n : String} (hn : n ∈ path) :
    ∃ post, path = path.takeWhile (· != n) ++ n :: post := by
  induction path with
  | nil => simp at hn
  | cons m path ih =>
    by_cases hm : m = n
    . exact ⟨path, by simp [hm]⟩
    . rcases ih ((List.mem_cons.mp hn).resolve_left (Ne.symm hm)) with ⟨post, hpost⟩
      refine ⟨post, ?_⟩
      rw [List.takeWhile_cons_of_pos (by simpa using hm), List.cons_append, ← hpost]

def keep (closures : Closures) (n : String) : Option (List String) → Closures
  | some closure => closures ++ [(n, closure)]
  | none => closures

def entering (w : Walk) (frame : Frame) (below : List Frame) (n : String) (f : Fragment) : Walk :=
  { w with
    frames := .ofFragment n f :: frame :: below
    path := n :: w.path
    inProgress := w.inProgress.insert n }

def leaving (w : Walk) (parent : Frame) (below : List Frame) (n : String)
    (closure? : Option (List String)) : Walk :=
  { w with
    frames := parent.absorb n closure? :: below
    path := w.path.tail
    inProgress := w.inProgress.erase n
    visited := w.visited ++ [(n, closure?)]
    closures := keep w.closures n closure? }

theorem map_fst_subset_keep (closures : Closures) (n : String) (closure? : Option (List String)) :
    closures.map (·.1) ⊆ (keep closures n closure?).map (·.1) := by
  cases closure? with
  | none => exact List.Subset.refl _
  | some closure => simp [keep]

inductive Step (c : WalkContext) (w : Walk) : Walk → Prop where
  | cycle {frame below spread rest} (hframes : w.frames = frame :: below)
      (hrest : frame.rest = spread :: rest) (hpath : w.inProgress.contains spread.name.value) :
      Step c w
        { w with
          frames := { frame with rest, ok := false } :: below
          problems := .fragmentCycle c.operation spread frame.site
            (Walk.cycle w.path spread.name.value) :: w.problems }
  | known {frame below spread rest closure} (hframes : w.frames = frame :: below)
      (hrest : frame.rest = spread :: rest) (hpath : ¬ w.inProgress.contains spread.name.value)
      (hclosure : w.closures.lookup spread.name.value = some closure) :
      Step c w
        { w with
          frames := ({ frame with rest } : Frame).absorb spread.name.value (some closure) :: below }
  | visited {frame below spread rest closure?} (hframes : w.frames = frame :: below)
      (hrest : frame.rest = spread :: rest) (hpath : ¬ w.inProgress.contains spread.name.value)
      (hclosure : w.closures.lookup spread.name.value = none)
      (hvisited : w.visited.lookup spread.name.value = some closure?) :
      Step c w
        { w with
          frames := ({ frame with rest } : Frame).absorb spread.name.value closure? :: below }
  | unknown {frame below spread rest} (hframes : w.frames = frame :: below)
      (hrest : frame.rest = spread :: rest) (hpath : ¬ w.inProgress.contains spread.name.value)
      (hclosure : w.closures.lookup spread.name.value = none)
      (hvisited : w.visited.lookup spread.name.value = none)
      (hget : c.table.get? spread.name.value = none) :
      Step c w
        { w with
          frames := { frame with rest, ok := false } :: below
          problems := .unknownFragment c.operation spread frame.site
            (closestName c.known c.suggestionLimit spread.name.value) :: w.problems }
  | enter {frame below spread rest f} (hframes : w.frames = frame :: below)
      (hrest : frame.rest = spread :: rest) (hpath : ¬ w.inProgress.contains spread.name.value)
      (hclosure : w.closures.lookup spread.name.value = none)
      (hvisited : w.visited.lookup spread.name.value = none)
      (hget : c.table.get? spread.name.value = some f) :
      Step c w (w.entering { frame with rest } below spread.name.value f)
  | leave {frame parent below n} (hframes : w.frames = frame :: parent :: below)
      (hrest : frame.rest = []) (hname : frame.name? = some n) :
      Step c w (w.leaving parent below n frame.closure?)

theorem Step.step_eq {c : WalkContext} {w w' : Walk} (h : Step c w w') : w.step c = .inl w' := by
  cases h with
  | cycle hframes hrest hpath => simp [step, hframes, hrest, follow, hpath]
  | known hframes hrest hpath hclosure => simp [step, hframes, hrest, follow, hpath, hclosure]
  | visited hframes hrest hpath hclosure hvisited =>
    simp [step, hframes, hrest, follow, hpath, hclosure, hvisited]
  | unknown hframes hrest hpath hclosure hvisited hget =>
    simp [step, hframes, hrest, follow, hpath, hclosure, hvisited, hget]
  | enter hframes hrest hpath hclosure hvisited hget =>
    simp [step, hframes, hrest, follow, hpath, hclosure, hvisited, hget, entering]
  | @leave frame parent below n hframes hrest hname =>
    simp only [step, hframes, hrest, close, hname, leaving]
    cases frame.closure? <;> rfl

/-- The path names the open frames; the operation's frame, at the bottom, has no name. -/
inductive Stacked : List Frame → List String → Prop where
  | bottom {frame} (hname : frame.name? = none) : Stacked [frame] []
  | push {frame frames n path} (hname : frame.name? = some n) (hstack : Stacked frames path) :
      Stacked (frame :: frames) (n :: path)

theorem Stacked.replace {frame frame' : Frame} {below : List Frame} {path : List String}
    (h : Stacked (frame :: below) path) (hname : frame'.name? = frame.name?) :
    Stacked (frame' :: below) path := by
  cases h with
  | bottom h => exact .bottom (hname.trans h)
  | push h hstack => exact .push (hname.trans h) hstack

theorem Stacked.of_name {frame : Frame} {below : List Frame} {path : List String} {n : String}
    (h : Stacked (frame :: below) path) (hname : frame.name? = some n) :
    ∃ path', path = n :: path' ∧ Stacked below path' := by
  cases h with
  | bottom hnone => simp [hname] at hnone
  | push hname' hstack =>
    rw [hname] at hname'
    cases hname'
    exact ⟨_, rfl, hstack⟩

theorem Stacked.map_name? {frames : List Frame} {path : List String} (h : Stacked frames path) :
    frames.map (·.name?) = path.map some ++ [none] := by
  induction h with
  | bottom hname => simp [hname]
  | push hname _ ih => simp [hname, ih]

structure WellFormed (w : Walk) : Prop where
  stacked : Stacked w.frames w.path
  nodup : w.path.Nodup
  inProgress : ∀ n, w.inProgress.contains n ↔ n ∈ w.path
  visited_fresh : ∀ n ∈ w.path, n ∉ w.visited.map (·.1)
  closures_fresh : ∀ n ∈ w.path, n ∉ w.closures.map (·.1)

@[simp]
theorem absorb_name? (frame : Frame) (n : String) (closure? : Option (List String)) :
    (frame.absorb n closure?).name? = frame.name? := by
  unfold Frame.absorb
  split <;> rfl

@[simp]
theorem absorb_site (frame : Frame) (n : String) (closure? : Option (List String)) :
    (frame.absorb n closure?).site = frame.site := by
  unfold Frame.absorb
  split <;> rfl

@[simp]
theorem absorb_rest (frame : Frame) (n : String) (closure? : Option (List String)) :
    (frame.absorb n closure?).rest = frame.rest := by
  unfold Frame.absorb
  split <;> rfl

theorem not_mem_map_fst_of_lookup {α : Type} {n : String} {entries : List (String × α)}
    (h : entries.lookup n = none) : n ∉ entries.map (·.1) := by
  rw [List.lookup_eq_none_iff] at h
  intro hn
  rcases List.mem_map.mp hn with ⟨entry, hentry, rfl⟩
  simpa using h entry hentry

theorem lookup_eq_none_of_not_mem {α : Type} {n : String} {entries : List (String × α)}
    (h : n ∉ entries.map (·.1)) : entries.lookup n = none := by
  rw [List.lookup_eq_none_iff]
  intro entry hentry
  have hne : n ≠ entry.1 := fun heq => h (heq ▸ List.mem_map_of_mem hentry)
  simpa using hne

theorem WellFormed.frames_ne_nil {w : Walk} (hw : w.WellFormed) : w.frames ≠ [] := by
  have hstacked := hw.stacked
  intro hframes
  rw [hframes] at hstacked
  cases hstacked

theorem Step.of_step_eq {c : WalkContext} {w w' : Walk} (hw : w.WellFormed)
    (h : w.step c = .inl w') : Step c w w' := by
  have hnext := h
  have hstacked := hw.stacked
  unfold step at h
  split at h
  . simp at h
  next frame below hframes =>
    split at h
    next hrest =>
      rw [hframes] at hstacked
      generalize w.path = path at hstacked
      cases hstacked with
      | bottom hname => simp [close, hname] at h
      | push hname hstack =>
        cases below with
        | nil => cases hstack
        | cons parent below =>
          have hstep := Step.leave (c := c) hframes hrest hname
          rw [hstep.step_eq] at hnext
          cases hnext
          exact hstep
    next spread rest hrest =>
      rw [Sum.inl.injEq] at h
      subst h
      unfold follow
      dsimp only
      split
      next hpath => exact .cycle hframes hrest hpath
      next hpath =>
        split
        next closure hclosure => exact .known hframes hrest hpath hclosure
        next hclosure =>
          split
          next closure? hvisited => exact .visited hframes hrest hpath hclosure hvisited
          next hvisited =>
            split
            next hget => exact .unknown hframes hrest hpath hclosure hvisited hget
            next f hget => exact .enter hframes hrest hpath hclosure hvisited hget

theorem WellFormed.replace {w : Walk} {frame frame' : Frame} {below : List Frame}
    (hw : w.WellFormed) (hframes : w.frames = frame :: below) (hname : frame'.name? = frame.name?)
    (problems : List Problem) :
    WellFormed { w with frames := frame' :: below, problems } := by
  have hstacked := hw.stacked
  rw [hframes] at hstacked
  exact { hw with stacked := hstacked.replace hname }

theorem WellFormed.enter {w : Walk} {frame frame' : Frame} {below : List Frame} {n : String}
    (hw : w.WellFormed) (hframes : w.frames = frame :: below) (hname : frame'.name? = frame.name?)
    (hpath : ¬ w.inProgress.contains n) (hclosure : w.closures.lookup n = none)
    (hvisited : w.visited.lookup n = none) (f : Fragment) :
    (w.entering frame' below n f).WellFormed := by
  have hstacked := hw.stacked
  rw [hframes] at hstacked
  rw [hw.inProgress] at hpath
  constructor
  case stacked => exact .push rfl (hstacked.replace hname)
  case nodup => exact List.nodup_cons.mpr ⟨hpath, hw.nodup⟩
  case inProgress =>
    intro m
    dsimp only [entering]
    rw [Std.HashSet.contains_insert, Bool.or_eq_true, hw.inProgress, List.mem_cons, beq_iff_eq]
    simp only [eq_comm]
  case visited_fresh =>
    intro m hm
    rcases List.mem_cons.mp hm with rfl | hm
    . exact not_mem_map_fst_of_lookup hvisited
    . exact hw.visited_fresh m hm
  case closures_fresh =>
    intro m hm
    rcases List.mem_cons.mp hm with rfl | hm
    . exact not_mem_map_fst_of_lookup hclosure
    . exact hw.closures_fresh m hm

theorem WellFormed.leave {w : Walk} {frame parent : Frame} {below : List Frame} {n : String}
    (hw : w.WellFormed) (hframes : w.frames = frame :: parent :: below)
    (hname : frame.name? = some n) (closure? : Option (List String)) :
    (w.leaving parent below n closure?).WellFormed := by
  have hstacked := hw.stacked
  rw [hframes] at hstacked
  rcases hstacked.of_name hname with ⟨path, hpath, hstack⟩
  -- The name that is left stands on the path once, so it is not on what remains of it.
  have hnodup := hw.nodup
  rw [hpath, List.nodup_cons] at hnodup
  have htail {m : String} (hm : m ∈ path) : m ∈ w.path ∧ m ≠ n := by
    rw [hpath]
    exact ⟨List.mem_cons_of_mem _ hm, fun heq => hnodup.1 (heq ▸ hm)⟩
  constructor
  case stacked =>
    dsimp only [leaving]
    rw [hpath]
    exact hstack.replace (by simp)
  case nodup =>
    dsimp only [leaving]
    rw [hpath]
    exact hnodup.2
  case inProgress =>
    intro m
    dsimp only [leaving]
    rw [Std.HashSet.contains_erase, Bool.and_eq_true, hw.inProgress, hpath, List.mem_cons,
      List.tail_cons]
    simp only [Bool.not_eq_true', beq_eq_false_iff_ne]
    constructor
    . rintro ⟨hne, rfl | hm⟩
      . exact absurd rfl hne
      . exact hm
    . intro hm
      exact ⟨(htail hm).2.symm, .inr hm⟩
  case visited_fresh =>
    intro m hm
    dsimp only [leaving] at hm ⊢
    rw [hpath, List.tail_cons] at hm
    have := hw.visited_fresh m (htail hm).1
    simp [this, (htail hm).2, -List.mem_map]
  case closures_fresh =>
    intro m hm
    dsimp only [leaving] at hm ⊢
    rw [hpath, List.tail_cons] at hm
    have := hw.closures_fresh m (htail hm).1
    cases closure? with
    | none => exact this
    | some closure => simp [keep, this, (htail hm).2, -List.mem_map]

theorem Step.wellFormed {c : WalkContext} {w w' : Walk} (h : Step c w w') (hw : w.WellFormed) :
    w'.WellFormed := by
  cases h with
  | cycle hframes => exact hw.replace hframes (by rfl) _
  | known hframes => exact hw.replace hframes (by simp) _
  | visited hframes => exact hw.replace hframes (by simp) _
  | unknown hframes => exact hw.replace hframes (by rfl) _
  | enter hframes _ hpath hclosure hvisited =>
    exact hw.enter hframes (by rfl) hpath hclosure hvisited _
  | leave hframes _ hname => exact hw.leave hframes hname _

def entered (w : Walk) : List String :=
  w.path ++ w.visited.map (·.1) ++ w.closures.map (·.1)

def stepsLeft (c : WalkContext) (w : Walk) : Nat :=
  w.frames.foldr (fun frame steps => frame.rest.length + 1 + steps) 0 + c.table.workLeft w.entered

theorem Step.stepsLeft_lt {c : WalkContext} {w w' : Walk} (h : Step c w w') (hw : w.WellFormed) :
    w'.stepsLeft c < w.stepsLeft c := by
  cases h with
  | cycle hframes hrest => simp [stepsLeft, entered, hframes, hrest]
  | known hframes hrest => simp [stepsLeft, entered, hframes, hrest]
  | visited hframes hrest => simp [stepsLeft, entered, hframes, hrest]
  | unknown hframes hrest => simp [stepsLeft, entered, hframes, hrest]
  | @enter frame below spread rest f hframes hrest hpath hclosure hvisited hget =>
    rw [hw.inProgress] at hpath
    have hwork := DefinitionTable.workLeft_enter hget w.entered (spread.name.value :: w.entered)
      (by simp [entered, hpath, not_mem_map_fst_of_lookup hclosure,
        not_mem_map_fst_of_lookup hvisited, -List.mem_map]) (by simp) (by simp)
    simp only [stepsLeft, entering, hframes, hrest, List.foldr_cons, List.length_cons,
      Frame.ofFragment]
    simp only [entered, List.cons_append] at hwork ⊢
    omega
  | @leave frame parent below n hframes hrest hname =>
    have hstacked := hw.stacked
    rw [hframes] at hstacked
    rcases hstacked.of_name hname with ⟨path, hpath, _⟩
    have hwork : c.table.workLeft (path ++ (w.visited ++ [(n, frame.closure?)]).map (·.1) ++
        (keep w.closures n frame.closure?).map (·.1)) ≤ c.table.workLeft w.entered := by
      apply DefinitionTable.workLeft_anti
      rw [entered, hpath]
      intro m hm
      have hkeep := map_fst_subset_keep w.closures n frame.closure?
      simp only [List.mem_append, List.mem_cons] at hm
      simp only [List.mem_append, List.map_append, List.map_cons, List.map_nil, List.mem_singleton]
      rcases hm with ((rfl | hm) | hm) | hm
      . simp
      . simp [hm]
      . simp [hm]
      . exact .inr (hkeep hm)
    simp only [stepsLeft, entered, leaving, hframes, hrest, hpath, List.foldr_cons,
      List.length_nil, absorb_rest, List.tail_cons] at hwork ⊢
    omega

theorem stepsLeft_pos {c : WalkContext} {w : Walk} (hw : w.WellFormed) : 0 < w.stepsLeft c := by
  unfold stepsLeft
  cases hframes : w.frames with
  | nil => exact absurd hframes hw.frames_ne_nil
  | cons frame below =>
    rw [List.foldr_cons]
    omega

theorem run_eq_of_steps {c : WalkContext} {w w' : Walk} {result : Walked} {fuel : Nat}
    (hsteps : Relation.ReflTransGen (Step c) w w') (hend : w'.step c = .inr result)
    (hw : w.WellFormed) (hfuel : w.stepsLeft c ≤ fuel) : run c fuel w = result := by
  induction hsteps using Relation.ReflTransGen.head_induction_on generalizing fuel with
  | refl =>
    have := stepsLeft_pos (c := c) hw
    cases fuel with
    | zero => omega
    | succ fuel => simp [run, hend]
  | head hstep _ ih =>
    have hlt := hstep.stepsLeft_lt hw
    cases fuel with
    | zero => omega
    | succ fuel =>
      simp only [run, hstep.step_eq]
      apply ih
      . exact hstep.wellFormed hw
      . omega

theorem exists_end {c : WalkContext} {w : Walk} (hw : w.WellFormed) :
    ∃ w' result, Relation.ReflTransGen (Step c) w w' ∧ w'.step c = .inr result := by
  induction hsteps : w.stepsLeft c using Nat.strongRecOn generalizing w with
  | ind steps ih =>
    cases hnext : w.step c with
    | inr result => exact ⟨w, result, .refl, hnext⟩
    | inl w₁ =>
      have hstep := Step.of_step_eq hw hnext
      rcases ih _ (hsteps ▸ hstep.stepsLeft_lt hw) (hstep.wellFormed hw) rfl with
        ⟨w', result, hsteps', hend⟩
      exact ⟨w', result, .head hstep hsteps', hend⟩

theorem workLeft_add_le_maxSteps (c : WalkContext) (entered : List String) :
    c.table.workLeft entered + (c.operation.spreads.length + 1) ≤ maxSteps c := by
  unfold maxSteps DefinitionTable.workLeft
  induction c.table.fragments with
  | nil => simp
  | cons entry entries ih =>
    simp only [List.foldr_cons]
    split <;> omega

def start (c : WalkContext) (closures : Closures) : Walk :=
  { frames := [.ofOperation c.operation], closures }

theorem wellFormed_start (c : WalkContext) (closures : Closures) :
    (start c closures).WellFormed where
  stacked := .bottom rfl
  nodup := List.nodup_nil
  inProgress := by simp [start]
  visited_fresh := by simp [start]
  closures_fresh := by simp [start]

theorem stepsLeft_start_le (c : WalkContext) (closures : Closures) :
    (start c closures).stepsLeft c ≤ maxSteps c := by
  have := workLeft_add_le_maxSteps c (start c closures).entered
  simp only [stepsLeft, start, List.foldr_cons, List.foldr_nil, Frame.ofOperation] at this ⊢
  omega

end Walk

end QueryLinker
