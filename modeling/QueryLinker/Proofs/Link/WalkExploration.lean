import QueryLinker.Proofs.Link.AppendNew
import QueryLinker.Proofs.Link.Walk

/-!
This module contains that a walk finds what the recursive walk finds, whatever closures are known
already, as long as they are right; and that the closures stay right.
-/

namespace QueryLinker

open Graphql Relation

/-- Each closure is what the recursive walk meets; the closures of all its names are known, too. -/
def SoundClosures (g : SpreadGraph) (closures : Closures) : Prop :=
  ∀ entry ∈ closures, ∃ names below, g entry.1 = some names ∧ g.Visits names below ∧
    entry.2 = below.eraseDups ∧ ∀ m ∈ below, m ∈ closures.map (·.1)

namespace SoundClosures

variable {g : SpreadGraph} {closures : Closures}

theorem nil (g : SpreadGraph) : SoundClosures g [] := by
  intro entry hentry
  simp at hentry

theorem of_lookup (h : SoundClosures g closures) {n : String} {closure : List String}
    (hn : closures.lookup n = some closure) :
    n ∈ closures.map (·.1) ∧ ∃ names below, g n = some names ∧ g.Visits names below ∧
      closure = below.eraseDups ∧ ∀ m ∈ below, m ∈ closures.map (·.1) := by
  rcases List.lookup_eq_some_iff.mp hn with ⟨before, after, heq, _⟩
  have hmem : (n, closure) ∈ closures := by simp [heq]
  exact ⟨List.mem_map_of_mem hmem, h _ hmem⟩

theorem lookup_eq_none (h : SoundClosures g closures) {n : String} (hn : ¬ g.Resolvable n) :
    closures.lookup n = none := by
  cases hlookup : closures.lookup n with
  | none => rfl
  | some closure =>
    rcases (h.of_lookup hlookup).2 with ⟨names, below, hnames, hv, _⟩
    exact absurd ⟨_, .cons hnames hv .nil⟩ hn

theorem append (h : SoundClosures g closures) {n : String} {names below : List String}
    (hn : g n = some names) (hv : g.Visits names below)
    (hbelow : ∀ m ∈ below, m ∈ closures.map (·.1)) :
    SoundClosures g (closures ++ [(n, below.eraseDups)]) := by
  intro entry hentry
  rcases List.mem_append.mp hentry with hentry | hentry
  . rcases h entry hentry with ⟨names', below', h1, h2, h3, h4⟩
    refine ⟨names', below', h1, h2, h3, ?_⟩
    intro m hm
    rw [List.map_append]
    exact List.mem_append_left _ (h4 m hm)
  . rw [List.mem_singleton] at hentry
    subst hentry
    refine ⟨names, below, hn, hv, rfl, ?_⟩
    intro m hm
    rw [List.map_append]
    exact List.mem_append_left _ (hbelow m hm)

end SoundClosures

namespace Walk

structure Consistent (c : WalkContext) (failed : List String) (w : Walk) : Prop where
  wellFormed : w.WellFormed
  closures : SoundClosures c.table.spreadGraph w.closures
  visited_none : ∀ n, w.visited.lookup n = some none ↔ n ∈ failed
  visited_some : ∀ n closure, w.visited.lookup n = some (some closure) →
    n ∈ w.closures.map (·.1)

namespace Consistent

variable {c : WalkContext} {failed : List String} {w : Walk} {frame : Frame} {below : List Frame}

theorem replace (h : w.Consistent c failed) (hframes : w.frames = frame :: below) (frame' : Frame)
    (hname : frame'.name? = frame.name?) (problems : List Problem) :
    Consistent c failed { w with frames := frame' :: below, problems } where
  wellFormed := h.wellFormed.replace hframes hname problems
  closures := h.closures
  visited_none := h.visited_none
  visited_some := h.visited_some

theorem enter (h : w.Consistent c failed) (hframes : w.frames = frame :: below) (frame' : Frame)
    {n : String} (hname : frame'.name? = frame.name?) (hpath : ¬ w.inProgress.contains n)
    (hclosure : w.closures.lookup n = none) (hvisited : w.visited.lookup n = none) (f : Fragment) :
    (w.entering frame' below n f).Consistent c failed where
  wellFormed := h.wellFormed.enter hframes hname hpath hclosure hvisited f
  closures := h.closures
  visited_none := h.visited_none
  visited_some := h.visited_some

theorem leave {parent : Frame} {n : String} {inner : Exploration}
    (h : w.Consistent c inner.failed) (hframes : w.frames = frame :: parent :: below)
    (hname : frame.name? = some n)
    (hclosures : SoundClosures c.table.spreadGraph
      (keep w.closures n (inner.names?.map (·.eraseDups)))) :
    (w.leaving parent below n (inner.names?.map (·.eraseDups))).Consistent c
      (inner.failedWith n) := by
  have hstacked := h.wellFormed.stacked
  rw [hframes] at hstacked
  rcases hstacked.of_name hname with ⟨path, hpath, _⟩
  have hn : n ∈ w.path := by simp [hpath]
  have hlookup := lookup_eq_none_of_not_mem (h.wellFormed.visited_fresh n hn)
  have hnfailed : n ∉ inner.failed := by
    rw [← h.visited_none, hlookup]
    simp
  constructor
  case wellFormed => exact h.wellFormed.leave hframes hname _
  case closures => exact hclosures
  case visited_none =>
    intro m
    dsimp only [leaving]
    rw [List.lookup_append, Exploration.failedWith]
    by_cases hm : m = n
    . subst hm
      cases inner.names? <;> simp [hlookup, hnfailed]
    . have := h.visited_none m
      have hne : (m == n) = false := by simpa using hm
      cases inner.names? <;> simp [List.lookup_cons, hne, hm, this]
  case visited_some =>
    intro m closure hm
    dsimp only [leaving] at hm ⊢
    rw [List.lookup_append] at hm
    by_cases heq : m = n
    . subst heq
      cases hnames : inner.names? with
      | none => simp [hlookup, hnames] at hm
      | some names => simp [keep]
    . apply map_fst_subset_keep
      apply h.visited_some m closure
      have hne : (m == n) = false := by simpa using heq
      simpa [List.lookup_cons, hne] using hm

theorem not_inProgress (h : w.Consistent c failed) {n : String} (hn : n ∉ w.path) :
    ¬ w.inProgress.contains n := by
  rw [h.wellFormed.inProgress]
  exact hn

theorem visited_eq_none (h : w.Consistent c failed) {n : String}
    (hclosure : w.closures.lookup n = none) (hn : n ∉ failed) : w.visited.lookup n = none := by
  cases hvisited : w.visited.lookup n with
  | none => rfl
  | some closure? =>
    cases closure? with
    | none => exact absurd ((h.visited_none n).mp hvisited) hn
    | some closure =>
      exact absurd (h.visited_some n closure hvisited) (not_mem_map_fst_of_lookup hclosure)

end Consistent

structure Completes (c : WalkContext) (w : Walk) (frame : Frame) (below : List Frame)
    (r : Exploration) (w' : Walk) (frame' : Frame) : Prop where
  steps : ReflTransGen (Step c) w w'
  consistent : w'.Consistent c r.failed
  frames : w'.frames = frame' :: below
  path : w'.path = w.path
  problems : w'.problems = r.problems.reverse ++ w.problems
  closures : w.closures <+: w'.closures
  name : frame'.name? = frame.name?
  rest : frame'.rest = []
  ok : frame'.ok = (frame.ok && r.names?.isSome)
  names : ∀ names, r.names? = some names →
    frame'.names = appendNew frame.names names ∧ ∀ m ∈ names, m ∈ w'.closures.map (·.1)

namespace Completes

variable {c : WalkContext} {w w₁ w' : Walk} {frame frame₁ frame' : Frame} {below : List Frame}
variable {r inner : Exploration}

theorem refuse (h : Completes c w₁ frame₁ below r w' frame') {ps : List Problem}
    (hstep : Step c w w₁) (hpath : w₁.path = w.path)
    (hproblems : w₁.problems = ps.reverse ++ w.problems) (hclosures : w₁.closures = w.closures)
    (hname : frame₁.name? = frame.name?) (hok : frame₁.ok = false) :
    Completes c w frame below (r.refuse ps) w' frame' where
  steps := .head hstep h.steps
  consistent := h.consistent
  frames := h.frames
  path := h.path.trans hpath
  problems := by
    rw [h.problems, hproblems, Exploration.refuse, List.reverse_append, List.append_assoc]
  closures := hclosures ▸ h.closures
  name := h.name.trans hname
  rest := h.rest
  ok := by simp [h.ok, hok, Exploration.refuse]
  names := by simp [Exploration.refuse]

theorem join (h : Completes c w₁ frame₁ below r w' frame') {n : String}
    (hsteps : ReflTransGen (Step c) w w₁) (hpath : w₁.path = w.path)
    (hproblems : w₁.problems = inner.problems.reverse ++ w.problems)
    (hclosures : w.closures <+: w₁.closures)
    (hname : frame₁.name? = frame.name?) (hok : frame₁.ok = (frame.ok && inner.names?.isSome))
    (hnames : ∀ names, inner.names? = some names →
      frame₁.names = appendNew frame.names (n :: names) ∧
        ∀ m ∈ n :: names, m ∈ w₁.closures.map (·.1)) :
    Completes c w frame below (inner.join n r) w' frame' where
  steps := hsteps.trans h.steps
  consistent := h.consistent
  frames := h.frames
  path := h.path.trans hpath
  problems := by
    rw [h.problems, hproblems, Exploration.join, List.reverse_append, List.append_assoc]
  closures := hclosures.trans h.closures
  name := h.name.trans hname
  rest := h.rest
  ok := by
    rw [h.ok, hok, Bool.and_assoc]
    congr 1
    cases hinner : inner.names? <;> simp [Exploration.join, hinner]
  names := by
    intro names hjoin
    simp only [Exploration.join, Option.bind_eq_some_iff, Option.map_eq_some_iff] at hjoin
    rcases hjoin with ⟨below', hbelow, later, hlater, rfl⟩
    rcases hnames below' hbelow with ⟨hframe₁, hkeys⟩
    rcases h.names later hlater with ⟨hframe', hkeys'⟩
    constructor
    . rw [hframe', hframe₁, ← appendNew_append, List.cons_append]
    . intro m hm
      rw [← List.cons_append] at hm
      rcases List.mem_append.mp hm with hm | hm
      . exact (h.closures.sublist.map _).subset (hkeys m hm)
      . exact hkeys' m hm

end Completes

theorem closure?_of_completes {c : WalkContext} {w w' : Walk} {n : String} {f : Fragment}
    {frame : Frame} {below : List Frame} {inner : Exploration}
    (h : Completes c w (.ofFragment n f) below inner w' frame) :
    frame.closure? = inner.names?.map (·.eraseDups) := by
  unfold Frame.closure?
  rw [h.ok]
  cases hnames : inner.names? with
  | none => simp
  | some names => simp [Frame.ofFragment, (h.names names hnames).1, appendNew_nil_left]

theorem absorb_ok (frame : Frame) (n : String) (closure? : Option (List String)) :
    (frame.absorb n closure?).ok = (frame.ok && closure?.isSome) := by
  cases closure? <;> simp [Frame.absorb]

theorem absorb_names (frame : Frame) (n : String) (names : List String) :
    (frame.absorb n (some names.eraseDups)).names = appendNew frame.names (n :: names) := by
  simp only [Frame.absorb]
  rw [← List.singleton_append, appendNew_append, appendNew_eraseDups, ← appendNew_append]
  rfl

theorem soundClosures_keep {c : WalkContext} {w w' : Walk} {n : String} {f : Fragment}
    {frame : Frame} {below : List Frame} {inner : Exploration} {path failed : List String}
    (hget : c.table.get? n = some f)
    (hinner : Explores c path failed f.site f.spreads inner)
    (h : Completes c w (.ofFragment n f) below inner w' frame) :
    SoundClosures c.table.spreadGraph (keep w'.closures n (inner.names?.map (·.eraseDups))) := by
  cases hnames : inner.names? with
  | none => exact h.consistent.closures
  | some names =>
    exact h.consistent.closures.append (DefinitionTable.spreadGraph_of_get? hget)
      (hinner.visits hnames).1 (h.names names hnames).2

theorem prefix_keep (closures : Closures) (n : String) (closure? : Option (List String)) :
    closures <+: keep closures n closure? := by
  cases closure? with
  | none => exact List.prefix_rfl
  | some closure => exact List.prefix_append _ _

namespace Completes

variable {c : WalkContext} {w w₂ w' : Walk} {frame frame₂ frame' : Frame} {below : List Frame}
variable {rest : List FragmentSpread} {r inner : Exploration} {n : String}

theorem known {names : List String}
    (hstep : Step c w
      { w with
        frames := ({ frame with rest } : Frame).absorb n (some names.eraseDups) :: below })
    (h : Completes c
      { w with
        frames := ({ frame with rest } : Frame).absorb n (some names.eraseDups) :: below }
      (({ frame with rest } : Frame).absorb n (some names.eraseDups)) below r w' frame')
    (hinner : inner.names? = some names) (hproblems : inner.problems = [])
    (hkeys : ∀ m ∈ n :: names, m ∈ w.closures.map (·.1)) :
    Completes c w frame below (inner.join n r) w' frame' := by
  refine h.join (.single hstep) rfl ?_ List.prefix_rfl (by simp) ?_ ?_
  . simp [hproblems]
  . rw [absorb_ok, hinner]
    rfl
  . intro names' hnames'
    rw [hinner] at hnames'
    cases hnames'
    exact ⟨absorb_names _ _ _, hkeys⟩

theorem entered {f : Fragment} (hstep : Step c w (w.entering { frame with rest } below n f))
    (hin : Completes c (w.entering { frame with rest } below n f) (.ofFragment n f)
      ({ frame with rest } :: below) inner w₂ frame₂)
    (h : Completes c (w₂.leaving { frame with rest } below n (inner.names?.map (·.eraseDups)))
      (({ frame with rest } : Frame).absorb n (inner.names?.map (·.eraseDups))) below r w' frame') :
    Completes c w frame below (inner.join n r) w' frame' := by
  have hleave := Step.leave (c := c) hin.frames hin.rest hin.name
  rw [closure?_of_completes hin] at hleave
  have hpath : w₂.path.tail = w.path := by simp [hin.path, entering]
  refine h.join (.head hstep (hin.steps.tail hleave)) hpath hin.problems
    (hin.closures.trans (prefix_keep _ _ _)) (by simp) ?_ ?_
  . simp [absorb_ok]
  . intro names hnames
    rw [hnames]
    refine ⟨absorb_names _ _ _, ?_⟩
    intro m hm
    rcases List.mem_cons.mp hm with rfl | hm
    . simp [leaving, keep]
    . exact map_fst_subset_keep w₂.closures n (some names.eraseDups)
        ((hin.names names hnames).2 m hm)

end Completes

structure StandsAt (c : WalkContext) (path failed : List String) (site : Site)
    (spreads : List FragmentSpread) (w : Walk) (frame : Frame) (below : List Frame) : Prop where
  consistent : w.Consistent c failed
  frames : w.frames = frame :: below
  rest : frame.rest = spreads
  site : frame.site = site
  path : w.path = path

/-- Whatever is to be found along the spreads of the innermost frame, the walk finds. -/
def Finds (c : WalkContext) (path failed : List String) (site : Site)
    (spreads : List FragmentSpread) (r : Exploration) : Prop :=
  ∀ w frame below, StandsAt c path failed site spreads w frame below →
    ∃ w' frame', Completes c w frame below r w' frame'

namespace StandsAt

variable {c : WalkContext} {path failed : List String} {site : Site} {s : FragmentSpread}
variable {rest : List FragmentSpread} {w : Walk} {frame : Frame} {below : List Frame}

theorem inProgress (h : StandsAt c path failed site (s :: rest) w frame below) :
    w.inProgress.contains s.name.value ↔ s.name.value ∈ path := by
  rw [h.consistent.wellFormed.inProgress, h.path]

theorem next (h : StandsAt c path failed site (s :: rest) w frame below) (frame' : Frame)
    (hname : frame'.name? = frame.name?) (hrest : frame'.rest = rest)
    (hsite : frame'.site = frame.site) (problems : List Problem) :
    StandsAt c path failed site rest { w with frames := frame' :: below, problems } frame'
      below where
  consistent := h.consistent.replace h.frames frame' hname problems
  frames := rfl
  rest := hrest
  site := hsite.trans h.site
  path := h.path

end StandsAt

namespace Finds

variable {c : WalkContext} {path failed : List String} {site : Site} {s : FragmentSpread}
variable {rest : List FragmentSpread} {f : Fragment} {inner r : Exploration}
variable {w : Walk} {frame : Frame} {below : List Frame}

theorem nil : Finds c path failed site [] ⟨some [], failed, []⟩ := by
  intro w frame below h
  refine ⟨w, frame, .refl, h.consistent, h.frames, rfl, rfl, List.prefix_rfl, rfl, h.rest, ?_, ?_⟩
  . simp
  . intro names hnames
    cases hnames
    simp

theorem cycle (hrest : Finds c path failed site rest r) (hpath : s.name.value ∈ path) :
    Finds c path failed site (s :: rest)
      (r.refuse [.fragmentCycle c.operation s site (Walk.cycle path s.name.value)]) := by
  intro w frame below h
  have hstep := Step.cycle (c := c) h.frames h.rest (h.inProgress.mpr hpath)
  rcases hrest _ _ _ (h.next { frame with rest, ok := false } rfl rfl rfl
    (.fragmentCycle c.operation s frame.site (Walk.cycle w.path s.name.value) :: w.problems)) with
    ⟨w', frame', hcompletes⟩
  rw [← h.site, ← h.path]
  exact ⟨w', frame', hcompletes.refuse hstep rfl rfl rfl rfl rfl⟩

theorem again (hrest : Finds c path failed site rest r) (hpath : s.name.value ∉ path)
    (hfailed : s.name.value ∈ failed) (hbad : ¬ c.table.spreadGraph.Resolvable s.name.value) :
    Finds c path failed site (s :: rest) (r.refuse []) := by
  intro w frame below h
  -- What failed in this walk has no closure from an earlier one.
  have hclosure := h.consistent.closures.lookup_eq_none hbad
  have hvisited := (h.consistent.visited_none s.name.value).mpr hfailed
  have hstep := Step.visited (c := c) h.frames h.rest (mt h.inProgress.mp hpath) hclosure hvisited
  rcases hrest _ _ _ (h.next { frame with rest, ok := false } rfl rfl rfl w.problems) with
    ⟨w', frame', hcompletes⟩
  exact ⟨w', frame', hcompletes.refuse hstep rfl rfl rfl rfl rfl⟩

theorem unknown (hrest : Finds c path failed site rest r) (hpath : s.name.value ∉ path)
    (hfailed : s.name.value ∉ failed) (hget : c.table.get? s.name.value = none) :
    Finds c path failed site (s :: rest)
      (r.refuse [.unknownFragment c.operation s site
        (closestName c.known c.suggestionLimit s.name.value)]) := by
  intro w frame below h
  have hclosure := h.consistent.closures.lookup_eq_none (not_resolvable_of_get? hget)
  have hvisited := h.consistent.visited_eq_none hclosure hfailed
  have hstep := Step.unknown h.frames h.rest (mt h.inProgress.mp hpath) hclosure hvisited hget
  rcases hrest _ _ _ (h.next { frame with rest, ok := false } rfl rfl rfl
    (.unknownFragment c.operation s frame.site
      (closestName c.known c.suggestionLimit s.name.value) :: w.problems)) with
    ⟨w', frame', hcompletes⟩
  rw [← h.site]
  exact ⟨w', frame', hcompletes.refuse hstep rfl rfl rfl rfl rfl⟩

/--
The recursive walk has to enter a fragment whose closure is known, but it cannot fail there, nor
meet anything that is not in the closure.
-/
theorem of_lookup (hrest : Finds c path (inner.failedWith s.name.value) site rest r)
    (hget : c.table.get? s.name.value = some f)
    (hinner : Explores c (s.name.value :: path) failed f.site f.spreads inner)
    (hleads : Leads c (s.name.value :: path) f.spreads)
    (hbad : ∀ m ∈ failed, ¬ c.table.spreadGraph.Resolvable m)
    (h : StandsAt c path failed site (s :: rest) w frame below) (hpath : s.name.value ∉ path)
    {closure : List String} (hclosure : w.closures.lookup s.name.value = some closure) :
    ∃ w' frame', Completes c w frame below (inner.join s.name.value r) w' frame' := by
  have hstep := Step.known (c := c) h.frames h.rest (mt h.inProgress.mp hpath) hclosure
  rcases h.consistent.closures.of_lookup hclosure with ⟨hkey, names, met, hn, hv, rfl, hkeys⟩
  rw [DefinitionTable.spreadGraph_of_get? hget] at hn
  cases hn
  rcases Option.isSome_iff_exists.mp (hinner.isSome_of_visits hleads hbad hv) with
    ⟨names, hnames⟩
  rcases hinner.visits hnames with ⟨hv', hproblems, hsame⟩
  have hwith : inner.failedWith s.name.value = failed := by
    simp [Exploration.failedWith, hnames, hsame]
  rw [hwith] at hrest
  cases hv.unique hv'
  have hnext := h.next (({ frame with rest } : Frame).absorb s.name.value (some met.eraseDups))
    (by simp) (by simp) (by simp) w.problems
  rcases hrest _ _ _ hnext with ⟨w', frame', hcompletes⟩
  exact ⟨w', frame', .known hstep hcompletes hnames hproblems
    (List.forall_mem_cons.mpr ⟨hkey, hkeys⟩)⟩

theorem enter (hrest : Finds c path (inner.failedWith s.name.value) site rest r)
    (hwithin : Finds c (s.name.value :: path) failed f.site f.spreads inner)
    (hget : c.table.get? s.name.value = some f)
    (hinner : Explores c (s.name.value :: path) failed f.site f.spreads inner)
    (hleads : Leads c (s.name.value :: path) f.spreads)
    (hbad : ∀ m ∈ failed, ¬ c.table.spreadGraph.Resolvable m)
    (hpath : s.name.value ∉ path) (hfailed : s.name.value ∉ failed) :
    Finds c path failed site (s :: rest) (inner.join s.name.value r) := by
  intro w frame below h
  cases hclosure : w.closures.lookup s.name.value with
  | some closure => exact hrest.of_lookup hget hinner hleads hbad h hpath hclosure
  | none =>
    have hprogress := mt h.inProgress.mp hpath
    have hvisited := h.consistent.visited_eq_none hclosure hfailed
    have hstep := Step.enter h.frames h.rest hprogress hclosure hvisited hget
    have hentered := h.consistent.enter h.frames { frame with rest } rfl hprogress hclosure
      hvisited f
    have hpath₁ : (w.entering { frame with rest } below s.name.value f).path =
        s.name.value :: path := by simp [entering, h.path]
    rcases hwithin _ _ _ ⟨hentered, rfl, rfl, rfl, hpath₁⟩ with ⟨w₂, frame₂, hin⟩
    have hleft := hin.consistent.leave hin.frames hin.name (soundClosures_keep hget hinner hin)
    have hpath₂ : w₂.path.tail = path := by simp [hin.path, entering, h.path]
    rcases hrest _ _ _ ⟨hleft, rfl, by simp, by simp [h.site], hpath₂⟩ with ⟨w', frame', hcompletes⟩
    exact ⟨w', frame', .entered hstep hin hcompletes⟩

end Finds

theorem finds_of_explores {c : WalkContext} {path failed : List String} {site : Site}
    {spreads : List FragmentSpread} {r : Exploration}
    (h : Explores c path failed site spreads r) (hleads : Leads c path spreads)
    (hbad : ∀ m ∈ failed, ¬ c.table.spreadGraph.Resolvable m) :
    Finds c path failed site spreads r := by
  induction h with
  | nil => exact .nil
  | cycle hpath _ ih => exact (ih hleads.tail hbad).cycle hpath
  | again hpath hfailed _ ih => exact (ih hleads.tail hbad).again hpath hfailed (hbad _ hfailed)
  | unknown hpath hfailed hget _ ih => exact (ih hleads.tail hbad).unknown hpath hfailed hget
  | enter hpath hfailed hget hinner _ ihinner ihrest =>
    have hwithin := hleads.enter hget
    have hbad' := hinner.failedWith_not_resolvable hwithin hbad
      (DefinitionTable.spreadGraph_of_get? hget) (hinner.failed_not_resolvable hwithin hbad)
    exact (ihrest hleads.tail hbad').enter (ihinner hwithin hbad) hget hinner hwithin hbad hpath
      hfailed

theorem ofOperation_of_explores {c : WalkContext} {closures : Closures} {r : Exploration}
    (h : Explores c [] [] c.operation.site c.operation.spreads r)
    (hclosures : SoundClosures c.table.spreadGraph closures) :
    (ofOperation c closures).names? = r.names?.map (·.eraseDups) ∧
      (ofOperation c closures).problems = r.problems ∧
      SoundClosures c.table.spreadGraph (ofOperation c closures).closures ∧
      closures <+: (ofOperation c closures).closures := by
  have hstart : (start c closures).Consistent c [] :=
    { wellFormed := wellFormed_start c closures
      closures := hclosures
      visited_none := by simp [start]
      visited_some := by simp [start] }
  rcases finds_of_explores h (.nil _) (by simp) _ _ _ ⟨hstart, rfl, rfl, rfl, rfl⟩ with
    ⟨w', frame', h'⟩
  have hend : w'.step c = .inr ⟨frame'.closure?, w'.closures, w'.problems.reverse⟩ := by
    simp [step, h'.frames, h'.rest, close, h'.name, Frame.ofOperation]
  have hrun : ofOperation c closures = ⟨frame'.closure?, w'.closures, w'.problems.reverse⟩ :=
    run_eq_of_steps h'.steps hend hstart.wellFormed (stepsLeft_start_le c closures)
  rw [hrun]
  refine ⟨?_, by simp [h'.problems, start], h'.consistent.closures, h'.closures⟩
  cases hnames : r.names? with
  | none => simp [Frame.closure?, h'.ok, hnames]
  | some names =>
    have hnames' := (h'.names names hnames).1
    simp only [Frame.ofOperation, appendNew_nil_left] at hnames'
    simp [Frame.closure?, h'.ok, hnames, hnames', Frame.ofOperation]

end Walk

end QueryLinker
