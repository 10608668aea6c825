import QueryLinker.Link.Compile
import QueryLinker.Proofs.Link.Collection
import QueryLinker.Proofs.Link.Resolver

/-!
This module contains the pass without its resolver: each document is taken by itself, with a fresh
resolver. What the resolver of a pass carries from one document to the next makes no difference.
-/

namespace QueryLinker

namespace DefinitionTable

def resolution (t : DefinitionTable) (limit : Int) (o : Operation) : Resolution :=
  ((Resolver.ofTable t limit).resolve t o).2

def attempt (s : Schema) (t : DefinitionTable) (settings : PassSettings) (o : Operation) :
    Except PassFailure (Option CompiledQuery × List Event) := do
  let r := t.resolution settings.suggestionLimit o
  if r.ok then r.compile s t settings
  else
    let events := r.problems.map .problem ++ [.unresolved o r.problems.length]
    settings.checkLimit t.fragmentNames events
    return (none, events)

end DefinitionTable

namespace SourceDocument

def attempt (s : Schema) (t : DefinitionTable) (settings : PassSettings) (d : SourceDocument) :
    Except PassFailure (Option CompiledQuery × List Event) :=
  match d.operations with
  | [] => .ok (none, [])
  | o :: later => do
    let (query?, events) ← t.attempt s settings o
    return (query?, events ++ later.map fun o' => .problem (.laterOperation o' o))

def outcome (s : Schema) (t : DefinitionTable) (settings : PassSettings) (d : SourceDocument) :
    Except PassFailure (Option CompiledQuery × List Event) :=
  (d.attempt s t settings).map fun x =>
    (if d.operations.length ≤ 1 then x.1 else none, x.2)

end SourceDocument

structure Resolver.Processed (t : DefinitionTable) (limit : Int) (seen : List SourceDocument)
    (r : Resolver) : Prop where
  known : r.known = t.fragmentNames
  limit : r.suggestionLimit = limit
  closures : SoundClosures t.spreadGraph r.closures
  claimed : ∀ path, path ∉ seen.map (·.path) → r.claimed.lookup path = none
  conflicted : ∀ path, path ∈ r.conflicted ↔ ∃ d ∈ seen, d.path = path ∧ 1 < d.operations.length

namespace Resolver

variable {s : Schema} {t : DefinitionTable} {settings : PassSettings} {limit : Int}
variable {seen docs : List SourceDocument} {d : SourceDocument} {r : Resolver}

theorem processed_ofTable (t : DefinitionTable) (limit : Int) :
    (ofTable t limit).Processed t limit [] where
  known := rfl
  limit := rfl
  closures := .nil _
  claimed := by simp [ofTable]
  conflicted := by simp [ofTable]

theorem compileAll_append (r : Resolver) (os os' : List Operation) :
    r.compileAll s t settings (os ++ os') = do
      let (r, queries, events) ← r.compileAll s t settings os
      let (r, queries', events') ← r.compileAll s t settings os'
      return (r, queries ++ queries', events ++ events') := by
  induction os generalizing r with
  | nil =>
    simp only [List.nil_append, compileAll, bind, Except.bind, pure, Except.pure]
    cases r.compileAll s t settings os' <;> rfl
  | cons o os ih =>
    simp only [List.cons_append, compileAll, ih, bind_assoc, pure_bind, List.append_assoc]
    cases (r.take t o).2.1 <;> simp only [bind_assoc, pure_bind, List.append_assoc]

theorem checkLimit_nil (known : List String) : settings.checkLimit known [] = .ok () := by
  unfold PassSettings.checkLimit
  cases settings.limitFlaw? <;> simp [Event.problems]

theorem checkLimit_laterOperation (known : List String) (o first : Operation) :
    settings.checkLimit known [.problem (.laterOperation o first)] = .ok () := by
  unfold PassSettings.checkLimit
  cases settings.limitFlaw? <;> simp [Event.problems, Event.problem?, Problem.kind]

theorem compileAll_later (s : Schema) (t : DefinitionTable) (settings : PassSettings)
    {path : String} {first : Operation} {later : List Operation}
    (hlater : ∀ o ∈ later, o.site.file = path) (hfirst : r.claimed.lookup path = some first) :
    ∃ conflicted, r.compileAll s t settings later =
        .ok ({ r with conflicted }, [], later.map fun o => .problem (.laterOperation o first)) ∧
      ∀ path', path' ∈ conflicted ↔ path' ∈ r.conflicted ∨ later ≠ [] ∧ path = path' := by
  induction later generalizing r with
  | nil => exact ⟨r.conflicted, rfl, by simp⟩
  | cons o later ih =>
    rw [List.forall_mem_cons] at hlater
    rcases ih (r := { r with conflicted := r.conflicted.insert path }) hlater.2 hfirst with
      ⟨conflicted, hlater', hmem⟩
    refine ⟨conflicted, ?_, ?_⟩
    . unfold compileAll take
      rw [hlater.1, hfirst]
      simp only [checkLimit_laterOperation, hlater', bind, Except.bind, pure, Except.pure]
      rfl
    . intro path'
      rw [hmem, List.mem_insert_iff]
      simp only [ne_eq, reduceCtorEq, not_false_eq_true, true_and]
      constructor
      . rintro ((rfl | h) | ⟨_, rfl⟩)
        . exact .inr rfl
        . exact .inl h
        . exact .inr rfl
      . rintro (h | rfl)
        . exact .inl (.inr h)
        . exact .inl (.inl rfl)

theorem take_first {o : Operation} (hr : r.Processed t limit seen)
    (ho : o.site.file ∉ seen.map (·.path)) :
    ∃ closures, SoundClosures t.spreadGraph closures ∧
      r.take t o = ({ r with claimed := r.claimed ++ [(o.site.file, o)], closures },
        if (t.resolution limit o).ok then (some (t.resolution limit o), [])
        else (none, (t.resolution limit o).problems.map .problem ++
          [.unresolved o (t.resolution limit o).problems.length])) := by
  -- The file is claimed before the walk, which does not ask who claims it.
  let claiming : Resolver := { r with claimed := r.claimed ++ [(o.site.file, o)] }
  have hsame : (claiming.resolve t o).2 = t.resolution limit o :=
    resolve_congr hr.closures (.nil _) hr.known hr.limit o
  refine ⟨(claiming.resolve t o).1.closures, soundClosures_resolve hr.closures o, ?_⟩
  unfold take
  rw [hr.claimed _ ho]
  dsimp only
  change (if (claiming.resolve t o).2.ok then _ else _) = _
  rw [hsame]
  split <;> rfl

theorem Processed.skip (hr : r.Processed t limit seen) (hd : d.operations = []) :
    r.Processed t limit (seen ++ [d]) where
  known := hr.known
  limit := hr.limit
  closures := hr.closures
  claimed := by
    intro path hpath
    apply hr.claimed
    intro hmem
    rw [List.map_append] at hpath
    exact hpath (List.mem_append_left _ hmem)
  conflicted := by
    intro path
    rw [hr.conflicted]
    simp [or_and_right, exists_or, hd]

theorem Processed.next {o : Operation} {later : List Operation} {closures : Closures}
    {conflicted : List String} (hr : r.Processed t limit seen) (hd : d.operations = o :: later)
    (hclosures : SoundClosures t.spreadGraph closures)
    (hconflicted : ∀ path, path ∈ conflicted ↔ path ∈ r.conflicted ∨ later ≠ [] ∧ d.path = path) :
    Processed t limit (seen ++ [d])
      { r with claimed := r.claimed ++ [(d.path, o)], closures, conflicted } where
  known := hr.known
  limit := hr.limit
  closures := hclosures
  claimed := by
    intro path hpath
    simp only [List.map_append, List.map_cons, List.map_nil, List.mem_append, List.mem_singleton,
      not_or] at hpath
    rw [lookup_append_singleton, hr.claimed path hpath.1]
    simp [hpath.2]
  conflicted := by
    intro path
    have hlength : 1 < d.operations.length ↔ later ≠ [] := by
      rw [hd, List.length_cons, ← List.length_pos_iff]
      omega
    rw [hconflicted, hr.conflicted]
    simp [or_and_right, exists_or, hlength, and_comm]

theorem compileAll_document (hr : r.Processed t settings.suggestionLimit seen)
    (hd : d.path ∉ seen.map (·.path)) :
    ∃ r', r'.Processed t settings.suggestionLimit (seen ++ [d]) ∧
      r.compileAll s t settings d.operations =
        (d.attempt s t settings).map fun x => (r', x.1.toList, x.2) := by
  unfold SourceDocument.attempt
  cases hops : d.operations with
  | nil => exact ⟨r, hr.skip hops, rfl⟩
  | cons o later =>
    have hfile : ∀ o' ∈ o :: later, o'.site.file = d.path := by
      rw [← hops]
      exact fun _ => SourceDocument.operation_file
    rw [List.forall_mem_cons] at hfile
    rcases take_first hr (o := o) (by rw [hfile.1]; exact hd) with ⟨closures, hclosures, htake⟩
    rw [hfile.1] at htake
    let r₁ : Resolver := { r with claimed := r.claimed ++ [(d.path, o)], closures }
    have hclaimed : r₁.claimed.lookup d.path = some o := by
      rw [lookup_append_singleton, hr.claimed _ hd]
      simp
    rcases compileAll_later s t settings hfile.2 hclaimed with
      ⟨conflicted, hlater, hconflicted⟩
    refine ⟨{ r₁ with conflicted }, hr.next hops hclosures hconflicted, ?_⟩
    unfold compileAll DefinitionTable.attempt
    rw [htake]
    dsimp only
    split
    . simp only [checkLimit_nil, bind, Except.bind, pure, Except.pure]
      cases (t.resolution settings.suggestionLimit o).compile s t settings with
      | error failure => rfl
      | ok x => simp [hlater, r₁, Except.map]
    . rw [← hr.known]
      simp only [bind, Except.bind, pure, Except.pure]
      cases settings.checkLimit r.known _ with
      | error failure => rfl
      | ok x => simp [hlater, r₁, Except.map]

theorem compileAll_documents (hr : r.Processed t settings.suggestionLimit seen)
    (hnodup : (docs.map (·.path)).Nodup)
    (hfresh : ∀ d ∈ docs, d.path ∉ seen.map (·.path)) :
    ∃ r' : Resolver, r'.Processed t settings.suggestionLimit (seen ++ docs) ∧
      r.compileAll s t settings (docs.flatMap (·.operations)) =
        (docs.mapM (SourceDocument.attempt s t settings)).map fun xs =>
          (r', xs.flatMap (·.1.toList), xs.flatMap (·.2)) := by
  induction docs generalizing seen r with
  | nil =>
    rw [List.append_nil]
    exact ⟨r, hr, rfl⟩
  | cons d docs ih =>
    rw [List.map_cons, List.nodup_cons] at hnodup
    rw [List.forall_mem_cons] at hfresh
    rcases compileAll_document hr hfresh.1 (s := s) with ⟨r₁, hr₁, heq⟩
    have hfresh' : ∀ d' ∈ docs, d'.path ∉ (seen ++ [d]).map (·.path) := by
      intro d' hd' hmem
      rw [List.map_append, List.mem_append, List.map_singleton, List.mem_singleton] at hmem
      rcases hmem with hmem | hsame
      . exact hfresh.2 d' hd' hmem
      . exact hnodup.1 (hsame ▸ List.mem_map_of_mem hd')
    rcases ih hr₁ hnodup.2 hfresh' with ⟨r₂, hr₂, heq₂⟩
    rw [List.append_assoc] at hr₂
    refine ⟨r₂, hr₂, ?_⟩
    rw [List.flatMap_cons, compileAll_append, heq, List.mapM_cons]
    cases d.attempt s t settings with
    | error e => rfl
    | ok x =>
      simp only [Except.map, bind, Except.bind, heq₂]
      cases docs.mapM (SourceDocument.attempt s t settings) <;> rfl

end Resolver

end QueryLinker
