import QueryLinker.Proofs.Link.Outcome

/-!
This module contains which problems a pass reports, also if it breaks off: those of documents by
themselves, of fragments that differ from others of their name, and of single operations.
-/

namespace QueryLinker

open Graphql DefinitionTable Validation

/-- A spread stands in the operation or in a usable fragment; its definition has the site. -/
inductive SpreadAt (t : DefinitionTable) (o : Operation) (spread : FragmentSpread) :
    Site → Prop where
  | operation (h : spread ∈ o.spreads) : SpreadAt t o spread o.site
  | fragment {n : String} {f : Fragment} (hget : t.get? n = some f) (h : spread ∈ f.spreads) :
      SpreadAt t o spread f.site

inductive Arises (s : Schema) (t : DefinitionTable) (settings : PassSettings) (o : Operation) :
    Problem → Prop where
  | later (first : Operation) : Arises s t settings o (.laterOperation o first)
  | unknown {spread site} (closest? : Option String) (h : SpreadAt t o spread site) :
      Arises s t settings o (.unknownFragment o spread site closest?)
  | cycle {spread site} (names : List String) (h : SpreadAt t o spread site) :
      Arises s t settings o (.fragmentCycle o spread site names)
  | invalid {errors e} (hok : (t.resolution settings.suggestionLimit o).ok)
      (hvalid : validateFull s ((t.resolution settings.suggestionLimit o).document t)
        settings.nesting = .ok errors)
      (he : e ∈ errors) :
      Arises s t settings o ((t.resolution settings.suggestionLimit o).invalid t e)

inductive Stems (s : Schema) (t : DefinitionTable) (settings : PassSettings) (o : Operation) :
    Problem → Prop where
  | later (first : Operation) : Stems s t settings o (.laterOperation o first)
  | resolving {p} (hp : p ∈ (t.resolution settings.suggestionLimit o).problems) :
      Stems s t settings o p
  | checking {errors e} (hok : (t.resolution settings.suggestionLimit o).ok)
      (hvalid : validateFull s ((t.resolution settings.suggestionLimit o).document t)
        settings.nesting = .ok errors)
      (he : e ∈ errors) :
      Stems s t settings o ((t.resolution settings.suggestionLimit o).invalid t e)

inductive Documented (s : Schema) (d : SourceDocument) : Problem → Prop where
  | structural {errors e} (hvalid : validateStructure s d.document = .ok errors) (he : e ∈ errors) :
      Documented s d (d.structuralProblem e)
  | duplicate {f} (other : Fragment) (hf : f ∈ d.fragments) :
      Documented s d (.duplicateFragment f other)

inductive Reports (s : Schema) (docs : List SourceDocument) (settings : PassSettings)
    (p : Problem) : Prop where
  | collecting {docs' rest t events} (hdocs : docs = docs' ++ rest)
      (hcollect : collect s docs' = .ok (t, events)) (hp : p ∈ Event.problems events)
  | compiling {t collected os rest r queries events}
      (hcollect : collect s docs = .ok (t, collected)) (hos : t.operations = os ++ rest)
      (hall : (Resolver.ofTable t settings.suggestionLimit).compileAll s t settings os =
        .ok (r, queries, events))
      (hp : p ∈ Event.problems events)

variable {s : Schema} {t : DefinitionTable} {settings : PassSettings} {docs : List SourceDocument}
variable {o : Operation} {p : Problem} {limit : Int}

theorem Explores.arises {c : WalkContext} {path failed : List String} {site : Site}
    {spreads : List FragmentSpread} {r : Exploration} (h : Explores c path failed site spreads r)
    (hspreads : ∀ x ∈ spreads, SpreadAt c.table c.operation x site) (hp : p ∈ r.problems) :
    Arises s c.table settings c.operation p := by
  induction h with
  | nil => simp at hp
  | cycle _ _ ih =>
    rw [List.forall_mem_cons] at hspreads
    rcases List.mem_cons.mp hp with rfl | hp
    . exact .cycle _ hspreads.1
    . exact ih hspreads.2 hp
  | again _ _ _ ih =>
    rw [List.forall_mem_cons] at hspreads
    exact ih hspreads.2 hp
  | unknown _ _ _ _ ih =>
    rw [List.forall_mem_cons] at hspreads
    rcases List.mem_cons.mp hp with rfl | hp
    . exact .unknown _ hspreads.1
    . exact ih hspreads.2 hp
  | enter _ _ hget _ _ ihinner ihrest =>
    rw [List.forall_mem_cons] at hspreads
    rcases List.mem_append.mp hp with hp | hp
    . exact ihinner (fun x hx => .fragment hget hx) hp
    . exact ihrest hspreads.2 hp

theorem arises_of_resolution (hp : p ∈ (t.resolution settings.suggestionLimit o).problems) :
    Arises s t settings o p := by
  rcases Resolver.exists_explores (.ofTable t settings.suggestionLimit) t o with ⟨e, he⟩
  rw [resolution, Resolver.problems_of_explores he (.nil _)] at hp
  exact he.arises (fun x hx => .operation hx) hp

theorem Stems.arises (h : Stems s t settings o p) : Arises s t settings o p := by
  cases h with
  | later first => exact .later first
  | resolving hp => exact arises_of_resolution hp
  | checking hok hvalid he => exact .invalid hok hvalid he

/-- A resolver that answers as a fresh one does, whatever it has gone through. -/
structure Resolver.Sound (t : DefinitionTable) (limit : Int) (r : Resolver) : Prop where
  known : r.known = t.fragmentNames
  limit : r.suggestionLimit = limit
  closures : SoundClosures t.spreadGraph r.closures

namespace Resolver

variable {r r' : Resolver}

theorem sound_ofTable (t : DefinitionTable) (limit : Int) : (ofTable t limit).Sound t limit :=
  ⟨rfl, rfl, .nil _⟩

theorem Sound.take (hr : r.Sound t limit) (o : Operation) :
    (r.take t o).1.Sound t limit ∧
      ((∃ first, (r.take t o).2 = (none, [.problem (.laterOperation o first)])) ∨
        (r.take t o).2 =
          if (t.resolution limit o).ok then (some (t.resolution limit o), [])
          else (none, (t.resolution limit o).problems.map .problem ++
            [.unresolved o (t.resolution limit o).problems.length])) := by
  unfold Resolver.take
  split
  next first _ => exact ⟨⟨hr.known, hr.limit, hr.closures⟩, .inl ⟨first, rfl⟩⟩
  next =>
    let claiming : Resolver := { r with claimed := r.claimed ++ [(o.site.file, o)] }
    have hsame : (claiming.resolve t o).2 = t.resolution limit o :=
      resolve_congr hr.closures (.nil _) hr.known hr.limit o
    have hsound : (claiming.resolve t o).1.Sound t limit :=
      ⟨hr.known, hr.limit, soundClosures_resolve hr.closures o⟩
    dsimp only
    rw [show (Resolver.resolve _ t o).2 = t.resolution limit o from hsame]
    split
    . exact ⟨hsound, .inr rfl⟩
    . exact ⟨hsound, .inr rfl⟩

theorem stems_of_compile {query? : Option CompiledQuery} {events : List Event}
    (hok : (t.resolution settings.suggestionLimit o).ok)
    (h : (t.resolution settings.suggestionLimit o).compile s t settings = .ok (query?, events))
    (hp : p ∈ Event.problems events) : Stems s t settings o p := by
  cases hvalid : validateFull s ((t.resolution settings.suggestionLimit o).document t)
      settings.nesting with
  | error failure =>
    rw [Resolution.compile_of_error hvalid] at h
    cases h
  | ok errors =>
    by_cases hne : errors = []
    . subst hne
      rw [Resolution.compile_of_valid hvalid, map_eq_ok_iff] at h
      rcases h with ⟨q, _, heq⟩
      cases heq
      cases hp
    . rw [Resolution.compile_of_invalid hne hvalid, Except.ok.injEq, Prod.mk.injEq] at h
      rw [← h.2, Event.problems_summed_up _ rfl] at hp
      rcases List.mem_map.mp hp with ⟨e, he, rfl⟩
      exact .checking hok hvalid he

theorem compileAll_cons_ok {os : List Operation} {queries : List CompiledQuery}
    {events : List Event} (h : r.compileAll s t settings (o :: os) = .ok (r', queries, events)) :
    ∃ query? found queries' later,
      (match (r.take t o).2.1 with
        | some resolution => resolution.compile s t settings
        | none => .ok (none, [])) = .ok (query?, found) ∧
      (r.take t o).1.compileAll s t settings os = .ok (r', queries', later) ∧
      events = (r.take t o).2.2 ++ found ++ later := by
  unfold compileAll at h
  generalize r.take t o = taken at h ⊢
  rcases taken with ⟨r₁, resolution?, first⟩
  rcases bind_eq_ok_iff.mp h with ⟨_, _, h⟩
  extract_lets rest at h
  have hrest (x : Option CompiledQuery × List Event) (hx : rest x = .ok (r', queries, events)) :
      ∃ queries' later, r₁.compileAll s t settings os = .ok (r', queries', later) ∧
        events = first ++ x.2 ++ later := by
    rcases bind_eq_ok_iff.mp hx with ⟨⟨r₂, queries', later⟩, hlater, heq⟩
    cases heq
    exact ⟨queries', later, hlater, rfl⟩
  split at h
  . rcases bind_eq_ok_iff.mp h with ⟨⟨query?, found⟩, hfound, h⟩
    rcases hrest (query?, found) h with ⟨queries', later, hlater, heq⟩
    exact ⟨query?, found, queries', later, hfound, hlater, heq⟩
  . rcases hrest (none, []) h with ⟨queries', later, hlater, heq⟩
    exact ⟨none, [], queries', later, rfl, hlater, heq⟩

theorem stems_of_compileAll {os : List Operation} {queries : List CompiledQuery}
    {events : List Event} (hr : r.Sound t settings.suggestionLimit)
    (h : r.compileAll s t settings os = .ok (r', queries, events))
    (hp : p ∈ Event.problems events) :
    ∃ o ∈ os, Stems s t settings o p := by
  induction os generalizing r queries events with
  | nil =>
    cases h
    cases hp
  | cons o os ih =>
    rcases hr.take o with ⟨hr₁, hcases⟩
    rcases compileAll_cons_ok h with ⟨query?, found, queries', later, hfound, hlater, rfl⟩
    generalize (r.take t o).2 = taken at *
    rcases taken with ⟨resolution?, first⟩
    rw [Event.problems_append, Event.problems_append, List.mem_append, List.mem_append] at hp
    have hown (hmem : p ∈ Event.problems first ∨ p ∈ Event.problems found) :
        Stems s t settings o p := by
      rcases hcases with ⟨other, heq⟩ | heq
      . cases heq
        cases hfound
        rcases hmem with hmem | hmem
        . rcases List.mem_singleton.mp hmem with rfl
          exact .later other
        . cases hmem
      . split at heq
        next hok =>
          cases heq
          rcases hmem with hmem | hmem
          . cases hmem
          . exact stems_of_compile hok hfound hmem
        next =>
          cases heq
          cases hfound
          rcases hmem with hmem | hmem
          . rw [Event.problems_summed_up _ rfl] at hmem
            exact .resolving hmem
          . cases hmem
    rcases hp with hp | hp
    . exact ⟨o, by simp, hown hp⟩
    . rcases ih hr₁ hlater hp with ⟨o', ho', hstems⟩
      exact ⟨o', List.mem_cons_of_mem _ ho', hstems⟩

end Resolver

namespace DefinitionTable

variable {d : SourceDocument} {t' : DefinitionTable} {events : List Event}

theorem documented_of_collectDocument (h : t.collectDocument s d = .ok (t', events))
    (hp : p ∈ Event.problems events) : Documented s d p := by
  cases hvalid : validateStructure s d.document with
  | error failure =>
    rw [collectDocument_of_unchecked hvalid] at h
    cases h
  | ok errors =>
    by_cases hacc : d.accepted s
    . rw [collectDocument_of_accepted hacc, Except.ok.injEq] at h
      rw [show events = (t.addDocument d).2 by rw [h]] at hp
      rcases problem_of_addExtracts hp with ⟨f, hf, other, rfl⟩
      exact .duplicate other hf
    . rw [collectDocument_of_rejected hacc hvalid] at h
      cases h
      rw [Event.problems_append, Event.problems_log rfl, List.append_nil] at hp
      rcases List.mem_filterMap.mp hp with ⟨event, hevent, hproblem⟩
      rcases List.mem_map.mp hevent with ⟨e, he, rfl⟩
      cases hproblem
      exact .structural hvalid he

theorem documented_of_collectDocuments (h : t.collectDocuments s docs = .ok (t', events))
    (hp : p ∈ Event.problems events) : ∃ d ∈ docs, Documented s d p := by
  induction docs generalizing t t' events with
  | nil =>
    cases h
    cases hp
  | cons d docs ih =>
    rcases collectDocuments_cons_eq_ok.mp h with ⟨t₁, found, hd, t₂, later, hlater, heq⟩
    cases heq
    rw [Event.problems_append, List.mem_append] at hp
    rcases hp with hp | hp
    . exact ⟨d, by simp, documented_of_collectDocument hd hp⟩
    . rcases ih hlater hp with ⟨d', hd', hdocumented⟩
      exact ⟨d', List.mem_cons_of_mem _ hd', hdocumented⟩

end DefinitionTable

namespace Reports

theorem of_compile {c : Compilation} (hc : compile s docs settings = .ok c)
    (hp : p ∈ c.problems) : Reports s docs settings p := by
  rcases bind_eq_ok_iff.mp hc with ⟨⟨t, collected⟩, hcollect, hrest⟩
  rcases bind_eq_ok_iff.mp hrest with ⟨⟨r, queries, later⟩, hall, hend⟩
  cases hend
  unfold Compilation.problems at hp
  rw [Event.problems_append, Event.problems_append, Event.problems_log rfl, List.append_nil,
    List.mem_append] at hp
  rcases hp with hp | hp
  . exact .collecting (List.append_nil docs).symm hcollect hp
  . exact .compiling hcollect (List.append_nil _).symm hall hp

theorem documented_or_stems (h : Reports s docs settings p) :
    (∃ d ∈ docs, Documented s d p) ∨ ∃ o ∈ (ofDocuments s docs).operations,
      Stems s (ofDocuments s docs) settings o p := by
  rcases h with ⟨hdocs, hcollect, hp⟩ | ⟨hcollect, hos, hall, hp⟩
  . left
    rcases collect_eq_ok_iff.mp hcollect with ⟨_, found, hfound, heq⟩
    cases heq
    rw [Event.problems_append, Event.problems_log rfl, List.append_nil] at hp
    rcases documented_of_collectDocuments hfound hp with ⟨d, hd, hdocumented⟩
    exact ⟨d, by rw [hdocs]; exact List.mem_append_left _ hd, hdocumented⟩
  . right
    rcases collect_eq_ok_iff.mp hcollect with ⟨_, found, hfound, heq⟩
    cases heq
    rcases Resolver.stems_of_compileAll (Resolver.sound_ofTable _ _) hall hp with ⟨o, ho, hstems⟩
    exact ⟨o, by rw [hos]; exact List.mem_append_left _ ho, hstems⟩

theorem documented_or_arises (h : Reports s docs settings p) :
    (∃ d ∈ docs, Documented s d p) ∨ ∃ o ∈ (ofDocuments s docs).operations,
      Arises s (ofDocuments s docs) settings o p := by
  rcases h.documented_or_stems with hdocumented | ⟨o, ho, hstems⟩
  . exact .inl hdocumented
  . exact .inr ⟨o, ho, hstems.arises⟩

end Reports

end QueryLinker
