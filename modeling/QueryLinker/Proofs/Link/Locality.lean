import QueryLinker.Proofs.Link.Account

/-!
This module contains that a document comes to the same in two passes whose tables agree on all that
it reaches, except for suggestions; and to exactly the same if only such documents are put in
between that have no fragments to offer.
-/

namespace QueryLinker

open Graphql DefinitionTable

def Problem.withoutSuggestion : Problem → Problem
  | .unknownFragment o s site _ => .unknownFragment o s site none
  | p => p

theorem Problem.kind_withoutSuggestion (p : Problem) : p.withoutSuggestion.kind = p.kind := by
  cases p <;> rfl

/-- A view of problems in which the same is suggested, whichever of two lists names come from. -/
def SameSuggestions (view : Problem → Problem) (limit : Int) (known known' : List String) : Prop :=
  ∀ o s site n,
    view (.unknownFragment o s site (closestName known limit n)) =
      view (.unknownFragment o s site (closestName known' limit n))

theorem sameSuggestions_withoutSuggestion (limit : Int) (known known' : List String) :
    SameSuggestions Problem.withoutSuggestion limit known known' := by
  intro o s site n
  rfl

theorem Explores.congr {c : WalkContext} {view : Problem → Problem} {path failed : List String}
    {site : Site} {spreads : List FragmentSpread} {r : Exploration}
    (h : Explores c path failed site spreads r) (c' : WalkContext)
    (hoperation : c.operation = c'.operation)
    (hlimit : c.suggestionLimit = c'.suggestionLimit)
    (hview : SameSuggestions view c.suggestionLimit c.known c'.known)
    (hagree : ∀ n, c.table.spreadGraph.Reaches (spreads.map (·.name.value)) n →
      c.table.get? n = c'.table.get? n) :
    ∃ r', Explores c' path failed site spreads r' ∧ r'.names? = r.names? ∧ r'.failed = r.failed ∧
      r'.problems.map view = r.problems.map view := by
  induction h with
  | nil => exact ⟨_, .nil, rfl, rfl, rfl⟩
  | @cycle path failed site s rest r hpath _ ih =>
    rcases ih fun n hn => hagree n (hn.mono (by simp)) with ⟨r', hr', hnames, hfailed, hproblems⟩
    refine ⟨_, .cycle hpath hr', rfl, hfailed, ?_⟩
    simp only [Exploration.refuse, List.map_append, hproblems, hoperation]
  | @again path failed site s rest r hpath hmem _ ih =>
    rcases ih fun n hn => hagree n (hn.mono (by simp)) with ⟨r', hr', hnames, hfailed, hproblems⟩
    exact ⟨_, .again hpath hmem hr', rfl, hfailed, hproblems⟩
  | @unknown path failed site s rest r hpath hmem hget _ ih =>
    rcases ih fun n hn => hagree n (hn.mono (by simp)) with ⟨r', hr', hnames, hfailed, hproblems⟩
    have hget' : c'.table.get? s.name.value = none := by
      rw [← hagree _ (.of_mem (by simp)), hget]
    refine ⟨_, .unknown hpath hmem hget' hr', rfl, hfailed, ?_⟩
    simp only [Exploration.refuse, List.map_append, hproblems, hoperation, List.map_cons,
      List.map_nil]
    rw [hview, hlimit]
  | @enter path failed site s rest f inner r hpath hmem hget _ _ ihinner ihrest =>
    have hgraph := DefinitionTable.spreadGraph_of_get? hget
    rcases ihinner fun n hn => hagree n (.enter (.of_mem (by simp)) hgraph hn) with
      ⟨inner', hinner', hnames, hfailed, hproblems⟩
    rcases ihrest fun n hn => hagree n (hn.mono (by simp)) with
      ⟨r', hr', hnames', hfailed', hproblems'⟩
    have hget' : c'.table.get? s.name.value = some f := by
      rw [← hagree _ (.of_mem (by simp)), hget]
    -- The rest is walked with the same failed fragments, so it can be walked alike.
    have hwith : inner'.failedWith s.name.value = inner.failedWith s.name.value := by
      simp only [Exploration.failedWith, hnames, hfailed]
    rw [← hwith] at hr'
    refine ⟨_, .enter hpath hmem hget' hinner' hr', ?_, hfailed', ?_⟩
    . simp only [Exploration.join, hnames, hnames']
    . simp only [Exploration.join, List.map_append, hproblems, hproblems']

namespace DefinitionTable

variable {s : Schema} {t t' : DefinitionTable} {settings : PassSettings} {o : Operation}
variable {view : Problem → Problem} {limit : Int}

def AgreeOn (t t' : DefinitionTable) (o : Operation) : Prop :=
  ∀ n, t.spreadGraph.Reaches o.spreadNames n → t.get? n = t'.get? n

theorem resolution_congr (hview : SameSuggestions view limit t.fragmentNames t'.fragmentNames)
    (hagree : t.AgreeOn t' o) :
    (t.resolution limit o).names = (t'.resolution limit o).names ∧
      (t.resolution limit o).ok = (t'.resolution limit o).ok ∧
      (t.resolution limit o).problems.map view = (t'.resolution limit o).problems.map view := by
  rcases Resolver.exists_explores (.ofTable t limit) t o with ⟨x, hx⟩
  rcases hx.congr ((Resolver.ofTable t' limit).context t' o) rfl rfl hview
    (by rw [o.spreads_map_name]; exact hagree) with ⟨x', hx', hnames, _, hproblems⟩
  have hempty : x'.problems.isEmpty = x.problems.isEmpty := by
    rw [← List.isEmpty_map, hproblems, List.isEmpty_map]
  unfold resolution
  rw [(Resolver.resolve_of_explores hx (.nil _)).1, (Resolver.resolve_of_explores hx' (.nil _)).1]
  unfold Exploration.resolution Resolution.ok
  rw [hnames]
  cases x.names? with
  | some names => exact ⟨rfl, rfl, rfl⟩
  | none => exact ⟨rfl, hempty.symm, hproblems.symm⟩

theorem resolution_fragments_congr (hnames : (t.resolution limit o).names =
    (t'.resolution limit o).names) (hagree : t.AgreeOn t' o) :
    (t.resolution limit o).fragments t = (t'.resolution limit o).fragments t' := by
  unfold Resolution.fragments
  rw [← hnames]
  apply List.map_congr_left
  intro n hn
  apply hagree
  by_cases hok : (t.resolution limit o).ok
  . rcases Resolver.exists_visits_of_ok (.nil _) hok with ⟨met, hv, hmet⟩
    change (t.resolution limit o).names = met.eraseDups at hmet
    rw [hmet, List.mem_eraseDups] at hn
    exact hv.reaches_of_mem hn
  . rw [resolution_names_of_not_ok hok] at hn
    cases hn

end DefinitionTable

def EndAlike (view : Problem → Problem)
    (x y : Except PassFailure (Option CompiledQuery × List Event)) : Prop :=
  ∀ a b, x = .ok a → y = .ok b →
    a.1 = b.1 ∧ (Event.problems a.2).map view = (Event.problems b.2).map view

section

variable {s : Schema} {t t' : DefinitionTable} {settings : PassSettings} {o : Operation}
variable {view : Problem → Problem} {d : SourceDocument}

theorem compile_resolution_congr
    (hview : SameSuggestions view settings.suggestionLimit t.fragmentNames t'.fragmentNames)
    (hagree : t.AgreeOn t' o) :
    (t.resolution settings.suggestionLimit o).compile s t settings =
      (t'.resolution settings.suggestionLimit o).compile s t' settings := by
  have hfragments := resolution_fragments_congr (resolution_congr hview hagree).1 hagree
  unfold Resolution.compile
  rw [hfragments, resolution_operation, resolution_operation]

theorem attempt_alike
    (hview : SameSuggestions view settings.suggestionLimit t.fragmentNames t'.fragmentNames)
    (hagree : t.AgreeOn t' o) :
    EndAlike view (t.attempt s settings o) (t'.attempt s settings o) := by
  rcases resolution_congr hview hagree with ⟨_, hok, hproblems⟩
  have hcompile := compile_resolution_congr (s := s) hview hagree
  intro a b ha hb
  unfold DefinitionTable.attempt at ha hb
  dsimp only at ha hb
  rw [← hok, ← hcompile] at hb
  split at ha
  next hresolved =>
    rw [if_pos hresolved, ha] at hb
    cases hb
    exact ⟨rfl, rfl⟩
  next hresolved =>
    rw [if_neg hresolved] at hb
    rcases bind_eq_ok_iff.mp ha with ⟨_, _, ha⟩
    rcases bind_eq_ok_iff.mp hb with ⟨_, _, hb⟩
    cases ha
    cases hb
    refine ⟨rfl, ?_⟩
    rw [Event.problems_summed_up _ rfl, Event.problems_summed_up _ rfl]
    exact hproblems

theorem outcome_alike
    (hview : SameSuggestions view settings.suggestionLimit t.fragmentNames t'.fragmentNames)
    (hagree : ∀ o ∈ d.operations, t.AgreeOn t' o) :
    EndAlike view (d.outcome s t settings) (d.outcome s t' settings) := by
  intro a b ha hb
  rcases SourceDocument.outcome_eq_ok_iff.mp ha with ⟨x, hx, rfl⟩
  rcases SourceDocument.outcome_eq_ok_iff.mp hb with ⟨y, hy, rfl⟩
  unfold SourceDocument.attempt at hx hy
  cases hops : d.operations with
  | nil =>
    rw [hops] at hx hy
    cases hx
    cases hy
    exact ⟨rfl, rfl⟩
  | cons o later =>
    rw [hops] at hx hy
    rcases bind_eq_ok_iff.mp hx with ⟨x, hfirst, heq⟩
    cases heq
    rcases bind_eq_ok_iff.mp hy with ⟨y, hfirst', heq⟩
    cases heq
    rcases attempt_alike hview (hagree o (by simp [hops])) x y hfirst hfirst' with
      ⟨hquery, hproblems⟩
    refine ⟨by rw [hquery], ?_⟩
    simp only [Event.problems_append, List.map_append, hproblems]

theorem checkLimit_congr {known known' : List String} {events events' : List Event}
    (hkind : ∀ p, (view p).kind = p.kind)
    (hlimit : settings.limitFlaw? = none ∨ known.isEmpty = known'.isEmpty)
    (hevents : (Event.problems events).map view = (Event.problems events').map view) :
    settings.checkLimit known events = settings.checkLimit known' events' := by
  have hany (events : List Event) :
      (Event.problems events).any (·.kind == .unknownFragment) =
        ((Event.problems events).map view).any (·.kind == .unknownFragment) := by
    simp only [List.any_map, Function.comp_def, hkind]
  unfold PassSettings.checkLimit
  rw [hany events, hany events', hevents]
  rcases hlimit with hlimit | hknown
  . rw [hlimit]
  . rw [hknown]

theorem exists_attempt_congr (hkind : ∀ p, (view p).kind = p.kind)
    (hlimit : settings.limitFlaw? = none ∨ t.fragmentNames.isEmpty = t'.fragmentNames.isEmpty)
    (hview : SameSuggestions view settings.suggestionLimit t.fragmentNames t'.fragmentNames)
    (hagree : t.AgreeOn t' o) :
    (∃ x, t.attempt s settings o = .ok x) ↔ ∃ x, t'.attempt s settings o = .ok x := by
  rcases resolution_congr hview hagree with ⟨_, hok, hproblems⟩
  have hcompile := compile_resolution_congr (s := s) hview hagree
  have hevents (count count' : Nat) :
      (Event.problems ((t.resolution settings.suggestionLimit o).problems.map .problem ++
          [.unresolved o count])).map view =
        (Event.problems ((t'.resolution settings.suggestionLimit o).problems.map .problem ++
          [.unresolved o count'])).map view := by
    rw [Event.problems_summed_up _ rfl, Event.problems_summed_up _ rfl]
    exact hproblems
  unfold DefinitionTable.attempt
  dsimp only
  rw [← hok, ← hcompile, checkLimit_congr hkind hlimit (hevents _ _)]
  split
  . rfl
  . cases settings.checkLimit t'.fragmentNames _ with
    | error failure => simp [bind, Except.bind]
    | ok => simp [bind, Except.bind, pure, Except.pure]

theorem ends_congr (hkind : ∀ p, (view p).kind = p.kind)
    (hlimit : settings.limitFlaw? = none ∨ t.fragmentNames.isEmpty = t'.fragmentNames.isEmpty)
    (hview : SameSuggestions view settings.suggestionLimit t.fragmentNames t'.fragmentNames)
    (hagree : ∀ o ∈ d.operations, t.AgreeOn t' o) :
    d.Ends s t settings ↔ d.Ends s t' settings := by
  unfold SourceDocument.Ends
  rw [SourceDocument.exists_attempt_iff_head, SourceDocument.exists_attempt_iff_head]
  have hhead : (∀ o ∈ d.operations.head?, ∃ y, t.attempt s settings o = .ok y) ↔
      ∀ o ∈ d.operations.head?, ∃ y, t'.attempt s settings o = .ok y :=
    forall₂_congr fun o ho =>
      exists_attempt_congr hkind hlimit hview (hagree o (List.mem_of_mem_head? ho))
  rw [hhead]

end

section

variable {s : Schema} {t t' t₁ t₂ : DefinitionTable} {docs docs' : List SourceDocument}
variable {events events' : List Event}

def SourceDocument.Inert (s : Schema) (d : SourceDocument) : Prop :=
  d.accepted s → d.document.fragments = []

theorem SourceDocument.Inert.fragments {d : SourceDocument} (h : d.Inert s) (hacc : d.accepted s) :
    d.fragments = [] := by
  rw [← List.map_eq_nil_iff (f := Fragment.node), d.fragments_map_node]
  exact h hacc

theorem collectDocument_inert {d : SourceDocument} (h : t.SameFragments t') (hd : d.Inert s)
    (hcollect : t'.collectDocument s d = .ok (t₂, events)) : t.SameFragments t₂ := by
  rw [(collectDocument_eq_ok hcollect).2.1]
  split
  next hacc => exact h.addExtracts_of_no_fragment d.path (hd.fragments hacc)
  next => exact h

theorem collectDocument_same {d : SourceDocument} (h : t.SameFragments t')
    (h₁ : t.collectDocument s d = .ok (t₁, events))
    (h₂ : t'.collectDocument s d = .ok (t₂, events')) :
    t₁.SameFragments t₂ ∧ events = events' := by
  by_cases hacc : d.accepted s
  . rw [collectDocument_of_accepted hacc, Except.ok.injEq] at h₁ h₂
    have hadd := h.addDocument d
    rw [h₁, h₂] at hadd
    exact hadd
  . rcases (collectDocument_eq_ok h₁).1 with ⟨errors, hd⟩
    rw [collectDocument_of_rejected hacc hd, Except.ok.injEq] at h₁ h₂
    cases h₁
    cases h₂
    exact ⟨h, rfl⟩

theorem collectDocuments_same (h : t.SameFragments t') (hsub : docs.Sublist docs')
    (hnodup : (docs'.map (·.path)).Nodup) (hinert : ∀ e ∈ docs', e ∉ docs → e.Inert s)
    (h₁ : t.collectDocuments s docs = .ok (t₁, events))
    (h₂ : t'.collectDocuments s docs' = .ok (t₂, events')) :
    t₁.SameFragments t₂ ∧ ∀ d ∈ docs,
      Problem.under d.path (Event.problems events) =
        Problem.under d.path (Event.problems events') := by
  -- The tables differ from the start of the induction on, but not in their fragments.
  induction hsub generalizing t t' t₁ t₂ events events' with
  | slnil =>
    cases h₁
    cases h₂
    exact ⟨h, by simp⟩
  | @cons docs docs' e hsub ih =>
    rw [List.map_cons, List.nodup_cons] at hnodup
    rcases collectDocuments_cons_eq_ok.mp h₂ with ⟨t₃, first, he, t₄, later, hlater, heq⟩
    cases heq
    have hmem {d : SourceDocument} (hd : d ∈ docs) : e.path ≠ d.path :=
      fun heq => hnodup.1 (heq ▸ List.mem_map_of_mem (hsub.subset hd))
    have hnew : e ∉ docs := fun he => hmem he rfl
    have hsame := collectDocument_inert h (hinert e (by simp) hnew) he
    rcases ih hsame hnodup.2 (fun x hx => hinert x (List.mem_cons_of_mem _ hx)) h₁ hlater with
      ⟨htables, hunder⟩
    refine ⟨htables, ?_⟩
    intro d hd
    have hfirst := Problem.under_of_forall_ne (collectDocument_eq_ok he).2.2.1 (hmem hd)
    rw [Event.problems_append, Problem.under_append, hfirst, List.nil_append]
    exact hunder d hd
  | @cons_cons docs docs' d hsub ih =>
    rw [List.map_cons, List.nodup_cons] at hnodup
    rcases collectDocuments_cons_eq_ok.mp h₁ with ⟨t₃, first, hd₁, t₄, later, hlater, heq⟩
    cases heq
    rcases collectDocuments_cons_eq_ok.mp h₂ with ⟨t₅, first', hd₂, t₆, later', hlater', heq⟩
    cases heq
    rcases collectDocument_same h hd₁ hd₂ with ⟨hsame, rfl⟩
    have hinert' : ∀ e ∈ docs', e ∉ docs → e.Inert s := by
      intro e he hnot
      apply hinert e (List.mem_cons_of_mem _ he)
      intro hmem
      rcases List.mem_cons.mp hmem with rfl | hmem
      . exact hnodup.1 (List.mem_map_of_mem he)
      . exact hnot hmem
    rcases ih hsame hnodup.2 hinert' hlater hlater' with ⟨htables, hunder⟩
    refine ⟨htables, ?_⟩
    intro x hx
    rw [Event.problems_append, Event.problems_append, Problem.under_append, Problem.under_append]
    congr 1
    rcases List.mem_cons.mp hx with rfl | hx
    . rw [under_collected_of_not_mem hlater fun h => hnodup.1 ((hsub.map _).subset h),
        under_collected_of_not_mem hlater' hnodup.1]
    . exact hunder x hx

theorem ofDocuments_same (hsub : docs.Sublist docs') (hnodup : (docs'.map (·.path)).Nodup)
    (hinert : ∀ e ∈ docs', e ∉ docs → e.Inert s) (hchecked : ∀ e ∈ docs', e.Checked s) :
    (ofDocuments s docs).SameFragments (ofDocuments s docs') := by
  have hchecked' : ∀ d ∈ docs, d.Checked s := fun d hd => hchecked d (hsub.subset hd)
  rcases (exists_collectDocuments_iff empty).mpr hchecked' with ⟨⟨t₁, events⟩, h₁⟩
  rcases (exists_collectDocuments_iff empty).mpr hchecked with ⟨⟨t₂, events'⟩, h₂⟩
  have hsame := (collectDocuments_same (.refl empty) hsub hnodup hinert h₁ h₂).1
  cases collectDocuments_table h₁
  cases collectDocuments_table h₂
  exact hsame

theorem DefinitionTable.SameFragments.suggestions (h : t.SameFragments t') (limit : Int) :
    SameSuggestions id limit t.fragmentNames t'.fragmentNames := by
  intro o site spread n
  unfold fragmentNames
  rw [h.fragments]

theorem DefinitionTable.SameFragments.agreeOn (h : t.SameFragments t') (o : Operation) :
    t.AgreeOn t' o := by
  intro n _
  unfold DefinitionTable.get?
  rw [h.fragments]

theorem DefinitionTable.SameFragments.ends_iff {settings : PassSettings} (h : t.SameFragments t')
    (d : SourceDocument) : d.Ends s t settings ↔ d.Ends s t' settings := by
  apply ends_congr (fun _ => rfl) _ (h.suggestions _) fun o _ => h.agreeOn o
  unfold fragmentNames
  rw [h.fragments]
  exact .inr rfl

end

section

variable {s : Schema} {docs docs' : List SourceDocument} {settings : PassSettings}
variable {c c' : Compilation} {d : SourceDocument}

theorem compile_agree (hnodup : (docs.map (·.path)).Nodup) (hnodup' : (docs'.map (·.path)).Nodup)
    (hc : compile s docs settings = .ok c) (hc' : compile s docs' settings = .ok c')
    (hd : d ∈ docs) (hd' : d ∈ docs')
    (hagree : ∀ o ∈ d.operations, (ofDocuments s docs).AgreeOn (ofDocuments s docs') o) :
    c.query? d.path = c'.query? d.path ∧
      (Problem.ownUnder d.path c.problems).map Problem.withoutSuggestion =
        (Problem.ownUnder d.path c'.problems).map Problem.withoutSuggestion := by
  rcases compile_own hnodup hc hd with ⟨_, x, hx, hquery, hown⟩
  rcases compile_own hnodup' hc' hd' with ⟨_, x', hx', hquery', hown'⟩
  rw [hquery, hquery', hown, hown', List.map_append, List.map_append]
  split at hx
  next hacc =>
    rw [if_pos hacc] at hx'
    rcases outcome_alike (sameSuggestions_withoutSuggestion _ _ _) hagree x x' hx hx' with
      ⟨hsame, hproblems⟩
    exact ⟨hsame, by rw [hproblems]⟩
  next hacc =>
    rw [if_neg hacc] at hx'
    cases hx
    cases hx'
    exact ⟨rfl, rfl⟩

theorem compile_inert (hsub : docs.Sublist docs') (hnodup' : (docs'.map (·.path)).Nodup)
    (hinert : ∀ e ∈ docs', e ∉ docs → e.Inert s)
    (hc : compile s docs settings = .ok c) (hc' : compile s docs' settings = .ok c')
    (hd : d ∈ docs) :
    c.query? d.path = c'.query? d.path ∧
      Problem.under d.path c.problems = Problem.under d.path c'.problems := by
  rcases compile_document (hnodup'.sublist (hsub.map _)) hc with ⟨events, hevents, hdocs⟩
  rcases compile_document hnodup' hc' with ⟨events', hevents', hdocs'⟩
  rcases hdocs d hd with ⟨x, hx, hquery, hproblems⟩
  rcases hdocs' d (hsub.subset hd) with ⟨x', hx', hquery', hproblems'⟩
  rcases collectDocuments_same (.refl empty) hsub hnodup' hinert hevents hevents' with
    ⟨htables, hunder⟩
  rw [hquery, hquery', hproblems, hproblems', hunder d hd]
  split at hx
  next hacc =>
    rw [if_pos hacc] at hx'
    rcases outcome_alike (htables.suggestions _) (fun o _ => htables.agreeOn o) x x' hx hx' with
      ⟨hsame, hlater⟩
    rw [List.map_id, List.map_id] at hlater
    exact ⟨hsame, by rw [hlater]⟩
  next hacc =>
    rw [if_neg hacc] at hx'
    cases hx
    cases hx'
    exact ⟨rfl, rfl⟩

theorem exists_compile_inert_iff (hsub : docs.Sublist docs')
    (hnodup' : (docs'.map (·.path)).Nodup) (hinert : ∀ e ∈ docs', e ∉ docs → e.Inert s)
    (hc : ∃ c, compile s docs settings = .ok c) :
    (∃ c', compile s docs' settings = .ok c') ↔ (docs' = [] ∨ s.flaws = []) ∧
      ∀ e ∈ docs', e ∉ docs → e.Ends s (ofDocuments s docs) settings := by
  rw [exists_compile_iff (hnodup'.sublist (hsub.map _))] at hc
  rw [exists_compile_iff hnodup']
  have hends (hchecked : ∀ e ∈ docs', e.Checked s) (d : SourceDocument) :
      d.Ends s (ofDocuments s docs) settings ↔ d.Ends s (ofDocuments s docs') settings :=
    (ofDocuments_same hsub hnodup' hinert hchecked).ends_iff d
  constructor
  . rintro ⟨hschema, h⟩
    refine ⟨hschema, fun e he _ => ?_⟩
    rw [hends fun d hd => (h d hd).1]
    exact h e he
  . rintro ⟨hschema, h⟩
    have hall : ∀ e ∈ docs', e.Ends s (ofDocuments s docs) settings := by
      intro e he
      by_cases hmem : e ∈ docs
      . exact hc.2 e hmem
      . exact h e he hmem
    refine ⟨hschema, fun e he => ?_⟩
    rw [← hends fun d hd => (hall d hd).1]
    exact hall e he

/--
A pass ends iff each document does. Between two passes that end, a document whose operations reach
the same fragments has the same query or none in both, and the same problems up to suggestions; with
a limit of use for suggestions, it ends in both passes or in none. If the second pass only has
further documents without fragments, it ends iff they do, and then all that is said under the path
of any other document stays exactly as it was.
-/
theorem compile_local (hnodup : (docs.map (·.path)).Nodup)
    (hnodup' : (docs'.map (·.path)).Nodup) :
    ((∃ c, compile s docs settings = .ok c) ↔ (docs = [] ∨ s.flaws = []) ∧
      ∀ d ∈ docs, d.Ends s (ofDocuments s docs) settings) ∧
    (∀ d ∈ docs, d ∈ docs' →
      (∀ o ∈ d.operations, (ofDocuments s docs).AgreeOn (ofDocuments s docs') o) →
      (settings.limitFlaw? = none →
        (d.Ends s (ofDocuments s docs) settings ↔ d.Ends s (ofDocuments s docs') settings)) ∧
      ∀ c c', compile s docs settings = .ok c → compile s docs' settings = .ok c' →
        c.query? d.path = c'.query? d.path ∧
        (Problem.ownUnder d.path c.problems).map Problem.withoutSuggestion =
          (Problem.ownUnder d.path c'.problems).map Problem.withoutSuggestion) ∧
    (docs.Sublist docs' → (∀ e ∈ docs', e ∉ docs → e.Inert s) →
      ∀ c, compile s docs settings = .ok c →
        ((∃ c', compile s docs' settings = .ok c') ↔ (docs' = [] ∨ s.flaws = []) ∧
          ∀ e ∈ docs', e ∉ docs → e.Ends s (ofDocuments s docs) settings) ∧
        ∀ c', compile s docs' settings = .ok c' → ∀ d ∈ docs,
          c.query? d.path = c'.query? d.path ∧
          Problem.under d.path c.problems = Problem.under d.path c'.problems) := by
  refine ⟨exists_compile_iff hnodup, ?_, ?_⟩
  . intro d hd hd' hagree
    constructor
    . intro hlimit
      exact ends_congr Problem.kind_withoutSuggestion (.inl hlimit)
        (sameSuggestions_withoutSuggestion _ _ _) hagree
    . intro c c' hc hc'
      exact compile_agree hnodup hnodup' hc hc' hd hd' hagree
  . intro hsub hinert c hc
    refine ⟨exists_compile_inert_iff hsub hnodup' hinert ⟨c, hc⟩, ?_⟩
    intro c' hc' d hd
    exact compile_inert hsub hnodup' hinert hc hc' hd

theorem compile_local_page : ∃ c c',
    compile Sample.schema Sample.documents Sample.settings = .ok c ∧
      compile Sample.schema (Sample.page "other" :: Sample.documents) Sample.settings = .ok c' ∧
      c.query? "page" = c'.query? "page" ∧ (c.query? "page").isSome := by
  have hnodup' : ((Sample.page "other" :: Sample.documents).map (·.path)).Nodup := by
    decide
  have hinert : ∀ e ∈ Sample.page "other" :: Sample.documents, e ∉ Sample.documents →
      e.Inert Sample.schema := by
    intro e he hnot
    rcases List.mem_cons.mp he with rfl | he
    . exact fun _ => rfl
    . exact absurd he hnot
  have hends : ∀ e ∈ Sample.page "other" :: Sample.documents, e ∉ Sample.documents →
      e.Ends Sample.schema (ofDocuments Sample.schema Sample.documents) Sample.settings := by
    intro e he hnot
    rcases List.mem_cons.mp he with rfl | he
    . exact (ends_iff_decided Sample.settings_sound (by decide)).mpr (Sample.page_decided _)
    . exact absurd he hnot
  rcases Sample.exists_compile with ⟨c, hc⟩
  rcases (compile_local Sample.documents_nodup hnodup').2.2 (.cons _ (.refl _)) hinert c hc with
    ⟨hiff, hsame⟩
  rcases hiff.mpr ⟨.inr Sample.schema_flaws, hends⟩ with ⟨c', hc'⟩
  refine ⟨c, c', hc, hc', ?_, Sample.query?_isSome hc⟩
  exact (hsame c' hc' (Sample.page "page") (by simp [Sample.documents])).1

/-- The sample's subscription holds no fragment, and still there is no pass after it is put in. -/
theorem compile_not_local :
    Sample.live.document.fragments = [] ∧
      (∃ c, compile Sample.schema Sample.documents Sample.settings = .ok c ∧
        (c.query? "page").isSome) ∧
      ∀ c', compile Sample.schema (Sample.documents ++ [Sample.live]) Sample.settings ≠ .ok c' := by
  rcases Sample.exists_compile with ⟨c, hc⟩
  exact ⟨rfl, ⟨c, hc, Sample.query?_isSome hc⟩, Sample.compile_live⟩

end

end QueryLinker
