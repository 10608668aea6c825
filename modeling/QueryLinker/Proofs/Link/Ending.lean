import Mathlib
import QueryLinker.Proofs.Link.Outcome

/-!
This module contains when a pass comes to an end. With settings that are of use, only a rule that
cannot be carried out keeps it from that.
-/

namespace QueryLinker

open Graphql DefinitionTable Validation

namespace PassSettings

structure Sound (settings : PassSettings) : Prop where
  marker : settings.markerFlaw? = none
  limit : settings.limitFlaw? = none

variable {settings : PassSettings}

theorem Sound.checkLimit (h : settings.Sound) (known : List String) (events : List Event) :
    settings.checkLimit known events = .ok () := by
  unfold PassSettings.checkLimit
  rw [h.limit]

theorem Sound.queryId (h : settings.Sound) {path : String} (hpath : path ≠ "") :
    ∃ id, settings.queryId path = .ok id := by
  unfold PassSettings.queryId staticQueryId? Path.relative?
  rw [h.marker]
  simp [hpath]

theorem Sound.query (h : settings.Sound) {o : Operation} (ho : o.site.file ≠ "")
    (document : Document) : ∃ q, o.query document settings = .ok q := by
  unfold Operation.query
  dsimp only
  split
  . rcases h.queryId ho with ⟨id, hid⟩
    rw [hid]
    exact ⟨_, rfl⟩
  . exact ⟨_, rfl⟩

end PassSettings

namespace DefinitionTable

variable {s : Schema} {t : DefinitionTable} {settings : PassSettings} {o : Operation}

def Decided (s : Schema) (t : DefinitionTable) (settings : PassSettings) (o : Operation) : Prop :=
  (t.resolution settings.suggestionLimit o).ok →
    ∃ errors, validateFull s ((t.resolution settings.suggestionLimit o).document t)
      settings.nesting = .ok errors

theorem exists_attempt_iff (hsettings : settings.Sound) (ho : o.site.file ≠ "") :
    (∃ x, t.attempt s settings o = .ok x) ↔ t.Decided s settings o := by
  unfold attempt Decided
  dsimp only
  by_cases hok : (t.resolution settings.suggestionLimit o).ok
  . simp only [hok, forall_const]
    cases hvalid : validateFull s ((t.resolution settings.suggestionLimit o).document t)
        settings.nesting with
    | error failure => simp [Resolution.compile_of_error hvalid]
    | ok errors =>
      by_cases hne : errors = []
      . subst hne
        rw [Resolution.compile_of_valid hvalid, resolution_operation]
        rcases hsettings.query ho ((t.resolution settings.suggestionLimit o).document t) with
          ⟨q, hq⟩
        simp [hq, Except.map]
      . simp [Resolution.compile_of_invalid hne hvalid]
  . simp only [hok, hsettings.checkLimit]
    simp [bind, Except.bind, pure, Except.pure]

end DefinitionTable

namespace SourceDocument

variable {s : Schema} {t : DefinitionTable} {settings : PassSettings} {d : SourceDocument}

/--
Whether all rules can be carried out for a document by itself, and for what its first operation is
resolved to.
-/
def Decided (s : Schema) (t : DefinitionTable) (settings : PassSettings) (d : SourceDocument) :
    Prop :=
  d.Checked s ∧ (d.accepted s → ∀ o ∈ d.operations.head?, t.Decided s settings o)

theorem exists_attempt_iff (hsettings : settings.Sound) (hpath : d.path ≠ "") :
    (∃ x, d.attempt s t settings = .ok x) ↔
      ∀ o ∈ d.operations.head?, t.Decided s settings o := by
  rw [exists_attempt_iff_head]
  refine forall₂_congr fun o ho => ?_
  apply DefinitionTable.exists_attempt_iff hsettings
  rw [operation_file (List.mem_of_mem_head? ho)]
  exact hpath

end SourceDocument

section

variable {s : Schema} {t : DefinitionTable} {docs : List SourceDocument} {settings : PassSettings}
variable {d : SourceDocument} {o : Operation} {met : List String} {c : Compilation}

theorem ends_iff_decided (hsettings : settings.Sound) (hpath : d.path ≠ "") :
    d.Ends s t settings ↔ d.Decided s t settings := by
  unfold SourceDocument.Ends SourceDocument.Decided
  rw [d.exists_attempt_iff hsettings hpath]

theorem exists_compile_iff_decided (hnodup : (docs.map (·.path)).Nodup)
    (hpaths : ∀ d ∈ docs, d.path ≠ "") (hsettings : settings.Sound) :
    (∃ c, compile s docs settings = .ok c) ↔ (docs = [] ∨ s.flaws = []) ∧
      ∀ d ∈ docs, d.Decided s (ofDocuments s docs) settings := by
  rw [exists_compile_iff hnodup]
  have hends (d : SourceDocument) (hd : d ∈ docs) := ends_iff_decided (s := s)
    (t := ofDocuments s docs) hsettings (hpaths d hd)
  exact and_congr_right fun _ => forall₂_congr hends

theorem resolution_of_visits (limit : Int) (hv : t.spreadGraph.Visits o.spreadNames met) :
    (t.resolution limit o).ok ∧
      (t.resolution limit o).document t =
        o.assemble ((met.eraseDups.map t.get?).filterMap id) := by
  rcases Resolver.resolve_of_visits (r := .ofTable t limit) (.nil _) hv with ⟨hok, hnames⟩
  change (t.resolution limit o).names = met.eraseDups at hnames
  refine ⟨hok, ?_⟩
  unfold Resolution.document Resolution.fragments
  rw [resolution_operation, hnames]

theorem decided_iff_of_visits (settings : PassSettings)
    (hv : t.spreadGraph.Visits o.spreadNames met) :
    t.Decided s settings o ↔
      ∃ errors, validateFull s (o.assemble ((met.eraseDups.map t.get?).filterMap id))
        settings.nesting = .ok errors := by
  rcases resolution_of_visits settings.suggestionLimit hv with ⟨hok, hdocument⟩
  unfold DefinitionTable.Decided
  rw [hdocument]
  exact ⟨fun h => h hok, fun h _ => h⟩

theorem exists_query_of_visits (hnodup : (docs.map (·.path)).Nodup)
    (hc : compile s docs settings = .ok c) (hd : d ∈ docs) (hacc : d.accepted s)
    (hops : d.operations = [o]) (hv : (ofDocuments s docs).spreadGraph.Visits o.spreadNames met)
    (hvalid : validateFull s
      (o.assemble ((met.eraseDups.map (ofDocuments s docs).get?).filterMap id))
      settings.nesting = .ok []) :
    ∃ q ∈ c.queries, q.path = d.path := by
  rcases resolution_of_visits settings.suggestionLimit hv with ⟨hok, hdocument⟩
  rcases compile_document hnodup hc with ⟨_, _, hdocs⟩
  rcases hdocs d hd with ⟨x, hx, hquery, _⟩
  rw [if_pos hacc] at hx
  rcases SourceDocument.outcome_cases hops hx with ⟨query?, ps, hattempt, hfirst, _⟩
  rw [if_pos rfl] at hfirst
  rw [hfirst] at hquery
  cases hattempt with
  | unresolved hnot => exact absurd hok hnot
  | compiled =>
    exact ⟨_, List.mem_of_find?_eq_some hquery, by simpa using List.find?_some hquery⟩
  | invalid _ hinvalid hne =>
    rw [hdocument, hvalid, Except.ok.injEq] at hinvalid
    exact absurd hinvalid.symm hne

end

/-!
A page with a fragment of another file, and a subscription with a condition that has no value until
it is run.
-/

namespace Sample

def schema : Schema where
  types := [⟨"Query", .object [] [⟨"a", [], .named "Int"⟩]⟩,
    ⟨"Subscription", .object [] [⟨"a", [], .named "Int"⟩]⟩,
    ⟨"Int", .scalar⟩, ⟨"String", .scalar⟩, ⟨"Boolean", .scalar⟩]
  directives := Schema.standardDirectives
  query? := some "Query"
  subscription? := some "Subscription"

def settings : PassSettings :=
  { directory := "/" }

def name (value : String) : Name :=
  ⟨value, none⟩

def selection (directives : List Directive) : SelectionSet :=
  .braces [.field ⟨none, name "a", [], directives, none⟩ .absent] none

/-- This is `query Q { ...F }`. -/
def query : OperationDefinition :=
  ⟨.query, some (name "Q"), [], [], .braces [.spread ⟨name "F", [], none⟩] none, none⟩

/-- This is `fragment F on Query { a }`. -/
def fragment : FragmentDefinition :=
  ⟨name "F", ⟨name "Query", none⟩, [], selection [], none⟩

/-- This is `subscription S($x: Boolean!) { a @include(if: $x) }`. -/
def subscription : OperationDefinition :=
  ⟨.subscription, some (name "S"),
    [⟨⟨name "x", none⟩, .nonNull (.named ⟨name "Boolean", none⟩) none, none, [], none⟩], [],
    selection [⟨name "include", [⟨name "if", .var ⟨name "x", none⟩, none⟩], none⟩], none⟩

def page (path : String) : SourceDocument :=
  .ofDocument path ⟨[.operation query]⟩

def parts : SourceDocument :=
  .ofDocument "parts" ⟨[.fragment fragment]⟩

def live : SourceDocument :=
  .ofDocument "live" ⟨[.operation subscription]⟩

def documents : List SourceDocument :=
  [page "page", parts]

theorem settings_sound : settings.Sound :=
  ⟨rfl, rfl⟩

theorem schema_flaws : schema.flaws = [] := by
  decide +kernel

theorem accepted_page (path : String) : (page path).accepted schema := by
  have hquery : validateStructure schema ⟨[.operation query]⟩ = .ok [] := by
    cbv
  exact SourceDocument.accepted_iff.mpr hquery

theorem accepted_parts : parts.accepted schema := by
  decide +kernel

theorem accepted_live : live.accepted schema := by
  decide +kernel

theorem validate_query : validateFull schema ⟨[.fragment fragment, .operation query]⟩ = .ok [] := by
  cbv

theorem validate_subscription : validateFull schema ⟨[.operation subscription]⟩ =
    .error (.broken (errorAt none ("Argument 'if' of required type 'Boolean!' was provided the " ++
      "variable '$x' which was not provided a runtime value."))) := by
  cbv

theorem get?_fragment :
    ∃ f, (ofDocuments schema documents).get? "F" = some f ∧ f.node = fragment := by
  unfold ofDocuments documents
  rw [List.filter_cons_of_pos (accepted_page _), List.filter_cons_of_pos accepted_parts]
  exact ⟨_, rfl, rfl⟩

theorem page_visits (path : String) :
    ∃ o, (page path).operations = [o] ∧
      (ofDocuments schema documents).spreadGraph.Visits o.spreadNames ["F"] ∧
      o.assemble ((["F"].eraseDups.map (ofDocuments schema documents).get?).filterMap id) =
        ⟨[.fragment fragment, .operation query]⟩ := by
  rcases get?_fragment with ⟨f, hf, hnode⟩
  have hgraph : (ofDocuments schema documents).spreadGraph "F" = some [] := by
    rw [spreadGraph_of_get? hf, Fragment.spreads, hnode]
    cbv
  refine ⟨_, rfl, .cons hgraph .nil .nil, ?_⟩
  have hfragments : ["F"].eraseDups.map (ofDocuments schema documents).get? = [some f] := by
    rw [← hf]
    rfl
  rw [hfragments, ← hnode]
  rfl

theorem page_decided (path : String) :
    (page path).Decided schema (ofDocuments schema documents) settings := by
  rcases page_visits path with ⟨o, hops, hv, hdocument⟩
  refine ⟨⟨_, SourceDocument.accepted_iff.mp (accepted_page path)⟩, fun _ => ?_⟩
  rw [hops]
  simp only [List.head?_cons, Option.mem_def, Option.some.injEq, forall_eq']
  rw [decided_iff_of_visits settings hv, hdocument]
  exact ⟨_, validate_query⟩

theorem parts_decided : parts.Decided schema (ofDocuments schema documents) settings := by
  have hops : parts.operations = [] := rfl
  refine ⟨⟨_, SourceDocument.accepted_iff.mp accepted_parts⟩, fun _ => ?_⟩
  rw [hops]
  simp

theorem live_not_decided (t : DefinitionTable) : ¬ live.Decided schema t settings := by
  intro h
  -- The subscription spreads nothing, so no table makes a difference to it.
  have hspreads : subscription.selectionSet.spreadNames = [] := by
    cbv
  obtain ⟨o, hops, hnode⟩ : ∃ o, live.operations = [o] ∧ o.node = subscription := ⟨_, rfl, rfl⟩
  have hv : t.spreadGraph.Visits o.spreadNames [] := by
    rw [Operation.spreadNames, hnode, hspreads]
    exact .nil
  rcases (decided_iff_of_visits settings hv).mp (h.2 accepted_live o (by simp [hops])) with
    ⟨errors, herrors⟩
  change validateFull schema ⟨[.operation o.node]⟩ = .ok errors at herrors
  rw [hnode, validate_subscription] at herrors
  cases herrors

theorem documents_nodup : (documents.map (·.path)).Nodup := by
  decide

theorem documents_path : ∀ d ∈ documents, d.path ≠ "" := by
  simp [documents, page, parts, SourceDocument.ofDocument]

theorem exists_compile : ∃ c, compile schema documents settings = .ok c := by
  rw [exists_compile_iff_decided documents_nodup documents_path settings_sound]
  refine ⟨.inr schema_flaws, ?_⟩
  intro d hd
  rcases List.mem_pair.mp hd with rfl | rfl
  . exact page_decided _
  . exact parts_decided

theorem exists_query {c : Compilation} (hc : compile schema documents settings = .ok c) :
    ∃ q ∈ c.queries, q.path = "page" := by
  rcases page_visits "page" with ⟨o, hops, hv, hdocument⟩
  exact exists_query_of_visits documents_nodup hc (by simp [documents]) (accepted_page _) hops hv
    (by rw [hdocument]; exact validate_query)

theorem query?_isSome {c : Compilation} (hc : compile schema documents settings = .ok c) :
    (c.query? "page").isSome := by
  rcases exists_query hc with ⟨q, hq, hpath⟩
  rw [Compilation.query?, List.find?_isSome]
  exact ⟨q, hq, by simp [hpath]⟩

theorem live_nodup : ((documents ++ [live]).map (·.path)).Nodup := by
  decide

theorem live_path : ∀ d ∈ documents ++ [live], d.path ≠ "" := by
  rw [List.forall_mem_append, List.forall_mem_singleton]
  exact ⟨documents_path, by decide⟩

theorem compile_live (c : Compilation) : compile schema (documents ++ [live]) settings ≠ .ok c := by
  intro hc
  have hdecided := (exists_compile_iff_decided live_nodup live_path settings_sound).mp ⟨c, hc⟩
  exact live_not_decided _ (hdecided.2 live (by simp))

end Sample

end QueryLinker
