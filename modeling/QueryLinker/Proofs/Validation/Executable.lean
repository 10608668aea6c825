import QueryLinker.Proofs.Link.Minimal
import QueryLinker.Proofs.Validation.Cycles
import QueryLinker.Proofs.Validation.Report

/-!
This module contains what the rules about operations and fragments say of a document with one
operation: they say nothing if its fragments have different names, are all needed, and neither miss
a fragment nor come back to themselves.
-/

namespace QueryLinker.Validation

open Graphql Rules

def Rule.reactions (rule : Rule) (state : rule.State) : List Event → Report
  | [] => {}
  | e :: es =>
    let r := rule.visit state e
    match r.halt? with
    | some halt => ⟨r.errors, some halt⟩
    | none => (rule.reactions r.state es).behind r.errors

def Event.ofDefinition (schema : Schema) (e : Event) : Definition → Event
  | .operation o => e.inside (.operation o) (e.types.enterOperation schema o)
  | .fragment f => e.inside (.fragment f) (e.types.enterFragment schema (some f.typeCondition))
  | _ => e

/-- A rule that looks at operations and fragments as a whole, if it does not give up there. -/
structure Rule.Skips (rule : Rule) : Prop where
  operation : ∀ state e o, e.Enters → e.node = .operation o →
    (rule.visit state e).skip = true ∨ (rule.visit state e).halt?.isSome
  fragment : ∀ state e f, e.Enters → e.node = .fragment f →
    (rule.visit state e).skip = true ∨ (rule.visit state e).halt?.isSome
  document : ∀ state e d, e.node = .document d → (rule.visit state e).skip = false

namespace Rule

variable {rule : Rule} {schema : Schema} {e : Event} {d : Definition}

def documentEvent (d : Document) : Event :=
  { node := .document d }

theorem Skips.definition (h : rule.Skips) (he : e.Enters) (hd : d.isOperation ∨ d.isFragment)
    (state : rule.State) :
    (rule.visit state (e.ofDefinition schema d)).skip = true ∨
      (rule.visit state (e.ofDefinition schema d)).halt?.isSome := by
  cases d with
  | operation o => exact h.operation state _ o (he.inside _ _) rfl
  | fragment f => exact h.fragment state _ f (he.inside _ _) rfl
  | _ => simp [Definition.isOperation, Definition.isFragment] at hd

theorem definitionEvents_eq (schema : Schema) (he : e.Enters) (hd : d.isOperation ∨ d.isFragment) :
    ∃ inner, definitionEvents schema e d = (e.ofDefinition schema d).around inner ∧
      WholeEvents inner := by
  cases d with
  | operation o =>
    rcases operationEvents_eq (s := schema) he o with ⟨inner, heq, hinner, _⟩
    exact ⟨inner, heq, hinner⟩
  | fragment f =>
    rcases fragmentEvents_eq (s := schema) he f with ⟨inner, heq, hinner, _⟩
    exact ⟨inner, heq, hinner⟩
  | _ => simp [Definition.isOperation, Definition.isFragment] at hd

theorem ofDefinition_enters (he : e.Enters) (d : Definition) :
    (e.ofDefinition schema d).Enters := by
  cases d <;> exact he

theorem report_definitions (h : rule.Skips) (he : e.Enters) {ds : List Definition}
    (hds : ∀ d ∈ ds, d.isOperation ∨ d.isFragment) {last : Event} (hlast : last.leaving = true)
    (state : rule.State) :
    (⟨rule, state, none⟩ : Watch).report (ds.flatMap (definitionEvents schema e) ++ [last]) =
      rule.reactions state (ds.map (e.ofDefinition schema) ++ [last]) := by
  induction ds generalizing state with
  | nil =>
    have hstep : (⟨rule, state, none⟩ : Watch).step last =
        { next := ⟨rule, (rule.visit state last).state, none⟩
          errors := (rule.visit state last).errors, halt? := (rule.visit state last).halt? } := by
      simp [Watch.step, hlast]
    rw [List.flatMap_nil, List.map_nil, List.nil_append, Watch.report_cons, hstep]
    rfl
  | cons d ds ih =>
    rw [List.forall_mem_cons] at hds
    rcases definitionEvents_eq schema he hds.1 with ⟨inner, heq, hinner⟩
    rw [List.flatMap_cons, heq, List.append_assoc,
      Watch.report_around_of_skip (ofDefinition_enters he d) hinner
        (h.definition he hds.1 state), ih hds.2]
    rfl

theorem Skips.report_eq (h : rule.Skips) {document : Document}
    (hds : ∀ d ∈ document.definitions, d.isOperation ∨ d.isFragment) :
    rule.report (events schema document) =
      rule.reactions rule.init (documentEvent document ::
        (document.definitions.map ((documentEvent document).ofDefinition schema) ++
          [{ documentEvent document with leaving := true }])) := by
  have hstep : (Watch.ofRule rule).step (documentEvent document) =
      { next := ⟨rule, (rule.visit rule.init (documentEvent document)).state, none⟩
        errors := (rule.visit rule.init (documentEvent document)).errors
        halt? := (rule.visit rule.init (documentEvent document)).halt? } := by
    have hskip := h.document rule.init (documentEvent document) document rfl
    unfold Watch.step Watch.ofRule
    dsimp only
    rw [hskip]
    rfl
  have hdocument : (documentEvent document).Enters := rfl
  have hevents : events schema document = documentEvent document ::
      (document.definitions.flatMap (definitionEvents schema (documentEvent document)) ++
        [{ documentEvent document with leaving := true }]) := rfl
  rw [report, hevents, Watch.report_cons, hstep]
  dsimp only
  rw [report_definitions h hdocument hds rfl]
  rfl

end Rule

namespace Rules

theorem skips_uniqueOperationNames : uniqueOperationNames.Skips where
  operation := by
    intro state e o he hnode
    left
    simp only [uniqueOperationNames, Rule.ofState]
    rw [show e.leaving = false from he, hnode]
    dsimp only
    cases o.name? <;> rfl
  fragment := by
    intro state e f he hnode
    left
    simp only [uniqueOperationNames, Rule.ofState]
    rw [show e.leaving = false from he, hnode]
  document := by
    intro state e d hnode
    simp only [uniqueOperationNames, Rule.ofState]
    rw [hnode]
    cases e.leaving <;> rfl

theorem skips_uniqueFragmentNames : uniqueFragmentNames.Skips where
  operation := by
    intro state e o he hnode
    left
    simp only [uniqueFragmentNames, Rule.ofState]
    rw [show e.leaving = false from he, hnode]
  fragment := by
    intro state e f he hnode
    left
    simp only [uniqueFragmentNames, Rule.ofState]
    rw [show e.leaving = false from he, hnode]
  document := by
    intro state e d hnode
    simp only [uniqueFragmentNames, Rule.ofState]
    rw [hnode]
    cases e.leaving <;> rfl

variable {s : Subject}

theorem skips_noUnusedFragments : (noUnusedFragments s).Skips where
  operation := by
    intro state e o he hnode
    left
    simp only [noUnusedFragments, Rule.ofState]
    rw [show e.leaving = false from he, hnode]
  fragment := by
    intro state e f he hnode
    left
    simp only [noUnusedFragments, Rule.ofState]
    rw [show e.leaving = false from he, hnode]
  document := by
    intro state e d hnode
    simp only [noUnusedFragments, Rule.ofState]
    rw [hnode]
    cases e.leaving <;> rfl

theorem skips_noFragmentCycles : (noFragmentCycles s).Skips where
  operation := by
    intro state e o he hnode
    left
    simp only [noFragmentCycles]
    rw [show e.leaving = false from he, hnode]
  fragment := by
    intro state e f he hnode
    simp only [noFragmentCycles]
    rw [show e.leaving = false from he, hnode]
    dsimp only
    cases searchFragment s s.nesting [] { visited := state } f with
    | ok search => exact .inl rfl
    | error halt => exact .inr rfl
  document := by
    intro state e d hnode
    simp only [noFragmentCycles]
    rw [hnode]
    cases e.leaving <;> rfl

end Rules

namespace Rule

variable {rule : Rule} {state : rule.State}

theorem reactions_of_visit {state' : rule.State} {e : Event} {errors : List Graphql.Error}
    {skip : Bool} (h : rule.visit state e = { state := state', errors, skip }) (es : List Event) :
    rule.reactions state (e :: es) = (rule.reactions state' es).behind errors := by
  rw [reactions, h]

theorem reactions_of_halt {e : Event} {halt : Halt} {errors : List Graphql.Error} {skip : Bool}
    (h : rule.visit state e = { state, errors, skip, halt? := some halt }) (es : List Event) :
    rule.reactions state (e :: es) = ⟨errors, some halt⟩ := by
  rw [reactions, h]

theorem reactions_of_quiet {es : List Event}
    (hquiet : ∀ e ∈ es, rule.visit state e = { state, skip := (rule.visit state e).skip })
    (rest : List Event) : rule.reactions state (es ++ rest) = rule.reactions state rest := by
  induction es with
  | nil => rfl
  | cons e es ih =>
    rw [List.forall_mem_cons] at hquiet
    rw [List.cons_append, reactions_of_visit hquiet.1]
    exact ih hquiet.2

theorem reactions_cons_of_quiet {e : Event}
    (hquiet : rule.visit state e = { state, skip := (rule.visit state e).skip })
    (rest : List Event) : rule.reactions state (e :: rest) = rule.reactions state rest :=
  (reactions_of_visit hquiet rest).trans (Report.behind_nil _)

end Rule

namespace Rules

open Rule

variable {schema : Schema} {fs : List FragmentDefinition} {o : OperationDefinition}

theorem operations_ofOperation : (Document.ofOperation fs o).operations = [o] := by
  unfold Document.ofOperation Document.operations
  rw [List.filterMap_append, List.filterMap_map]
  simp

theorem report_ofOperation {rule : Rule} (h : rule.Skips) :
    rule.report (events schema (.ofOperation fs o)) =
      rule.reactions rule.init (documentEvent (.ofOperation fs o) ::
        (fs.map (fun f => (documentEvent (.ofOperation fs o)).ofDefinition schema (.fragment f)) ++
          [(documentEvent (.ofOperation fs o)).ofDefinition schema (.operation o),
            { documentEvent (.ofOperation fs o) with leaving := true }])) := by
  have hds : ∀ d ∈ (Document.ofOperation fs o).definitions, d.isOperation ∨ d.isFragment := by
    unfold Document.ofOperation
    rw [List.forall_mem_append, List.forall_mem_map, List.forall_mem_singleton]
    exact ⟨fun _ _ => .inr rfl, .inl rfl⟩
  rw [h.report_eq hds]
  generalize documentEvent (.ofOperation fs o) = e
  unfold Document.ofOperation
  rw [List.map_append, List.map_map, List.append_assoc]
  rfl

theorem report_uniqueOperationNames :
    uniqueOperationNames.report (events schema (.ofOperation fs o)) = {} := by
  rw [report_ofOperation skips_uniqueOperationNames, reactions_cons_of_quiet rfl,
    reactions_of_quiet]
  . cases hname : o.name? with
    | none =>
      simp [reactions, uniqueOperationNames, ofState, Event.ofDefinition, Event.inside,
        documentEvent, hname]
    | some name =>
      simp [reactions, uniqueOperationNames, ofState, Event.ofDefinition, Event.inside,
        documentEvent, hname, noteName]
  . rw [List.forall_mem_map]
    exact fun _ _ => rfl

theorem report_loneAnonymousOperation {s : Subject} {es : List Event}
    (h : s.document.operations.length ≤ 1) : (loneAnonymousOperation s).report es = {} := by
  unfold loneAnonymousOperation
  rw [report_ofEntered]
  congr 1
  rw [List.flatMap_eq_nil_iff]
  intro e _
  split
  . rfl
  . split
    . have : ¬ 1 < s.document.operations.length := by omega
      simp [this]
    . rfl

theorem noteName_of_new {message : String → String} {seen : List (String × Option Loc)}
    {name : Name} (h : name.value ∉ seen.map (·.1)) :
    noteName message seen name = (seen ++ [(name.value, name.loc?)], []) := by
  unfold noteName
  rw [Walk.lookup_eq_none_of_not_mem h]

theorem reactions_uniqueFragmentNames {e : Event} (he : e.Enters)
    (seen : List (String × Option Loc)) (hnodup : (fs.map (·.name.value)).Nodup)
    (hnew : ∀ f ∈ fs, f.name.value ∉ seen.map (·.1)) {rest : List Event}
    (hrest : ∀ seen, uniqueFragmentNames.reactions seen rest = {}) :
    uniqueFragmentNames.reactions seen
      (fs.map (fun f => e.ofDefinition schema (.fragment f)) ++ rest) = {} := by
  induction fs generalizing seen with
  | nil => exact hrest seen
  | cons f fs ih =>
    rw [List.map_cons, List.nodup_cons] at hnodup
    rw [List.forall_mem_cons] at hnew
    have hvisit : uniqueFragmentNames.visit seen (e.ofDefinition schema (.fragment f)) =
        { state := seen ++ [(f.name.value, f.name.loc?)], skip := true } := by
      simp only [uniqueFragmentNames, ofState, Event.ofDefinition, Event.inside]
      rw [show e.leaving = false from he]
      dsimp only
      rw [noteName_of_new hnew.1]
    refine (reactions_of_visit hvisit _).trans ?_
    apply ih _ hnodup.2
    intro g hg
    rw [List.map_append, List.map_singleton, List.mem_append, List.mem_singleton, not_or]
    refine ⟨hnew.2 g hg, fun hname => hnodup.1 ?_⟩
    dsimp only at hname
    rw [← hname]
    exact List.mem_map_of_mem hg

theorem report_uniqueFragmentNames (hnodup : (fs.map (·.name.value)).Nodup) :
    uniqueFragmentNames.report (events schema (.ofOperation fs o)) = {} := by
  rw [report_ofOperation skips_uniqueFragmentNames, reactions_cons_of_quiet rfl]
  have he : (documentEvent (.ofOperation fs o)).Enters := rfl
  refine reactions_uniqueFragmentNames he [] hnodup (by simp) fun seen => ?_
  rw [reactions_cons_of_quiet rfl, reactions_cons_of_quiet rfl]
  rfl

variable {s : Subject}

theorem filterMap_spread?_events :
    (events schema (.ofOperation fs o)).filterMap Event.spread? =
      fs.flatMap (·.selectionSet.allSpreads) ++ o.selectionSet.allSpreads := by
  have hplain : (documentEvent (.ofOperation fs o)).node.Plain := by
    simp [documentEvent, Node.Plain]
  have hevents : events schema (.ofOperation fs o) =
      (documentEvent (.ofOperation fs o)).around ((Document.ofOperation fs o).definitions.flatMap
        (definitionEvents schema (documentEvent (.ofOperation fs o)))) := rfl
  rw [hevents, filterMap_spread?_around, Event.spread?_of_plain hplain, Option.toList_none,
    List.nil_append]
  generalize hdocument : documentEvent (.ofOperation fs o) = e
  have he : e.Enters := by
    rw [← hdocument]
    rfl
  rcases operationEvents_eq (s := schema) he o with ⟨inner, heq, hinner⟩
  unfold Document.ofOperation
  rw [List.flatMap_append, List.filterMap_append, List.flatMap_singleton, List.flatMap_map]
  congr 1
  . rw [List.filterMap_flatMap]
    congr 1
    funext f
    rcases fragmentEvents_eq (s := schema) he f with ⟨inner, heq, hinner⟩
    change (fragmentEvents schema e f).filterMap Event.spread? = _
    rw [heq, filterMap_spread?_around, hinner.2, Event.spread?_of_plain]
    . rfl
    . simp [Node.Plain, Event.inside]
  . change (operationEvents schema e o).filterMap Event.spread? = _
    rw [heq, filterMap_spread?_around, hinner.2, Event.spread?_of_plain]
    . rfl
    . simp [Node.Plain, Event.inside]

theorem report_knownFragmentNames_eq (es : List Event) :
    (knownFragmentNames s).report es =
      { errors := (es.filterMap Event.spread?).flatMap fun f =>
          if (s.fragment? f.name.value).isSome then []
          else [errorAt f.name.loc? ("Unknown fragment " ++ quoteName f.name.value ++ ".")] } := by
  unfold knownFragmentNames
  rw [report_ofEntered]
  congr 1
  induction es with
  | nil => rfl
  | cons e es ih =>
    rw [List.flatMap_cons, ih, filterMap_cons_toList, List.flatMap_append]
    congr 1
    unfold Event.spread?
    cases hleaving : e.leaving with
    | true => rfl
    | false => cases e.node <;> simp

theorem spreadNames_ofOperation :
    (Document.ofOperation fs o).spreadNames =
      (fs.flatMap (·.selectionSet.allSpreads) ++ o.selectionSet.allSpreads).map
        (·.name.value) := by
  unfold Document.ofOperation Document.spreadNames
  rw [List.flatMap_append, List.flatMap_map, List.flatMap_singleton, List.map_append,
    List.map_flatMap]
  rfl

theorem report_knownFragmentNames (hspreads : ∀ n ∈ (Document.ofOperation fs o).spreadNames,
      (s.fragment? n).isSome) :
    (knownFragmentNames s).report (events schema (.ofOperation fs o)) = {} := by
  rw [report_knownFragmentNames_eq, filterMap_spread?_events]
  congr 1
  rw [List.flatMap_eq_nil_iff]
  intro f hf
  rw [if_pos]
  apply hspreads
  rw [spreadNames_ofOperation]
  exact List.mem_map_of_mem hf

theorem report_knownFragmentNames_of_unknown {n : String}
    (hn : n ∈ (Document.ofOperation fs o).spreadNames) (hnone : s.fragment? n = none) :
    ((knownFragmentNames s).report (events schema (.ofOperation fs o))).errors ≠ [] := by
  rw [report_knownFragmentNames_eq, filterMap_spread?_events]
  rw [spreadNames_ofOperation] at hn
  rcases List.mem_map.mp hn with ⟨f, hf, rfl⟩
  intro hnil
  rw [List.flatMap_eq_nil_iff] at hnil
  simpa [hnone] using hnil f hf

theorem report_noUnusedFragments (hused : ∀ f ∈ fs, f ∈ s.fragmentsOf o) :
    (noUnusedFragments s).report (events schema (.ofOperation fs o)) = {} := by
  rw [report_ofOperation skips_noUnusedFragments, reactions_cons_of_quiet rfl, reactions_of_quiet]
  . rw [reactions_cons_of_quiet rfl]
    have hunused : fs.filter (fun f => !((s.fragmentsOf o).map (·.name.value)).contains
        f.name.value) = [] := by
      rw [List.filter_eq_nil_iff]
      intro f hf
      have hmem : f.name.value ∈ (s.fragmentsOf o).map (·.name.value) :=
        List.mem_map_of_mem (hused f hf)
      simp [hmem]
    have hvisit (types : TypeContext) (parent? : Option Node) (inSystem : Bool) :
        (noUnusedFragments s).visit ()
          ⟨.document (.ofOperation fs o), true, parent?, inSystem, types⟩ = { state := () } := by
      simp only [noUnusedFragments, ofState]
      rw [operations_ofOperation, Document.fragments_ofOperation, List.flatMap_singleton, hunused]
      rfl
    exact reactions_of_visit (hvisit _ _ _) []
  . rw [List.forall_mem_map]
    exact fun _ _ => rfl

structure Searched (s : Subject) (visited : List String) (fs : List FragmentDefinition)
    (r : Report) : Prop where
  cycle : r.errors ≠ [] → ∃ n, s.spreadGraph.OnCycle n
  ending : r.errors = [] → r.halt? = none → Orderly s [] visited →
    ∀ f ∈ fs, Ending s f.name.value
  halt : r.halt? = none ∨
    r.halt? = some .tooDeep ∧ s.nesting < s.document.fragments.length

theorem Searched.of_eq {visited : List String} {r r' : Report} (heq : r = r')
    (h : Searched s visited fs r') : Searched s visited fs r :=
  heq ▸ h

theorem visit_fragment {e : Event} (he : e.Enters) (visited : List String)
    (f : FragmentDefinition) :
    (noFragmentCycles s).visit visited (e.ofDefinition schema (.fragment f)) =
      match searchFragment s s.nesting [] { visited } f with
      | .ok search => { state := search.visited, errors := search.errors, skip := true }
      | .error halt => { state := visited, halt? := some halt } := by
  simp only [noFragmentCycles, Event.ofDefinition, Event.inside]
  rewrite [show e.leaving = false from he]
  rfl

theorem searched_reactions {e : Event} (he : e.Enters) {rest : List Event}
    (hrest : ∀ visited, (noFragmentCycles s).reactions visited rest = {})
    (hfs : ∀ f ∈ fs, s.fragment? f.name.value = some f) (visited : List String) :
    Searched s visited fs ((noFragmentCycles s).reactions visited
      (fs.map (fun f => e.ofDefinition schema (.fragment f)) ++ rest)) := by
  induction fs generalizing visited with
  | nil =>
    exact .of_eq (hrest visited) ⟨by simp, by simp, .inl rfl⟩
  | cons f fs ih =>
    rw [List.forall_mem_cons] at hfs
    have hdistinct :
        Distinct s (f.name.value :: ([] : List (String × FragmentSpread)).map (·.1)) := by
      rw [List.map_nil]
      refine ⟨List.nodup_singleton _, ?_⟩
      rw [List.forall_mem_singleton, ← Subject.isSome_fragment?_iff, hfs.1]
      rfl
    have hvisit : (noFragmentCycles s).visit visited (e.ofDefinition schema (.fragment f)) = _ :=
      visit_fragment he visited f
    cases hsearch : searchFragment s s.nesting [] { visited } f with
    | error halt =>
      have hlong : s.nesting < s.document.fragments.length := by
        by_contra hle
        rcases exists_searchFragment hdistinct (by simpa using hle) { visited } with
          ⟨search, hok⟩
        rw [hsearch] at hok
        cases hok
      rw [hsearch] at hvisit
      refine .of_eq (reactions_of_halt hvisit _) ?_
      rw [searchFragment_error hsearch]
      exact ⟨by simp, by simp, .inr ⟨rfl, hlong⟩⟩
    | ok search =>
      rw [hsearch] at hvisit
      rcases fragmentSearched s s.nesting [] { visited } search f hfs.1 (by simp [Leading])
        (by simp) hsearch with ⟨hadvances, hmem⟩
      rcases ih hfs.2 search.visited with ⟨hcycle, hending, hhalt⟩
      refine .of_eq (reactions_of_visit hvisit _) ⟨?_, ?_, hhalt⟩
      . intro herrors
        by_cases hfirst : search.errors = []
        . apply hcycle
          simpa [Report.behind, hfirst] using herrors
        . exact hadvances.cycle hfirst
      . intro herrors hnone horderly
        simp only [Report.behind, List.append_eq_nil_iff] at herrors
        have hvisited := hadvances.orderly herrors.1 horderly
        rw [List.forall_mem_cons]
        exact ⟨(hvisited _ hmem).resolve_left (by simp), hending herrors.2 hnone hvisited⟩

theorem searched_noFragmentCycles (schema : Schema) (hdocument : s.document = .ofOperation fs o)
    (hnodup : (fs.map (·.name.value)).Nodup) :
    Searched s [] fs ((noFragmentCycles s).report (events schema (.ofOperation fs o))) := by
  have he : (documentEvent (.ofOperation fs o)).Enters := rfl
  rw [report_ofOperation skips_noFragmentCycles, reactions_cons_of_quiet rfl]
  apply searched_reactions he
  . intro visited
    rw [reactions_cons_of_quiet rfl, reactions_cons_of_quiet rfl]
    rfl
  . intro f hf
    apply Subject.fragment?_of_nodup
    . rw [hdocument, Document.fragments_ofOperation]
      exact hnodup
    . rw [hdocument, Document.fragments_ofOperation]
      exact hf

theorem report_noFragmentCycles_of_error (schema : Schema) {f : FragmentDefinition} {halt : Halt}
    (h : searchFragment s s.nesting [] {} f = .error halt) :
    (noFragmentCycles s).report (events schema (.ofOperation (f :: fs) o)) =
      { halt? := some halt } := by
  have hvisit : (noFragmentCycles s).visit []
      ((documentEvent (.ofOperation (f :: fs) o)).ofDefinition schema (.fragment f)) =
        { state := [], halt? := some halt } := by
    simp only [noFragmentCycles, Event.ofDefinition, Event.inside, documentEvent]
    rw [h]
  rw [report_ofOperation skips_noFragmentCycles, reactions_cons_of_quiet rfl]
  exact reactions_of_halt hvisit _

end Rules

end QueryLinker.Validation
