import QueryLinker.Proofs.Except
import QueryLinker.Proofs.Graphql.Spread
import QueryLinker.Validation.Traversal
import QueryLinker.Validation.Validate

/-!
This module contains the shape of traversals: every node that is entered is left again behind
everything inside it, and the spreads that are entered are those of the syntax tree, in its order.
It also contains what each rule reports on its own: rules that watch side by side report nothing
else, except that they may break off earlier.
-/

namespace QueryLinker.Validation

open Graphql

def Event.Enters (e : Event) : Prop :=
  e.leaving = false

theorem Event.Enters.inside {e : Event} (h : e.Enters) (node : Node) (types : TypeContext) :
    (e.inside node types).Enters := h

inductive Nested (P : Node → Prop) : List Event → Prop where
  | nil : Nested P []
  | around {e : Event} {inner rest : List Event} (hentered : e.Enters)
      (hnode : P e.node) (hinner : Nested P inner) (hrest : Nested P rest) :
      Nested P (e.around inner ++ rest)

namespace Nested

variable {P Q : Node → Prop} {es es' : List Event} {e : Event}

theorem append (h : Nested P es) (h' : Nested P es') : Nested P (es ++ es') := by
  induction h with
  | nil => exact h'
  | around hentered hnode hinner _ _ ih =>
    rw [List.append_assoc]
    exact .around hentered hnode hinner ih

theorem single (hentered : e.Enters) (hnode : P e.node) (h : Nested P es) :
    Nested P (e.around es) := by
  rw [← List.append_nil (e.around es)]
  exact .around hentered hnode h .nil

theorem flatMap {α : Type} {f : α → List Event} {as : List α} (h : ∀ a ∈ as, Nested P (f a)) :
    Nested P (as.flatMap f) := by
  induction as with
  | nil => exact .nil
  | cons a as ih =>
    rw [List.forall_mem_cons] at h
    exact h.1.append (ih h.2)

theorem mono (h : Nested P es) (hPQ : ∀ n, P n → Q n) : Nested Q es := by
  induction h with
  | nil => exact .nil
  | around hentered hnode _ _ ihinner ihrest =>
    exact .around hentered (hPQ _ hnode) ihinner ihrest

end Nested

def Event.spread? (e : Event) : Option FragmentSpread :=
  match e.leaving, e.node with
  | false, .spread f => some f
  | _, _ => none

def Node.Plain (n : Node) : Prop :=
  ∀ f, n ≠ .spread f

theorem Event.spread?_of_plain {e : Event} (h : e.node.Plain) : e.spread? = none := by
  unfold Event.spread?
  split
  next hnode => exact absurd hnode (h _)
  next => rfl

theorem filterMap_spread?_around (e : Event) (inner : List Event) :
    (e.around inner).filterMap Event.spread? =
      e.spread?.toList ++ inner.filterMap Event.spread? := by
  have hleft : Event.spread? { e with leaving := true } = none := rfl
  unfold Event.around
  rw [List.filterMap_cons, List.filterMap_append, List.filterMap_cons, hleft]
  cases e.spread? <;> simp

theorem Nested.filterMap_spread? {es : List Event} (h : Nested Node.Plain es) :
    es.filterMap Event.spread? = [] := by
  induction h with
  | nil => rfl
  | around _ hnode _ _ ihinner ihrest =>
    rw [List.filterMap_append, filterMap_spread?_around, Event.spread?_of_plain hnode, ihinner,
      ihrest]
    rfl

abbrev PlainEvents := Nested Node.Plain

abbrev WholeEvents := Nested fun _ => True

theorem Nested.whole {P : Node → Prop} {es : List Event} (h : Nested P es) : WholeEvents es :=
  h.mono fun _ _ => trivial

variable {s : Schema} {e : Event}

mutual

theorem plain_valueEvents {e : Event} (he : e.Enters) (v : Value) :
    PlainEvents (valueEvents s e v) := by
  cases v with
  | list items loc? =>
    simp only [valueEvents]
    exact .single he (by simp [Node.Plain, Event.inside]) (plain_itemEvents (he.inside _ _) items)
  | object fields loc? =>
    simp only [valueEvents]
    exact .single he (by simp [Node.Plain, Event.inside])
      (plain_objectFieldsEvents (he.inside _ _) fields)
  | _ =>
    simp only [valueEvents]
    exact .single he (by simp [Node.Plain, Event.inside]) .nil
termination_by structural v

theorem plain_itemEvents {e : Event} (he : e.Enters) (vs : List Value) :
    PlainEvents (itemEvents s e vs) := by
  cases vs with
  | nil =>
    simp only [itemEvents]
    exact .nil
  | cons v vs =>
    simp only [itemEvents]
    exact (plain_valueEvents he v).append (plain_itemEvents he vs)
termination_by structural vs

theorem plain_objectFieldsEvents {e : Event} (he : e.Enters) (fs : List ObjectField) :
    PlainEvents (objectFieldsEvents s e fs) := by
  cases fs with
  | nil =>
    simp only [objectFieldsEvents]
    exact .nil
  | cons f fs =>
    simp only [objectFieldsEvents]
    exact (plain_objectFieldEvents he f).append (plain_objectFieldsEvents he fs)
termination_by structural fs

theorem plain_objectFieldEvents {e : Event} (he : e.Enters) (f : ObjectField) :
    PlainEvents (objectFieldEvents s e f) := by
  cases f with
  | mk name v loc? =>
    simp only [objectFieldEvents]
    exact .single he (by simp [Node.Plain, Event.inside]) (plain_valueEvents (he.inside _ _) v)
termination_by structural f

end

theorem plain_argumentEvents (he : e.Enters) (a : Argument) :
    PlainEvents (argumentEvents s e a) :=
  .single he (by simp [Node.Plain, Event.inside]) (plain_valueEvents (he.inside _ _) _)

theorem plain_directiveEvents (he : e.Enters) (d : Directive) :
    PlainEvents (directiveEvents s e d) :=
  .single he (by simp [Node.Plain, Event.inside])
    (.flatMap fun a _ => plain_argumentEvents (he.inside _ _) a)

theorem plain_directivesEvents (he : e.Enters) (ds : List Directive) :
    PlainEvents (directivesEvents s e ds) :=
  .flatMap fun d _ => plain_directiveEvents he d

theorem plain_namedTypeEvents (he : e.Enters) (t : NamedType) :
    PlainEvents (namedTypeEvents e t) :=
  .single he (by simp [Node.Plain, Event.inside]) .nil

theorem plain_typeRefEvents (he : e.Enters) (t : TypeRef) :
    PlainEvents (typeRefEvents e t) := by
  induction t with
  | named t => exact plain_namedTypeEvents he t
  | list _ _ ih => exact ih
  | nonNull _ _ ih => exact ih

theorem plain_variableDefinitionEvents (he : e.Enters) (d : VariableDefinition) :
    PlainEvents (variableDefinitionEvents s e d) :=
  .single he (by simp [Node.Plain, Event.inside])
    (((plain_typeRefEvents (he.inside _ _) _).append
      (.flatMap fun v _ => plain_valueEvents (he.inside _ _) v)).append
      (plain_directivesEvents (he.inside _ _) _))

def Spreading (es : List Event) (fs : List FragmentSpread) : Prop :=
  WholeEvents es ∧ es.filterMap Event.spread? = fs

namespace Spreading

variable {es es' : List Event} {fs fs' : List FragmentSpread}

theorem of_plain (h : PlainEvents es) : Spreading es [] :=
  ⟨h.whole, h.filterMap_spread?⟩

theorem append (h : Spreading es fs) (h' : Spreading es' fs') :
    Spreading (es ++ es') (fs ++ fs') := by
  refine ⟨h.1.append h'.1, ?_⟩
  rw [List.filterMap_append, h.2, h'.2]

theorem behind_plain (h : PlainEvents es) (h' : Spreading es' fs) : Spreading (es ++ es') fs :=
  (of_plain h).append h'

theorem around (he : e.Enters) (h : Spreading es fs) :
    Spreading (e.around es) (e.spread?.toList ++ fs) := by
  refine ⟨.single he trivial h.1, ?_⟩
  rw [filterMap_spread?_around, h.2]

theorem around_plain (he : e.Enters) (hnode : e.node.Plain) (h : Spreading es fs) :
    Spreading (e.around es) fs := by
  have := h.around he
  rw [Event.spread?_of_plain hnode] at this
  exact this

end Spreading

mutual

theorem spreading_selectionEvents {e : Event} (he : e.Enters) (x : Selection) :
    Spreading (selectionEvents s e x) x.allSpreads := by
  cases x with
  | field head set =>
    simp only [selectionEvents, Selection.allSpreads]
    refine .around_plain he (by simp [Node.Plain, Event.inside]) ?_
    refine .behind_plain ?_ (spreading_selectionSetEvents (he.inside _ _) set)
    exact .append (.flatMap fun a _ => plain_argumentEvents (he.inside _ _) a)
      (plain_directivesEvents (he.inside _ _) _)
  | spread f =>
    simp only [selectionEvents, Selection.allSpreads]
    have hspread : (e.inside (.spread f) e.types).spread? = some f := by
      unfold Event.spread? Event.inside
      rw [he]
    have hinner := Spreading.of_plain (plain_directivesEvents (s := s)
      (he.inside (.spread f) e.types) f.directives)
    have := hinner.around (he.inside (.spread f) e.types)
    rw [hspread] at this
    exact this
  | inline head set =>
    simp only [selectionEvents, Selection.allSpreads]
    refine .around_plain he (by simp [Node.Plain, Event.inside]) ?_
    refine .behind_plain ?_ (spreading_selectionSetEvents (he.inside _ _) set)
    exact .append (.flatMap fun t _ => plain_namedTypeEvents (he.inside _ _) t)
      (plain_directivesEvents (he.inside _ _) _)
termination_by structural x

theorem spreading_selectionsEvents {e : Event} (he : e.Enters) (xs : List Selection) :
    Spreading (selectionsEvents s e xs) (allSpreadsIn xs) := by
  cases xs with
  | nil =>
    simp only [selectionsEvents, allSpreadsIn]
    exact .of_plain .nil
  | cons x xs =>
    simp only [selectionsEvents, allSpreadsIn]
    exact (spreading_selectionEvents he x).append (spreading_selectionsEvents he xs)
termination_by structural xs

theorem spreading_selectionSetEvents {e : Event} (he : e.Enters) (set : SelectionSet) :
    Spreading (selectionSetEvents s e set) set.allSpreads := by
  cases set with
  | absent =>
    simp only [selectionSetEvents, SelectionSet.allSpreads]
    exact .of_plain .nil
  | braces selections loc? =>
    simp only [selectionSetEvents, SelectionSet.allSpreads]
    refine .around_plain he (by simp [Node.Plain, Event.inside]) ?_
    exact spreading_selectionsEvents (he.inside _ _) selections
termination_by structural set

end

theorem operationEvents_eq (he : e.Enters) (o : OperationDefinition) :
    ∃ inner, operationEvents s e o =
        (e.inside (.operation o) (e.types.enterOperation s o)).around inner ∧
      Spreading inner o.selectionSet.allSpreads := by
  refine ⟨_, rfl, .behind_plain ?_ (spreading_selectionSetEvents (he.inside _ _) _)⟩
  exact .append (.flatMap fun d _ => plain_variableDefinitionEvents (he.inside _ _) d)
    (plain_directivesEvents (he.inside _ _) _)

theorem fragmentEvents_eq (he : e.Enters) (f : FragmentDefinition) :
    ∃ inner, fragmentEvents s e f =
        (e.inside (.fragment f) (e.types.enterFragment s (some f.typeCondition))).around inner ∧
      Spreading inner f.selectionSet.allSpreads := by
  refine ⟨_, rfl, .behind_plain ?_ (spreading_selectionSetEvents (he.inside _ _) _)⟩
  exact .append (plain_namedTypeEvents (he.inside _ _) _) (plain_directivesEvents (he.inside _ _) _)

structure Report where
  errors : List Graphql.Error := []
  halt? : Option Halt := none

namespace Report

def behind (r : Report) (errors : List Graphql.Error) : Report :=
  { r with errors := errors ++ r.errors }

@[simp]
theorem behind_nil (r : Report) : r.behind [] = r := rfl

theorem behind_eq_empty {r : Report} {errors : List Graphql.Error} (h : r.behind errors = {}) :
    errors = [] ∧ r = {} := by
  have hnil : errors ++ r.errors = [] := congrArg Report.errors h
  rcases List.append_eq_nil_iff.mp hnil with ⟨rfl, _⟩
  exact ⟨rfl, h⟩

end Report

namespace Watch

def report (w : Watch) : List Event → Report
  | [] => {}
  | e :: es =>
    let s := w.step e
    match s.halt? with
    | some halt => ⟨s.errors, some halt⟩
    | none => (s.next.report es).behind s.errors

variable {w : Watch} {ws : List Watch} {e : Event} {es : List Event} {x : Graphql.Error}

theorem report_cons (w : Watch) (e : Event) (es : List Event) :
    w.report (e :: es) =
      match (w.step e).halt? with
      | some halt => ⟨(w.step e).errors, some halt⟩
      | none => ((w.step e).next.report es).behind (w.step e).errors := rfl

theorem mem_report_of_step (h : x ∈ (w.step e).errors) : x ∈ (w.report (e :: es)).errors := by
  rw [report_cons]
  split
  . exact h
  . exact List.mem_append_left _ h

theorem mem_report_of_next (hhalt : (w.step e).halt? = none)
    (h : x ∈ ((w.step e).next.report es).errors) : x ∈ (w.report (e :: es)).errors := by
  rw [report_cons, hhalt]
  exact List.mem_append_right _ h

theorem exists_of_mem_stepAll (h : x ∈ (stepAll e ws).errors) :
    ∃ w ∈ ws, x ∈ (w.step e).errors := by
  induction ws with
  | nil => cases h
  | cons w ws ih =>
    unfold stepAll at h
    dsimp only at h
    split at h
    . exact ⟨w, by simp, h⟩
    . rcases List.mem_append.mp h with h | h
      . exact ⟨w, by simp, h⟩
      . rcases ih h with ⟨w', hw', hx⟩
        exact ⟨w', List.mem_cons_of_mem _ hw', hx⟩

theorem stepAll_of_no_halt (h : (stepAll e ws).halt? = none) :
    (stepAll e ws).next = ws.map (fun w => (w.step e).next) ∧
      (stepAll e ws).errors = ws.flatMap (fun w => (w.step e).errors) ∧
      ∀ w ∈ ws, (w.step e).halt? = none := by
  induction ws with
  | nil => exact ⟨rfl, rfl, by simp⟩
  | cons w ws ih =>
    unfold stepAll at h ⊢
    dsimp only at h ⊢
    cases hhalt : (w.step e).halt? with
    | some halt =>
      rw [hhalt] at h
      cases h
    | none =>
      rw [hhalt] at h
      rcases ih h with ⟨hnext, herrors, hnone⟩
      refine ⟨by rw [List.map_cons, ← hnext], by rw [List.flatMap_cons, ← herrors], ?_⟩
      rw [List.forall_mem_cons]
      exact ⟨hhalt, hnone⟩

theorem exists_of_mem_run {limit : Nat} {found errors : List Graphql.Error}
    (h : run limit found ws es = .ok errors) (hx : x ∈ errors) :
    x ∈ found ∨ ∃ w ∈ ws, x ∈ (w.report es).errors := by
  induction es generalizing found ws with
  | nil =>
    cases h
    exact .inl (List.mem_reverse.mp hx)
  | cons e es ih =>
    have hfound (hmem : x ∈ (stepAll e ws).errors.reverse ++ found) :
        x ∈ found ∨ ∃ w ∈ ws, x ∈ (w.report (e :: es)).errors := by
      rcases List.mem_append.mp hmem with hmem | hmem
      . rcases exists_of_mem_stepAll (List.mem_reverse.mp hmem) with ⟨w, hw, hstep⟩
        exact .inr ⟨w, hw, mem_report_of_step hstep⟩
      . exact .inl hmem
    unfold run at h
    dsimp only at h
    split at h
    . cases h
      exact hfound (List.mem_reverse.mp hx)
    . split at h
      . cases h
      next hhalt =>
        rcases stepAll_of_no_halt hhalt with ⟨hnext, _, hnone⟩
        rcases ih h with hmem | ⟨w', hw', hreport⟩
        . exact hfound hmem
        . rw [hnext] at hw'
          rcases List.mem_map.mp hw' with ⟨w, hw, rfl⟩
          exact .inr ⟨w, hw, mem_report_of_next (hnone w hw) hreport⟩

theorem found_of_run {limit : Nat} {found errors : List Graphql.Error}
    (h : run limit found ws es = .ok errors) : ∀ x ∈ found, x ∈ errors := by
  induction es generalizing found ws with
  | nil =>
    cases h
    intro x hx
    exact List.mem_reverse.mpr hx
  | cons e es ih =>
    intro x hx
    have hmem : x ∈ (stepAll e ws).errors.reverse ++ found := List.mem_append_right _ hx
    unfold run at h
    dsimp only at h
    split at h
    . cases h
      exact List.mem_reverse.mpr hmem
    . split at h
      . cases h
      . exact ih h x hmem

theorem report_of_run_eq_nil {limit : Nat} {found : List Graphql.Error}
    (h : run limit found ws es = .ok []) : ∀ w ∈ ws, w.report es = {} := by
  induction es generalizing found ws with
  | nil =>
    intro w _
    rfl
  | cons e es ih =>
    have hfound := found_of_run h
    unfold run at h
    dsimp only at h
    split at h
    next hlimit =>
      injection h with h
      rw [List.reverse_eq_nil_iff.mp h] at hlimit
      cases hlimit
    . split at h
      . cases h
      next hhalt =>
        rcases stepAll_of_no_halt hhalt with ⟨hnext, herrors, hnone⟩
        have hlater := ih h
        rw [hnext, List.forall_mem_map] at hlater
        intro w hw
        have hempty : (w.step e).errors = [] := by
          rw [List.eq_nil_iff_forall_not_mem]
          intro x hx
          have hmem : x ∈ (stepAll e ws).errors := by
            rw [herrors]
            exact List.mem_flatMap.mpr ⟨w, hw, hx⟩
          cases found_of_run h x (List.mem_append_left _ (List.mem_reverse.mpr hmem))
        rw [report_cons, hnone w hw]
        dsimp only
        rw [hempty, hlater w hw]
        rfl

theorem stepAll_of_quiet (h : ∀ w ∈ ws, (w.step e).halt? = none ∧ (w.step e).errors = []) :
    stepAll e ws = { next := ws.map fun w => (w.step e).next } := by
  induction ws with
  | nil => rfl
  | cons w ws ih =>
    rw [List.forall_mem_cons] at h
    unfold stepAll
    dsimp only
    rw [h.1.1, ih h.2, h.1.2]
    rfl

theorem run_of_report (limit : Nat) (h : ∀ w ∈ ws, w.report es = {}) :
    run limit [] ws es = .ok [] := by
  induction es generalizing ws with
  | nil => rfl
  | cons e es ih =>
    have hfirst : ∀ w ∈ ws, (w.step e).halt? = none ∧ (w.step e).errors = [] ∧
        (w.step e).next.report es = {} := by
      intro w hw
      have hw := h w hw
      rw [report_cons] at hw
      split at hw
      . simp at hw
      next hhalt => exact ⟨hhalt, Report.behind_eq_empty hw⟩
    have hstep := stepAll_of_quiet fun w hw => ⟨(hfirst w hw).1, (hfirst w hw).2.1⟩
    unfold run
    rw [hstep]
    simp only [List.reverse_nil, List.nil_append, List.length_nil, Nat.not_lt_zero, if_false]
    apply ih
    rw [List.forall_mem_map]
    exact fun w hw => (hfirst w hw).2.2

theorem report_spared {rest : List Event} {inner : List Event} {P : Node → Prop}
    (h : Nested P inner) (rule : Rule) (state : rule.State) (depth : Nat) :
    (⟨rule, state, some depth⟩ : Watch).report (inner ++ rest) =
      (⟨rule, state, some depth⟩ : Watch).report rest := by
  induction h generalizing depth rest with
  | nil => rfl
  | @around e inner later hentered _ _ _ ihinner ihlater =>
    have henter : (⟨rule, state, some depth⟩ : Watch).step e =
        { next := ⟨rule, state, some (depth + 1)⟩ } := by
      unfold step
      rw [show e.leaving = false from hentered]
      rfl
    have hleave : (⟨rule, state, some (depth + 1)⟩ : Watch).step { e with leaving := true } =
        { next := ⟨rule, state, some depth⟩ } := by
      simp [step]
    unfold Event.around
    rw [List.cons_append, List.cons_append, report_cons, henter]
    dsimp only
    rw [List.append_assoc, List.append_assoc, ihinner, List.singleton_append, report_cons, hleave]
    dsimp only
    rw [ihlater]
    rfl

theorem report_around_of_skip {inner rest : List Event} {P : Node → Prop} {rule : Rule}
    {state : rule.State} (he : e.Enters) (h : Nested P inner)
    (hskip : (rule.visit state e).skip = true ∨ (rule.visit state e).halt?.isSome) :
    (⟨rule, state, none⟩ : Watch).report (e.around inner ++ rest) =
      match (rule.visit state e).halt? with
      | some halt => ⟨(rule.visit state e).errors, some halt⟩
      | none => ((⟨rule, (rule.visit state e).state, none⟩ : Watch).report rest).behind
          (rule.visit state e).errors := by
  have hstep : (⟨rule, state, none⟩ : Watch).step e =
      { next := ⟨rule, (rule.visit state e).state,
          if (rule.visit state e).skip && !e.leaving then some 0 else none⟩
        errors := (rule.visit state e).errors, halt? := (rule.visit state e).halt? } := rfl
  unfold Event.around
  rw [List.cons_append, report_cons, hstep]
  dsimp only
  cases hhalt : (rule.visit state e).halt? with
  | some halt => rfl
  | none =>
    rw [hhalt] at hskip
    have hskip : (rule.visit state e).skip = true := by simpa using hskip
    have hleave : (⟨rule, (rule.visit state e).state, some 0⟩ : Watch).step
        { e with leaving := true } = { next := ⟨rule, (rule.visit state e).state, none⟩ } := by
      simp [step]
    rw [hskip, show e.leaving = false from he]
    simp only [Bool.not_false, Bool.and_true, if_true]
    rw [List.append_assoc, report_spared h, List.singleton_append, report_cons, hleave]
    rfl

end Watch

namespace Rule

def report (rule : Rule) (es : List Event) : Report :=
  (Watch.ofRule rule).report es

theorem report_ofEntered (errors : Event → List Graphql.Error) (es : List Event) :
    (ofEntered errors).report es =
      { errors := es.flatMap fun e => if e.leaving then [] else errors e } := by
  unfold report
  induction es with
  | nil => rfl
  | cons e es ih =>
    have hstep : (Watch.ofRule (ofEntered errors)).step e =
        { next := .ofRule (ofEntered errors), errors := if e.leaving then [] else errors e } := rfl
    rw [Watch.report_cons, hstep]
    dsimp only
    rw [ih, List.flatMap_cons]
    rfl

end Rule

variable {rules : List Rule} {es : List Event} {errors : List Graphql.Error} {x : Graphql.Error}

theorem exists_of_mem_validate (h : validate rules es = .ok errors) (hx : x ∈ errors) :
    x = tooManyErrors ∨ ∃ rule ∈ rules, x ∈ (rule.report es).errors := by
  have hrun {found : List Graphql.Error}
      (hfound : Watch.run maxErrors [] (rules.map .ofRule) es = .ok found) (hx : x ∈ found) :
      ∃ rule ∈ rules, x ∈ (rule.report es).errors := by
    rcases Watch.exists_of_mem_run hfound hx with hnone | ⟨w, hw, hreport⟩
    . cases hnone
    . rcases List.mem_map.mp hw with ⟨rule, hrule, rfl⟩
      exact ⟨rule, hrule, hreport⟩
  rcases bind_eq_ok_iff.mp h with ⟨found, hfound, heq⟩
  split at heq
  . cases heq
    rcases List.mem_append.mp hx with hx | hx
    . exact .inr (hrun hfound (List.mem_of_mem_take hx))
    . exact .inl (List.mem_singleton.mp hx)
  . cases heq
    exact .inr (hrun hfound hx)

theorem report_of_validate_eq_nil (h : validate rules es = .ok []) :
    ∀ rule ∈ rules, rule.report es = {} := by
  rcases bind_eq_ok_iff.mp h with ⟨found, hfound, heq⟩
  split at heq
  . simp [pure, Except.pure] at heq
  . cases heq
    intro rule hrule
    exact Watch.report_of_run_eq_nil hfound _ (List.mem_map_of_mem hrule)

theorem validate_of_report (h : ∀ rule ∈ rules, rule.report es = {}) :
    validate rules es = .ok [] := by
  have hrun : Watch.run maxErrors [] (rules.map .ofRule) es = .ok [] := by
    apply Watch.run_of_report
    rw [List.forall_mem_map]
    exact h
  unfold validate
  rw [hrun]
  rfl

theorem exists_of_mem_validateFull {schema : Schema} {d : Document} {nesting : Nat}
    (h : validateFull schema d nesting = .ok errors) (hx : x ∈ errors) :
    x = tooDeepError d ∨ x = tooManyErrors ∨
      ∃ rule ∈ allRules ⟨d, schema, false, nesting⟩,
        x ∈ (rule.report (events schema d)).errors := by
  unfold validateFull at h
  cases hv : validate (allRules ⟨d, schema, false, nesting⟩) (events schema d) with
  | ok found =>
    rw [hv] at h
    cases h
    exact .inr (exists_of_mem_validate hv hx)
  | error halt =>
    rw [hv] at h
    cases halt with
    | tooDeep =>
      cases h
      exact .inl (List.mem_singleton.mp hx)
    | broken error => cases h
    | number flaw => cases h

theorem report_of_validateFull_eq_nil {schema : Schema} {d : Document} {nesting : Nat}
    (h : validateFull schema d nesting = .ok []) :
    ∀ rule ∈ allRules ⟨d, schema, false, nesting⟩, rule.report (events schema d) = {} := by
  unfold validateFull at h
  cases hv : validate (allRules ⟨d, schema, false, nesting⟩) (events schema d) with
  | ok found =>
    rw [hv] at h
    cases h
    exact report_of_validate_eq_nil hv
  | error halt =>
    rw [hv] at h
    cases halt <;> cases h

end QueryLinker.Validation
