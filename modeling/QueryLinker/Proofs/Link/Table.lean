import QueryLinker.Link.Definition
import QueryLinker.Link.Table

/-!
This module contains the operations and the fragments of a source document, apart from each other,
and what a table says of the fragments that were added to it: a name stands for its first fragment,
unless two of its fragments have different texts.
-/

namespace QueryLinker

open Graphql

namespace Extract

def operation? : Extract → Option Operation
  | .operation o => some o
  | _ => none

def fragment? : Extract → Option Fragment
  | .fragment f => some f
  | _ => none

end Extract

namespace SourceDocument

def operations (d : SourceDocument) : List Operation :=
  d.extracts.filterMap Extract.operation?

def fragments (d : SourceDocument) : List Fragment :=
  d.extracts.filterMap Extract.fragment?

variable {d : SourceDocument}

theorem exists_of_mem_extracts {x : Extract} (hx : x ∈ d.extracts) :
    ∃ index definition, d.document.definitions[index]? = some definition ∧
      d.extract index definition = x := by
  rcases List.mem_iff_getElem.mp hx with ⟨index, hindex, heq⟩
  rw [extracts, List.length_mapIdx] at hindex
  simp only [extracts, List.getElem_mapIdx] at heq
  exact ⟨index, _, List.getElem?_eq_getElem hindex, heq⟩

theorem exists_of_mem_operations {o : Operation} (ho : o ∈ d.operations) :
    ∃ index node, d.document.definitions[index]? = some (.operation node) ∧
      d.extract index (.operation node) = .operation o := by
  rcases List.mem_filterMap.mp ho with ⟨x, hx, hxo⟩
  rcases exists_of_mem_extracts hx with ⟨index, definition, hmem, rfl⟩
  cases definition with
  | operation node =>
    refine ⟨index, node, hmem, ?_⟩
    cases hxo
    rfl
  | _ => cases hxo

theorem exists_of_mem_fragments {f : Fragment} (hf : f ∈ d.fragments) :
    ∃ index node, d.document.definitions[index]? = some (.fragment node) ∧
      d.extract index (.fragment node) = .fragment f := by
  rcases List.mem_filterMap.mp hf with ⟨x, hx, hxf⟩
  rcases exists_of_mem_extracts hx with ⟨index, definition, hmem, rfl⟩
  cases definition with
  | fragment node =>
    refine ⟨index, node, hmem, ?_⟩
    cases hxf
    rfl
  | _ => cases hxf

theorem operation_file {o : Operation} (ho : o ∈ d.operations) : o.site.file = d.path := by
  rcases exists_of_mem_operations ho with ⟨_, _, _, heq⟩
  cases heq
  rfl

theorem fragment_file {f : Fragment} (hf : f ∈ d.fragments) : f.site.file = d.path := by
  rcases exists_of_mem_fragments hf with ⟨_, _, _, heq⟩
  cases heq
  rfl

theorem fragment_name {f : Fragment} (hf : f ∈ d.fragments) : f.name = f.node.name.value := by
  rcases exists_of_mem_fragments hf with ⟨_, _, _, heq⟩
  cases heq
  rfl

theorem fragment_text {f : Fragment} (hf : f ∈ d.fragments) :
    f.text = Definition.text (.fragment f.node) := by
  rcases exists_of_mem_fragments hf with ⟨_, _, _, heq⟩
  cases heq
  rfl

theorem filterMap_mapIdx {α β γ : Type} {f : Nat → α → β} {g : β → Option γ} {h : α → Option γ}
    (hfg : ∀ index a, g (f index a) = h a) (as : List α) :
    (as.mapIdx f).filterMap g = as.filterMap h := by
  induction as generalizing f with
  | nil => simp
  | cons a as ih =>
    rw [List.mapIdx_cons, List.filterMap_cons, List.filterMap_cons, hfg,
      ih fun index => hfg (index + 1)]

theorem operations_map_node (d : SourceDocument) :
    d.operations.map (·.node) = d.document.operations := by
  unfold operations extracts Document.operations
  rw [List.map_filterMap]
  apply filterMap_mapIdx
  intro index definition
  cases definition <;> rfl

theorem fragments_map_node (d : SourceDocument) :
    d.fragments.map (·.node) = d.document.fragments := by
  unfold fragments extracts Document.fragments
  rw [List.map_filterMap]
  apply filterMap_mapIdx
  intro index definition
  cases definition <;> rfl

end SourceDocument

theorem lookup_append_singleton {α : Type} (entries : List (String × α)) (n m : String) (a : α) :
    (entries ++ [(m, a)]).lookup n =
      (entries.lookup n).or (if n = m then some a else none) := by
  rw [List.lookup_append]
  by_cases h : n = m
  . simp [h]
  . have : (n == m) = false := by simpa using h
    simp [List.lookup_cons, this, h]

theorem lookup_filter_ne {α : Type} (entries : List (String × α)) (n m : String) :
    (entries.filter fun entry => entry.1 != m).lookup n =
      if n = m then none else entries.lookup n := by
  induction entries with
  | nil => simp
  | cons entry entries ih =>
    rcases entry with ⟨k, a⟩
    by_cases hk : k = m
    . rw [List.filter_cons_of_neg (by simpa using hk), ih, List.lookup_cons]
      by_cases hn : n = m
      . rw [if_pos hn, if_pos hn]
      . have : (n == k) = false := by
          rw [hk]
          simpa using hn
        rw [if_neg hn, if_neg hn, this]
    . rw [List.filter_cons_of_pos (by simpa using hk), List.lookup_cons, List.lookup_cons, ih]
      by_cases hn : n = m
      . have : (n == k) = false := by
          rw [hn]
          simpa using fun h : m = k => hk h.symm
        rw [if_pos hn, if_pos hn, this]
      . rw [if_neg hn, if_neg hn]

theorem isSome_lookup_map {α : Type} {g : String × α → String × α}
    (hg : ∀ entry, (g entry).1 = entry.1) (entries : List (String × α)) (n : String) :
    ((entries.map g).lookup n).isSome = (entries.lookup n).isSome := by
  induction entries with
  | nil => rfl
  | cons entry entries ih =>
    have hentry := hg entry
    rw [List.map_cons]
    generalize g entry = changed at hentry
    rcases entry with ⟨m, a⟩
    rcases changed with ⟨k, b⟩
    dsimp only at hentry
    subst hentry
    rw [List.lookup_cons, List.lookup_cons]
    split
    . rfl
    . exact ih

theorem filterMap_cons_toList {α β : Type} (g : α → Option β) (a : α) (as : List α) :
    (a :: as).filterMap g = (g a).toList ++ as.filterMap g := by
  rw [List.filterMap_cons]
  cases g a <;> rfl

namespace DefinitionTable

def Ambiguous (fs : List Fragment) (n : String) : Prop :=
  ∃ f ∈ fs, ∃ f' ∈ fs, f.name = n ∧ f'.name = n ∧ f.text ≠ f'.text

/-- The fragments, and nothing else, were added to the table, in their order. -/
structure Represents (t : DefinitionTable) (fs : List Fragment) : Prop where
  get? : ∀ n f, t.get? n = some f ↔ fs.find? (·.name == n) = some f ∧ ¬ Ambiguous fs n
  conflicts : ∀ n, (t.conflicts.lookup n).isSome ↔ Ambiguous fs n

theorem Ambiguous.append {fs : List Fragment} {n : String} (h : Ambiguous fs n)
    (gs : List Fragment) : Ambiguous (fs ++ gs) n := by
  rcases h with ⟨f, hf, f', hf', h⟩
  exact ⟨f, List.mem_append_left _ hf, f', List.mem_append_left _ hf', h⟩

theorem ambiguous_append_singleton {fs : List Fragment} {f : Fragment} {n : String} :
    Ambiguous (fs ++ [f]) n ↔
      Ambiguous fs n ∨ f.name = n ∧ ∃ f' ∈ fs, f'.name = n ∧ f'.text ≠ f.text := by
  constructor
  . rintro ⟨f₁, hf₁, f₂, hf₂, hn₁, hn₂, hne⟩
    simp only [List.mem_append, List.mem_singleton] at hf₁ hf₂
    rcases hf₁ with hf₁ | rfl
    . rcases hf₂ with hf₂ | rfl
      . exact .inl ⟨f₁, hf₁, f₂, hf₂, hn₁, hn₂, hne⟩
      . exact .inr ⟨hn₂, f₁, hf₁, hn₁, hne⟩
    . rcases hf₂ with hf₂ | rfl
      . exact .inr ⟨hn₁, f₂, hf₂, hn₂, hne.symm⟩
      . exact absurd rfl hne
  . rintro (h | ⟨hn, f', hf', hn', hne⟩)
    . exact h.append [f]
    . exact ⟨f', List.mem_append_left _ hf', f, by simp, hn', hn, hne⟩

namespace Represents

variable {t : DefinitionTable} {fs : List Fragment} {n : String}

theorem empty : empty.Represents [] where
  get? := by simp [DefinitionTable.get?, DefinitionTable.empty]
  conflicts := by simp [Ambiguous, DefinitionTable.empty]

theorem mem (h : t.Represents fs) {f : Fragment} (hn : t.get? n = some f) :
    f ∈ fs ∧ f.name = n := by
  have hfind := ((h.get? n f).mp hn).1
  exact ⟨List.mem_of_find?_eq_some hfind, by simpa using List.find?_some hfind⟩

theorem text_eq (h : t.Represents fs) {f f' : Fragment} (hn : t.get? n = some f) (hf' : f' ∈ fs)
    (hn' : f'.name = n) : f'.text = f.text := by
  rcases h.mem hn with ⟨hf, hname⟩
  apply Decidable.byContradiction
  intro hne
  exact ((h.get? n f).mp hn).2 ⟨f', hf', f, hf, hn', hname, hne⟩

theorem exists_get? (h : t.Represents fs) {f : Fragment} (hf : f ∈ fs)
    (hn : ¬ Ambiguous fs f.name) : ∃ first, t.get? f.name = some first := by
  cases hfind : fs.find? (·.name == f.name) with
  | none =>
    rw [List.find?_eq_none] at hfind
    simpa using hfind f hf
  | some first => exact ⟨first, (h.get? _ _).mpr ⟨hfind, hn⟩⟩

theorem get?_eq_none (h : t.Represents fs) (hn : Ambiguous fs n) : t.get? n = none := by
  cases hget : t.get? n with
  | none => rfl
  | some f => exact absurd hn ((h.get? n f).mp hget).2

theorem of_others {t' : DefinitionTable} {f : Fragment} (h : t.Represents fs)
    (hget : ∀ n, n ≠ f.name → t'.get? n = t.get? n)
    (hconflicts : ∀ n, n ≠ f.name →
      (t'.conflicts.lookup n).isSome = (t.conflicts.lookup n).isSome)
    (hself : ∀ g, t'.get? f.name = some g ↔
      (fs.find? (·.name == f.name)).getD f = g ∧ ¬ Ambiguous (fs ++ [f]) f.name)
    (hself' : (t'.conflicts.lookup f.name).isSome ↔ Ambiguous (fs ++ [f]) f.name) :
    t'.Represents (fs ++ [f]) where
  get? := by
    intro n g
    rw [List.find?_append]
    by_cases hn : n = f.name
    . subst hn
      rw [hself]
      cases fs.find? (·.name == f.name) <;> simp
    . have hne : (f.name == n) = false := by simpa using fun heq : f.name = n => hn heq.symm
      have hne' : ¬ f.name = n := fun heq => hn heq.symm
      rw [hget n hn, h.get?, ambiguous_append_singleton]
      simp [hne, hne']
  conflicts := by
    intro n
    by_cases hn : n = f.name
    . subst hn
      exact hself'
    . have hne : ¬ f.name = n := fun heq => hn heq.symm
      rw [hconflicts n hn, h.conflicts, ambiguous_append_singleton]
      simp [hne]

theorem lookup_addConflict (f : Fragment) (conflicts : List (String × List Fragment)) (n : String) :
    ((addConflict f conflicts).lookup n).isSome = (conflicts.lookup n).isSome := by
  unfold addConflict
  apply isSome_lookup_map
  rintro ⟨m, bodies⟩
  dsimp only
  split <;> rfl

theorem not_ambiguous (h : t.Represents fs) (hconflict : t.conflicts.lookup n = none) :
    ¬ Ambiguous fs n := by
  rw [← h.conflicts, hconflict]
  simp

theorem add_ambiguous (h : t.Represents fs) {f : Fragment} {bodies : List Fragment}
    (hconflict : t.conflicts.lookup f.name = some bodies) :
    Represents { t with conflicts := addConflict f t.conflicts } (fs ++ [f]) := by
  have hold : Ambiguous fs f.name := by
    rw [← h.conflicts, hconflict]
    rfl
  have hnew := hold.append [f]
  apply h.of_others
  . intro n _
    rfl
  . intro n _
    exact lookup_addConflict f t.conflicts n
  . intro g
    have : ({ t with conflicts := addConflict f t.conflicts } : DefinitionTable).get? f.name =
      none := h.get?_eq_none hold
    simp [this, hnew]
  . rw [lookup_addConflict, hconflict]
    simp [hnew]

theorem add_new (h : t.Represents fs) {f : Fragment}
    (hconflict : t.conflicts.lookup f.name = none) (hget : t.get? f.name = none) :
    Represents { t with fragments := t.fragments ++ [(f.name, f)] } (fs ++ [f]) := by
  have hold := h.not_ambiguous hconflict
  -- A name that is neither in the table nor in conflict was not met before.
  have hfresh : ∀ f' ∈ fs, f'.name ≠ f.name := by
    intro f' hf' hname
    rcases h.exists_get? hf' (by rwa [hname]) with ⟨first, hfirst⟩
    rw [hname, hget] at hfirst
    cases hfirst
  have hnew : ¬ Ambiguous (fs ++ [f]) f.name := by
    rw [ambiguous_append_singleton]
    rintro (hamb | ⟨_, f', hf', hname, _⟩)
    . exact hold hamb
    . exact hfresh f' hf' hname
  have hfind : fs.find? (·.name == f.name) = none := by
    rw [List.find?_eq_none]
    simpa using hfresh
  apply h.of_others
  . intro n hn
    unfold DefinitionTable.get?
    rw [lookup_append_singleton]
    simp [hn]
  . intro n _
    rfl
  . intro g
    have hself : t.fragments.lookup f.name = none := hget
    unfold DefinitionTable.get?
    rw [lookup_append_singleton, hself, hfind]
    simp [hnew]
  . simp [hconflict, hnew]

theorem add_same (h : t.Represents fs) {f existing : Fragment}
    (hconflict : t.conflicts.lookup f.name = none) (hget : t.get? f.name = some existing)
    (htext : f.text = existing.text) : t.Represents (fs ++ [f]) := by
  have hnew : ¬ Ambiguous (fs ++ [f]) f.name := by
    rw [ambiguous_append_singleton]
    rintro (hamb | ⟨_, f', hf', hname', hne⟩)
    . exact h.not_ambiguous hconflict hamb
    . exact hne ((h.text_eq hget hf' hname').trans htext.symm)
  apply h.of_others
  . intro n _
    rfl
  . intro n _
    rfl
  . intro g
    rw [hget, ((h.get? _ _).mp hget).1]
    simp [hnew]
  . simp [hconflict, hnew]

theorem add_different (h : t.Represents fs) {f existing : Fragment}
    (hget : t.get? f.name = some existing) (htext : f.text ≠ existing.text) :
    Represents { t.erase f.name with conflicts := t.conflicts ++ [(f.name, [existing, f])] }
      (fs ++ [f]) := by
  rcases h.mem hget with ⟨hmem, hname⟩
  have hnew : Ambiguous (fs ++ [f]) f.name := by
    rw [ambiguous_append_singleton]
    exact .inr ⟨rfl, existing, hmem, hname, fun heq => htext heq.symm⟩
  apply h.of_others
  . intro n hn
    unfold DefinitionTable.get? erase
    rw [lookup_filter_ne, if_neg hn]
  . intro n hn
    rw [lookup_append_singleton]
    simp [hn]
  . intro g
    unfold DefinitionTable.get? erase
    rw [lookup_filter_ne, if_pos rfl]
    simp [hnew]
  . rw [lookup_append_singleton]
    simp [hnew]

theorem addFragment (h : t.Represents fs) (f : Fragment) :
    (t.addFragment f).1.Represents (fs ++ [f]) := by
  unfold DefinitionTable.addFragment
  cases hconflict : t.conflicts.lookup f.name with
  | some bodies =>
    have htable := h.add_ambiguous hconflict
    dsimp only
    split <;> exact htable
  | none =>
    cases hget : t.get? f.name with
    | none => exact h.add_new hconflict hget
    | some existing =>
      dsimp only
      split
      next htext => exact h.add_same hconflict hget (beq_iff_eq.mp htext)
      next htext => exact h.add_different hget (by simpa using htext)

theorem addExtract (h : t.Represents fs) (file : String) (x : Extract) :
    (t.addExtract file x).1.Represents (fs ++ x.fragment?.toList) := by
  cases x with
  | operation o =>
    rw [show (Extract.operation o).fragment?.toList = [] by rfl, List.append_nil]
    exact ⟨h.get?, h.conflicts⟩
  | fragment f => exact h.addFragment f
  | other d =>
    rw [show (Extract.other d).fragment?.toList = [] by rfl, List.append_nil]
    exact h

theorem addExtracts (h : t.Represents fs) (file : String) (xs : List Extract) :
    (t.addExtracts file xs).1.Represents (fs ++ xs.filterMap Extract.fragment?) := by
  induction xs generalizing t fs with
  | nil =>
    rw [List.filterMap_nil, List.append_nil]
    exact h
  | cons x xs ih =>
    rw [filterMap_cons_toList, ← List.append_assoc]
    exact ih (h.addExtract file x)

theorem addDocument (h : t.Represents fs) (d : SourceDocument) :
    (t.addDocument d).1.Represents (fs ++ d.fragments) :=
  h.addExtracts d.path d.extracts

end Represents

theorem addFragment_operations (t : DefinitionTable) (f : Fragment) :
    (t.addFragment f).1.operations = t.operations := by
  unfold addFragment
  dsimp only
  repeat' split
  all_goals rfl

theorem addExtracts_operations (t : DefinitionTable) (file : String) (xs : List Extract) :
    (t.addExtracts file xs).1.operations = t.operations ++ xs.filterMap Extract.operation? := by
  induction xs generalizing t with
  | nil => simp [addExtracts]
  | cons x xs ih =>
    rw [filterMap_cons_toList, ← List.append_assoc]
    simp only [addExtracts]
    rw [ih]
    congr 1
    cases x with
    | operation o => rfl
    | fragment f =>
      rw [show (Extract.fragment f).operation?.toList = [] by rfl, List.append_nil]
      exact t.addFragment_operations f
    | other d => exact (List.append_nil _).symm

theorem addDocument_operations (t : DefinitionTable) (d : SourceDocument) :
    (t.addDocument d).1.operations = t.operations ++ d.operations :=
  t.addExtracts_operations d.path d.extracts

theorem problem_of_addFragment {t : DefinitionTable} {f : Fragment} {p : Problem}
    (hp : p ∈ Event.problems (t.addFragment f).2) : ∃ other, p = .duplicateFragment f other := by
  unfold addFragment at hp
  dsimp only at hp
  repeat' split at hp
  all_goals simp [Event.problems, Event.problem?] at hp
  all_goals exact ⟨_, hp⟩

theorem problem_of_addExtracts {t : DefinitionTable} {file : String} {xs : List Extract}
    {p : Problem} (hp : p ∈ Event.problems (t.addExtracts file xs).2) :
    ∃ f ∈ xs.filterMap Extract.fragment?, ∃ other, p = .duplicateFragment f other := by
  induction xs generalizing t with
  | nil => simp [addExtracts, Event.problems] at hp
  | cons x xs ih =>
    simp only [addExtracts, Event.problems, List.filterMap_append, List.mem_append] at hp
    rw [filterMap_cons_toList]
    rcases hp with hp | hp
    . cases x with
      | operation o => simp [addExtract] at hp
      | fragment f =>
        rcases problem_of_addFragment hp with ⟨other, rfl⟩
        exact ⟨f, by simp [Extract.fragment?], other, rfl⟩
      | other d => simp [addExtract, Event.problem?] at hp
    . rcases ih hp with ⟨f, hf, hother⟩
      exact ⟨f, List.mem_append_right _ hf, hother⟩

theorem problem_of_addDocument {t : DefinitionTable} {d : SourceDocument} {p : Problem}
    (hp : p ∈ Event.problems (t.addDocument d).2) :
    p.kind = .duplicateFragment ∧ p.file = d.path := by
  rcases problem_of_addExtracts hp with ⟨f, hf, other, rfl⟩
  exact ⟨rfl, d.fragment_file hf⟩

structure SameFragments (t t' : DefinitionTable) : Prop where
  fragments : t.fragments = t'.fragments
  conflicts : t.conflicts = t'.conflicts

namespace SameFragments

variable {t t' : DefinitionTable}

theorem refl (t : DefinitionTable) : t.SameFragments t := ⟨rfl, rfl⟩

theorem addFragment (h : t.SameFragments t') (f : Fragment) :
    (t.addFragment f).1.SameFragments (t'.addFragment f).1 ∧
      (t.addFragment f).2 = (t'.addFragment f).2 := by
  unfold DefinitionTable.addFragment DefinitionTable.get? erase
  rw [h.fragments, h.conflicts]
  dsimp only
  repeat' split
  all_goals exact ⟨⟨by first | rfl | exact h.fragments, by first | rfl | exact h.conflicts⟩, rfl⟩

theorem addExtracts (h : t.SameFragments t') (file : String) (xs : List Extract) :
    (t.addExtracts file xs).1.SameFragments (t'.addExtracts file xs).1 ∧
      (t.addExtracts file xs).2 = (t'.addExtracts file xs).2 := by
  induction xs generalizing t t' with
  | nil => exact ⟨h, rfl⟩
  | cons x xs ih =>
    have hx : (t.addExtract file x).1.SameFragments (t'.addExtract file x).1 ∧
        (t.addExtract file x).2 = (t'.addExtract file x).2 := by
      cases x with
      | operation o => exact ⟨⟨h.fragments, h.conflicts⟩, rfl⟩
      | fragment f => exact h.addFragment f
      | other d => exact ⟨h, rfl⟩
    rcases ih hx.1 with ⟨hxs, hevents⟩
    refine ⟨hxs, ?_⟩
    simp only [DefinitionTable.addExtracts]
    rw [hx.2, hevents]

theorem addDocument (h : t.SameFragments t') (d : SourceDocument) :
    (t.addDocument d).1.SameFragments (t'.addDocument d).1 ∧
      (t.addDocument d).2 = (t'.addDocument d).2 :=
  h.addExtracts d.path d.extracts

theorem addExtracts_of_no_fragment (h : t.SameFragments t') (file : String) {xs : List Extract}
    (hxs : xs.filterMap Extract.fragment? = []) :
    t.SameFragments (t'.addExtracts file xs).1 := by
  induction xs generalizing t' with
  | nil => exact h
  | cons x xs ih =>
    rw [filterMap_cons_toList, List.append_eq_nil_iff] at hxs
    cases x with
    | operation o => exact ih ⟨h.fragments, h.conflicts⟩ hxs.2
    | fragment f => cases hxs.1
    | other d => exact ih h hxs.2

end SameFragments

end DefinitionTable

end QueryLinker
