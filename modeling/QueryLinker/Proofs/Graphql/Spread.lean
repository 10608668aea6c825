import Mathlib.Data.List.Lex
import QueryLinker.Graphql.Spread

/-!
This module contains the structural enumeration of the fragment spreads in a selection set, and that
the enumeration with a list of open selections gives the same. A selection inside another one has an
address, which says at each depth which of the siblings to go into: the enumeration gives the spread
of every address that has one, and goes through the addresses in lexical order, which is the order
of the text. It also contains syntax trees without their positions: two trees are the same up to
positions if they are equal without them, and such trees spread the same fragments.
-/

namespace QueryLinker.Graphql

mutual

def Selection.allSpreads : Selection → List FragmentSpread
  | .field _ set => set.allSpreads
  | .spread s => [s]
  | .inline _ set => set.allSpreads
termination_by structural s => s

def SelectionSet.allSpreads : SelectionSet → List FragmentSpread
  | .absent => []
  | .braces selections _ => allSpreadsIn selections
termination_by structural set => set

def allSpreadsIn : List Selection → List FragmentSpread
  | [] => []
  | s :: ss => s.allSpreads ++ allSpreadsIn ss
termination_by structural ss => ss

end

def SelectionSet.spreadNames (set : SelectionSet) : List String :=
  set.allSpreads.map (·.name.value)

theorem allSpreadsIn_append (xs ys : List Selection) :
    allSpreadsIn (xs ++ ys) = allSpreadsIn xs ++ allSpreadsIn ys := by
  induction xs with
  | nil => simp [allSpreadsIn]
  | cons x xs ih => simp [allSpreadsIn, ih]

theorem SelectionSet.allSpreadsIn_selections (set : SelectionSet) :
    allSpreadsIn set.selections = set.allSpreads := by
  cases set with
  | absent => simp [SelectionSet.selections, SelectionSet.allSpreads, allSpreadsIn]
  | braces => simp [SelectionSet.selections, SelectionSet.allSpreads]

theorem openSpreads_eq_allSpreadsIn (stack : List Selection) :
    openSpreads stack = allSpreadsIn stack := by
  fun_induction openSpreads stack with
  | case1 => simp [allSpreadsIn]
  | case2 s stack ih => simp [allSpreadsIn, Selection.allSpreads, ih]
  | case3 head set stack ih =>
    rw [ih, allSpreadsIn_append]
    simp [Selection.children, SelectionSet.allSpreadsIn_selections, allSpreadsIn,
      Selection.allSpreads]
  | case4 head set stack ih =>
    rw [ih, allSpreadsIn_append]
    simp [Selection.children, SelectionSet.allSpreadsIn_selections, allSpreadsIn,
      Selection.allSpreads]

@[simp]
theorem SelectionSet.spreads_eq_allSpreads (set : SelectionSet) :
    set.spreads = set.allSpreads := by
  rw [SelectionSet.spreads, openSpreads_eq_allSpreadsIn, SelectionSet.allSpreadsIn_selections]

/-! The order of the enumeration. -/

def Selection.spreadAt? (s : Selection) : List Nat → Option FragmentSpread
  | [] =>
    match s with
    | .spread f => some f
    | _ => none
  | i :: address => s.children[i]?.bind fun child => child.spreadAt? address

def spreadIn? (ss : List Selection) : List Nat → Option FragmentSpread
  | [] => none
  | i :: address => ss[i]?.bind fun s => s.spreadAt? address

def SelectionSet.spreadAt? (set : SelectionSet) (address : List Nat) : Option FragmentSpread :=
  spreadIn? set.selections address

/--
The spreads are what is found at the addresses that have one: each address is gone through once, an
earlier place before a later one, and none is left out.
-/
structure Enumerates (addresses : List (List Nat)) (spreadAt? : List Nat → Option FragmentSpread)
    (spreads : List FragmentSpread) : Prop where
  ordered : addresses.Pairwise (· < ·)
  complete : ∀ address, address ∈ addresses ↔ (spreadAt? address).isSome
  found : addresses.map spreadAt? = spreads.map some

mutual

def Selection.addresses : Selection → List (List Nat)
  | .field _ set => set.addresses
  | .spread _ => [[]]
  | .inline _ set => set.addresses
termination_by structural s => s

def SelectionSet.addresses : SelectionSet → List (List Nat)
  | .absent => []
  | .braces selections _ => addressesFrom 0 selections
termination_by structural set => set

def addressesFrom (first : Nat) : List Selection → List (List Nat)
  | [] => []
  | s :: ss => s.addresses.map (first :: ·) ++ addressesFrom (first + 1) ss
termination_by structural ss => ss

end

theorem mem_addressesFrom {ss : List Selection} {first : Nat} {address : List Nat} :
    address ∈ addressesFrom first ss ↔
      ∃ i s below, ss[i]? = some s ∧ below ∈ s.addresses ∧ (first + i) :: below = address := by
  induction ss generalizing first with
  | nil => simp [addressesFrom]
  | cons s ss ih =>
    rw [addressesFrom, List.mem_append, List.mem_map, ih]
    constructor
    . rintro (⟨below, hbelow, rfl⟩ | ⟨i, t, below, ht, hbelow, rfl⟩)
      . exact ⟨0, s, below, rfl, hbelow, rfl⟩
      . exact ⟨i + 1, t, below, ht, hbelow, by rw [Nat.add_right_comm, Nat.add_assoc]⟩
    . rintro ⟨i, t, below, ht, hbelow, rfl⟩
      cases i with
      | zero =>
        cases ht
        exact .inl ⟨below, hbelow, rfl⟩
      | succ i => exact .inr ⟨i, t, below, ht, hbelow, by rw [Nat.add_right_comm, Nat.add_assoc]⟩

theorem pairwise_addressesFrom {ss : List Selection}
    (h : ∀ s ∈ ss, s.addresses.Pairwise (· < ·)) (first : Nat) :
    (addressesFrom first ss).Pairwise (· < ·) := by
  induction ss generalizing first with
  | nil => exact .nil
  | cons s ss ih =>
    rw [List.forall_mem_cons] at h
    rw [addressesFrom, List.pairwise_append]
    refine ⟨?_, ih h.2 (first + 1), ?_⟩
    . rw [List.pairwise_map]
      exact h.1.imp fun hlt => List.Lex.cons hlt
    . intro a ha b hb
      rcases List.mem_map.mp ha with ⟨below, _, rfl⟩
      rcases mem_addressesFrom.mp hb with ⟨i, _, _, _, _, rfl⟩
      exact List.Lex.rel (by omega)

theorem map_spreadIn?_addressesFrom {ss : List Selection}
    (h : ∀ s ∈ ss, s.addresses.map s.spreadAt? = s.allSpreads.map some) (before : List Selection) :
    (addressesFrom before.length ss).map (spreadIn? (before ++ ss)) =
      (allSpreadsIn ss).map some := by
  induction ss generalizing before with
  | nil => rfl
  | cons s ss ih =>
    rw [List.forall_mem_cons] at h
    have hrest := ih h.2 (before ++ [s])
    rw [List.length_append, List.append_assoc] at hrest
    have hhere : (before ++ s :: ss)[before.length]? = some s := by simp
    have hfirst : (s.addresses.map (before.length :: ·)).map (spreadIn? (before ++ s :: ss)) =
        s.addresses.map s.spreadAt? := by
      rw [List.map_map]
      apply List.map_congr_left
      intro below _
      rw [Function.comp_apply, spreadIn?, hhere]
      rfl
    rw [addressesFrom, allSpreadsIn, List.map_append, List.map_append, hfirst, h.1]
    exact congrArg _ hrest

theorem enumerates_addressesFrom {ss : List Selection}
    (h : ∀ s ∈ ss, Enumerates s.addresses s.spreadAt? s.allSpreads) :
    Enumerates (addressesFrom 0 ss) (spreadIn? ss) (allSpreadsIn ss) where
  ordered := pairwise_addressesFrom (fun s hs => (h s hs).ordered) 0
  complete := by
    intro address
    rw [mem_addressesFrom]
    cases address with
    | nil => simp [spreadIn?]
    | cons i below =>
      rw [spreadIn?]
      cases hs : ss[i]? with
      | none =>
        simp only [Option.bind_none, Option.isSome_none, Bool.false_eq_true, iff_false]
        rintro ⟨j, s, _, hj, _, heq⟩
        rw [Nat.zero_add, List.cons.injEq] at heq
        rw [heq.1, hs] at hj
        cases hj
      | some s =>
        rw [Option.bind_some, ← (h s (List.mem_of_getElem? hs)).complete]
        constructor
        . rintro ⟨j, t, below', hj, hbelow, heq⟩
          rw [Nat.zero_add, List.cons.injEq] at heq
          rw [heq.1, hs] at hj
          cases hj
          rw [← heq.2]
          exact hbelow
        . intro hbelow
          exact ⟨i, s, below, hs, hbelow, by rw [Nat.zero_add]⟩
  found := map_spreadIn?_addressesFrom (fun s hs => (h s hs).found) []

theorem spreadAt?_eq_of_children (s : Selection) (set : SelectionSet)
    (hchildren : s.children = set.selections) (hself : s.spreadAt? [] = none) :
    s.spreadAt? = set.spreadAt? := by
  funext address
  cases address with
  | nil => exact hself
  | cons i address =>
    rw [Selection.spreadAt?, SelectionSet.spreadAt?, spreadIn?, hchildren]

mutual

theorem Selection.enumerates (s : Selection) :
    Enumerates s.addresses s.spreadAt? s.allSpreads := by
  cases s with
  | field head set =>
    rw [spreadAt?_eq_of_children (.field head set) set rfl rfl]
    exact set.enumerates
  | spread f =>
    refine ⟨List.pairwise_singleton _ _, ?_, rfl⟩
    intro address
    cases address with
    | nil => simp [Selection.addresses, Selection.spreadAt?]
    | cons i address => simp [Selection.addresses, Selection.spreadAt?, Selection.children]
  | inline head set =>
    rw [spreadAt?_eq_of_children (.inline head set) set rfl rfl]
    exact set.enumerates
termination_by structural s

theorem SelectionSet.enumerates (set : SelectionSet) :
    Enumerates set.addresses set.spreadAt? set.allSpreads := by
  cases set with
  | absent =>
    have hnone : ∀ s ∈ ([] : List Selection), Enumerates s.addresses s.spreadAt? s.allSpreads :=
      List.forall_mem_nil _
    exact enumerates_addressesFrom hnone
  | braces selections loc? => exact enumerates_addressesFrom (enumerates_of_mem selections)
termination_by structural set

theorem enumerates_of_mem (ss : List Selection) :
    ∀ s ∈ ss, Enumerates s.addresses s.spreadAt? s.allSpreads := by
  cases ss with
  | nil => exact List.forall_mem_nil _
  | cons s ss =>
    rw [List.forall_mem_cons]
    exact ⟨s.enumerates, enumerates_of_mem ss⟩
termination_by structural ss

end

/--
The spreads of a definition are those that the recursion on its selections gives: every spread in
it once for each place where it stands, in the order of the text.
-/
theorem spreads_enumerate (d : Definition) :
    d.spreads = d.selectionSet.allSpreads ∧
      ∃ addresses, Enumerates addresses d.selectionSet.spreadAt? d.spreads := by
  have hspreads : d.spreads = d.selectionSet.allSpreads := d.selectionSet.spreads_eq_allSpreads
  refine ⟨hspreads, d.selectionSet.addresses, ?_⟩
  rw [hspreads]
  exact d.selectionSet.enumerates

/-! Trees without positions. -/

def Name.unlocated (n : Name) : Name :=
  ⟨n.value, none⟩

def NamedType.unlocated (t : NamedType) : NamedType :=
  ⟨t.name.unlocated, none⟩

def Variable.unlocated (v : Variable) : Variable :=
  ⟨v.name.unlocated, none⟩

mutual

def Value.unlocated : Value → Value
  | .var v => .var v.unlocated
  | .int text _ => .int text none
  | .float text _ => .float text none
  | .string value block _ => .string value block none
  | .boolean value _ => .boolean value none
  | .null _ => .null none
  | .enum name _ => .enum name none
  | .list items _ => .list (unlocatedValues items) none
  | .object fields _ => .object (unlocatedFields fields) none
termination_by structural v => v

def unlocatedValues : List Value → List Value
  | [] => []
  | v :: vs => v.unlocated :: unlocatedValues vs
termination_by structural vs => vs

def ObjectField.unlocated : ObjectField → ObjectField
  | .mk name value _ => .mk name.unlocated value.unlocated none
termination_by structural f => f

def unlocatedFields : List ObjectField → List ObjectField
  | [] => []
  | f :: fs => f.unlocated :: unlocatedFields fs
termination_by structural fs => fs

end

def Argument.unlocated (a : Argument) : Argument :=
  ⟨a.name.unlocated, a.value.unlocated, none⟩

def Directive.unlocated (d : Directive) : Directive :=
  ⟨d.name.unlocated, d.arguments.map (·.unlocated), none⟩

def FieldHead.unlocated (f : FieldHead) : FieldHead where
  alias? := f.alias?.map (·.unlocated)
  name := f.name.unlocated
  arguments := f.arguments.map (·.unlocated)
  directives := f.directives.map (·.unlocated)
  loc? := none

def FragmentSpread.unlocated (s : FragmentSpread) : FragmentSpread :=
  ⟨s.name.unlocated, s.directives.map (·.unlocated), none⟩

def InlineHead.unlocated (f : InlineHead) : InlineHead where
  typeCondition? := f.typeCondition?.map (·.unlocated)
  directives := f.directives.map (·.unlocated)
  loc? := none

mutual

def Selection.unlocated : Selection → Selection
  | .field head set => .field head.unlocated set.unlocated
  | .spread s => .spread s.unlocated
  | .inline head set => .inline head.unlocated set.unlocated
termination_by structural s => s

def SelectionSet.unlocated : SelectionSet → SelectionSet
  | .absent => .absent
  | .braces selections _ => .braces (unlocatedSelections selections) none
termination_by structural set => set

def unlocatedSelections : List Selection → List Selection
  | [] => []
  | s :: ss => s.unlocated :: unlocatedSelections ss
termination_by structural ss => ss

end

def FragmentDefinition.unlocated (f : FragmentDefinition) : FragmentDefinition where
  name := f.name.unlocated
  typeCondition := f.typeCondition.unlocated
  directives := f.directives.map (·.unlocated)
  selectionSet := f.selectionSet.unlocated
  loc? := none

mutual

theorem Selection.allSpreads_unlocated (s : Selection) :
    s.unlocated.allSpreads = s.allSpreads.map (·.unlocated) := by
  cases s with
  | field head set =>
    simp only [Selection.unlocated, Selection.allSpreads]
    exact set.allSpreads_unlocated
  | spread s => simp [Selection.unlocated, Selection.allSpreads]
  | inline head set =>
    simp only [Selection.unlocated, Selection.allSpreads]
    exact set.allSpreads_unlocated
termination_by structural s

theorem SelectionSet.allSpreads_unlocated (set : SelectionSet) :
    set.unlocated.allSpreads = set.allSpreads.map (·.unlocated) := by
  cases set with
  | absent => simp [SelectionSet.unlocated, SelectionSet.allSpreads]
  | braces selections loc? =>
    simp only [SelectionSet.unlocated, SelectionSet.allSpreads]
    exact allSpreadsIn_unlocated selections
termination_by structural set

theorem allSpreadsIn_unlocated (ss : List Selection) :
    allSpreadsIn (unlocatedSelections ss) = (allSpreadsIn ss).map (·.unlocated) := by
  cases ss with
  | nil => simp [unlocatedSelections, allSpreadsIn]
  | cons s ss =>
    simp only [unlocatedSelections, allSpreadsIn, List.map_append]
    rw [s.allSpreads_unlocated, allSpreadsIn_unlocated ss]
termination_by structural ss

end

@[simp]
theorem SelectionSet.spreadNames_unlocated (set : SelectionSet) :
    set.unlocated.spreadNames = set.spreadNames := by
  unfold SelectionSet.spreadNames
  rw [set.allSpreads_unlocated, List.map_map]
  rfl

end QueryLinker.Graphql
