import QueryLinker.Graphql.Syntax

/-!
This module contains the enumeration of the fragment spreads inside a definition, in the order of
the text. It descends through fields and inline fragments, but not into the fragments that are
spread. A list of open selections takes the place of recursion.
-/

namespace QueryLinker.Graphql

mutual

def Selection.weight : Selection → Nat
  | .field _ set => 1 + set.weight
  | .spread _ => 1
  | .inline _ set => 1 + set.weight
termination_by structural s => s

def SelectionSet.weight : SelectionSet → Nat
  | .absent => 0
  | .braces selections _ => selectionsWeight selections
termination_by structural set => set

def selectionsWeight : List Selection → Nat
  | [] => 0
  | s :: ss => s.weight + selectionsWeight ss
termination_by structural ss => ss

end

theorem selectionsWeight_append (xs ys : List Selection) :
    selectionsWeight (xs ++ ys) = selectionsWeight xs + selectionsWeight ys := by
  induction xs with
  | nil => simp [selectionsWeight]
  | cons x xs ih => simp [selectionsWeight, ih, Nat.add_assoc]

theorem selectionsWeight_children_lt (s : Selection) : selectionsWeight s.children < s.weight := by
  cases s with
  | field head set => cases set <;> simp [Selection.children, SelectionSet.selections,
      Selection.weight, SelectionSet.weight, selectionsWeight]
  | spread s => simp [Selection.children, Selection.weight, selectionsWeight]
  | inline head set => cases set <;> simp [Selection.children, SelectionSet.selections,
      Selection.weight, SelectionSet.weight, selectionsWeight]

def openSpreads (stack : List Selection) : List FragmentSpread :=
  match stack with
  | [] => []
  | .spread s :: stack => s :: openSpreads stack
  | .field head set :: stack => openSpreads ((Selection.field head set).children ++ stack)
  | .inline head set :: stack => openSpreads ((Selection.inline head set).children ++ stack)
termination_by selectionsWeight stack
decreasing_by
  . simp [selectionsWeight, Selection.weight]
  . have := selectionsWeight_children_lt (.field head set)
    simp only [selectionsWeight_append, selectionsWeight]
    omega
  . have := selectionsWeight_children_lt (.inline head set)
    simp only [selectionsWeight_append, selectionsWeight]
    omega

def SelectionSet.spreads (set : SelectionSet) : List FragmentSpread :=
  openSpreads set.selections

def Definition.spreads (d : Definition) : List FragmentSpread :=
  d.selectionSet.spreads

end QueryLinker.Graphql
