import Mathlib.Data.List.Induction
import Mathlib.Order.Bounds.Basic
import Mathlib.Order.MinMax
import QueryLinker.Text.EditDistance

/-!
This module contains that the edit distance is the length of a shortest edit script. A script is
brought into the order of the text as an alignment, in which each character has its turn once; the
rows of the distance are the least lengths of alignments.
-/

namespace QueryLinker.Text

inductive Edit : List Char → List Char → Prop where
  | insert (front back : List Char) (c : Char) : Edit (front ++ back) (front ++ c :: back)
  | delete (front back : List Char) (c : Char) : Edit (front ++ c :: back) (front ++ back)
  | replace (front back : List Char) (c d : Char) : Edit (front ++ c :: back) (front ++ d :: back)

inductive EditScript : Nat → List Char → List Char → Prop where
  | nil (as : List Char) : EditScript 0 as as
  | cons {k as bs cs} (hedit : Edit as bs) (hrest : EditScript k bs cs) : EditScript (k + 1) as cs

def replaceCost (c d : Char) : Nat :=
  if c == d then 0 else 1

inductive Aligned : Nat → List Char → List Char → Prop where
  | nil : Aligned 0 [] []
  | insert {k as bs} (h : Aligned k as bs) (d : Char) : Aligned (k + 1) as (bs ++ [d])
  | delete {k as bs} (h : Aligned k as bs) (c : Char) : Aligned (k + 1) (as ++ [c]) bs
  | replace {k as bs} (h : Aligned k as bs) (c d : Char) :
      Aligned (k + replaceCost c d) (as ++ [c]) (bs ++ [d])

variable {j k : Nat} {as as' bs bs' cs : List Char} {c d : Char}

theorem Edit.symm (h : Edit as bs) : Edit bs as := by
  cases h with
  | insert front back c => exact .delete front back c
  | delete front back c => exact .insert front back c
  | replace front back c d => exact .replace front back d c

theorem Edit.append_right (h : Edit as bs) (cs : List Char) : Edit (as ++ cs) (bs ++ cs) := by
  cases h with
  | insert front back c => simpa using Edit.insert front (back ++ cs) c
  | delete front back c => simpa using Edit.delete front (back ++ cs) c
  | replace front back c d => simpa using Edit.replace front (back ++ cs) c d

namespace EditScript

theorem append_right (h : EditScript k as bs) (cs : List Char) :
    EditScript k (as ++ cs) (bs ++ cs) := by
  induction h with
  | nil => exact .nil _
  | cons hedit _ ih => exact .cons (hedit.append_right cs) ih

theorem snoc (h : EditScript k as bs) (hedit : Edit bs cs) : EditScript (k + 1) as cs := by
  induction h with
  | nil => exact .cons hedit (.nil _)
  | cons hfirst _ ih => exact .cons hfirst (ih hedit)

theorem symm (h : EditScript k as bs) : EditScript k bs as := by
  induction h with
  | nil => exact .nil _
  | cons hedit _ ih => exact ih.snoc hedit.symm

end EditScript

namespace Aligned

theorem refl (as : List Char) : Aligned 0 as as := by
  induction as using List.reverseRecOn with
  | nil => exact .nil
  | append_singleton as c ih => simpa [replaceCost] using ih.replace c c

theorem insertAll (bs : List Char) : Aligned bs.length [] bs := by
  induction bs using List.reverseRecOn with
  | nil => exact .nil
  | append_singleton bs d ih => simpa using ih.insert d

theorem deleteAll (as : List Char) : Aligned as.length as [] := by
  induction as using List.reverseRecOn with
  | nil => exact .nil
  | append_singleton as c ih => simpa using ih.delete c

theorem append (h : Aligned j as bs) (h' : Aligned k as' bs') :
    Aligned (j + k) (as ++ as') (bs ++ bs') := by
  induction h' with
  | nil => simpa using h
  | insert _ d ih => simpa [Nat.add_assoc] using ih.insert d
  | delete _ c ih => simpa [Nat.add_assoc] using ih.delete c
  | replace _ c d ih => simpa [Nat.add_assoc] using ih.replace c d

theorem exists_split (h : Aligned k as bs) {front back : List Char} (has : as = front ++ back) :
    ∃ k₁ k₂ bs₁ bs₂, bs = bs₁ ++ bs₂ ∧ k = k₁ + k₂ ∧ Aligned k₁ front bs₁ ∧
      Aligned k₂ back bs₂ := by
  induction h generalizing back with
  | nil =>
    rcases List.append_eq_nil_iff.mp has.symm with ⟨rfl, rfl⟩
    exact ⟨0, 0, [], [], rfl, rfl, .nil, .nil⟩
  | @insert k as bs _ d ih =>
    rcases ih has with ⟨k₁, k₂, bs₁, bs₂, rfl, rfl, hfront, hback⟩
    exact ⟨k₁, k₂ + 1, bs₁, bs₂ ++ [d], by simp, rfl, hfront, hback.insert d⟩
  | @delete k as bs h c ih =>
    rcases List.eq_nil_or_concat back with rfl | ⟨back, c', rfl⟩
    . rw [List.append_nil] at has
      subst has
      exact ⟨k + 1, 0, bs, [], by simp, rfl, h.delete c, .nil⟩
    . rw [List.concat_eq_append, ← List.append_assoc] at has
      rcases List.append_inj' has rfl with ⟨hinit, hlast⟩
      cases hlast
      rcases ih hinit with ⟨k₁, k₂, bs₁, bs₂, rfl, rfl, hfront, hback⟩
      exact ⟨k₁, k₂ + 1, bs₁, bs₂, rfl, rfl, hfront, by simpa using hback.delete c⟩
  | @replace k as bs h c d ih =>
    rcases List.eq_nil_or_concat back with rfl | ⟨back, c', rfl⟩
    . rw [List.append_nil] at has
      subst has
      exact ⟨_, 0, bs ++ [d], [], by simp, rfl, h.replace c d, .nil⟩
    . rw [List.concat_eq_append, ← List.append_assoc] at has
      rcases List.append_inj' has rfl with ⟨hinit, hlast⟩
      cases hlast
      rcases ih hinit with ⟨k₁, k₂, bs₁, bs₂, rfl, rfl, hfront, hback⟩
      exact ⟨k₁, k₂ + replaceCost c d, bs₁, bs₂ ++ [d], by simp, by omega, hfront,
        by simpa using hback.replace c d⟩

theorem length_le (h : Aligned k as bs) :
    bs.length ≤ as.length + k ∧ as.length ≤ bs.length + k := by
  induction h with
  | nil => simp
  | insert _ _ ih =>
    simp
    omega
  | delete _ _ ih =>
    simp
    omega
  | replace _ _ _ ih =>
    simp
    omega

theorem change (front mid mid' back : List Char) (h : Aligned k (front ++ (mid ++ back)) bs)
    (hmid : ∀ k bs, Aligned k mid bs → ∃ k' ≤ k + 1, Aligned k' mid' bs) :
    ∃ k' ≤ k + 1, Aligned k' (front ++ (mid' ++ back)) bs := by
  rcases h.exists_split rfl with ⟨k₁, k₂, bs₁, bs₂, rfl, rfl, hfront, hrest⟩
  rcases hrest.exists_split rfl with ⟨k₂, k₃, bs₂, bs₃, rfl, rfl, hold, hback⟩
  rcases hmid _ _ hold with ⟨k', hk', hnew⟩
  exact ⟨k₁ + (k' + k₃), by omega, hfront.append (hnew.append hback)⟩

theorem exists_of_insert (h : Aligned k [d] bs) : ∃ k' ≤ k + 1, Aligned k' [] bs := by
  have hlength := h.length_le
  refine ⟨bs.length, ?_, insertAll bs⟩
  simp at hlength
  omega

theorem exists_of_delete (h : Aligned k [] bs) (c : Char) : ∃ k' ≤ k + 1, Aligned k' [c] bs := by
  refine ⟨1 + k, ?_, (deleteAll [c]).append h⟩
  omega

theorem exists_of_replace (h : Aligned k [d] bs) (c : Char) : ∃ k' ≤ k + 1, Aligned k' [c] bs := by
  have hlength := h.length_le
  cases bs with
  | nil => exact ⟨1, by omega, deleteAll [c]⟩
  | cons d' rest =>
    have hcost : replaceCost c d' ≤ 1 := by
      unfold replaceCost
      split <;> omega
    refine ⟨_, ?_, (Aligned.nil.replace c d').append (insertAll rest)⟩
    simp at hlength
    omega

theorem exists_of_edit (hedit : Edit as bs) (h : Aligned k bs cs) :
    ∃ k' ≤ k + 1, Aligned k' as cs := by
  cases hedit with
  | insert front back d => exact change front [d] [] back h fun _ _ h => h.exists_of_insert
  | delete front back c => exact change front [] [c] back h fun _ _ h => h.exists_of_delete c
  | replace front back c d => exact change front [d] [c] back h fun _ _ h => h.exists_of_replace c

theorem exists_of_script (h : EditScript k as bs) : ∃ k' ≤ k, Aligned k' as bs := by
  induction h with
  | nil as => exact ⟨0, Nat.le_refl 0, refl as⟩
  | cons hedit _ ih =>
    rcases ih with ⟨j, hj, haligned⟩
    rcases exists_of_edit hedit haligned with ⟨k', hk', h⟩
    exact ⟨k', by omega, h⟩

theorem script (h : Aligned k as bs) : EditScript k as bs := by
  induction h with
  | nil => exact .nil []
  | @insert k as bs _ d ih =>
    apply ih.snoc
    simpa using Edit.insert bs [] d
  | @delete k as bs _ c ih =>
    apply EditScript.cons _ ih
    simpa using Edit.delete as [] c
  | @replace k as bs _ c d ih =>
    have h := ih.append_right [c]
    unfold replaceCost
    split
    next heq => simpa [eq_of_beq heq] using h
    next => exact h.snoc (.replace bs [] c d)

end Aligned

abbrev IsGap (k : Nat) (as bs : List Char) : Prop :=
  IsLeast {j | Aligned j as bs} k

namespace IsGap

theorem nil_left (bs : List Char) : IsGap bs.length [] bs := by
  refine ⟨.insertAll bs, ?_⟩
  intro j h
  simpa using h.length_le.1

theorem nil_right (as : List Char) : IsGap as.length as [] := by
  refine ⟨.deleteAll as, ?_⟩
  intro j h
  simpa using h.length_le.2

theorem step {up left diagonal : Nat} (hup : IsGap up as (bs ++ [d]))
    (hleft : IsGap left (as ++ [c]) bs) (hdiagonal : IsGap diagonal as bs) :
    IsGap (min (min (up + 1) (left + 1)) (diagonal + replaceCost c d)) (as ++ [c]) (bs ++ [d]) := by
  constructor
  . rcases min_choice (min (up + 1) (left + 1)) (diagonal + replaceCost c d) with h | h
    . rw [h]
      rcases min_choice (up + 1) (left + 1) with h | h
      . rw [h]
        exact hup.1.delete c
      . rw [h]
        exact hleft.1.insert d
    . rw [h]
      exact hdiagonal.1.replace c d
  . -- The last turn of an alignment leaves one of the three that are known.
    intro j h
    change Aligned j _ _ at h
    generalize has : as ++ [c] = as' at h
    generalize hbs : bs ++ [d] = bs' at h
    cases h with
    | nil => simp at has
    | insert h d' =>
      rcases List.append_inj' hbs rfl with ⟨rfl, _⟩
      subst has
      have := hleft.2 h
      omega
    | delete h c' =>
      rcases List.append_inj' has rfl with ⟨rfl, _⟩
      subst hbs
      have := hup.2 h
      omega
    | replace h c' d' =>
      rcases List.append_inj' has rfl with ⟨rfl, hc⟩
      rcases List.append_inj' hbs rfl with ⟨rfl, hd⟩
      cases hc
      cases hd
      have := hdiagonal.2 h
      omega

end IsGap

/-- The gaps from `as` to `front` with ever more of `back`. -/
inductive IsRow (as : List Char) : List Char → List Char → List Nat → Prop where
  | nil (front : List Char) : IsRow as front [] []
  | cons {front d back k row} (hk : IsGap k as (front ++ [d]))
      (hrow : IsRow as (front ++ [d]) back row) : IsRow as front (d :: back) (k :: row)

namespace IsRow

variable {front back : List Char} {row : List Nat}

theorem firstRow (front back : List Char) :
    IsRow [] front back (List.range' (front.length + 1) back.length) := by
  induction back generalizing front with
  | nil => exact .nil front
  | cons d back ih =>
    have hk := IsGap.nil_left (front ++ [d])
    have hrow := ih (front ++ [d])
    rw [List.length_append, List.length_singleton] at hk hrow
    exact .cons hk hrow

theorem go {left diagonal : Nat} (hrow : IsRow as front back row)
    (hleft : IsGap left (as ++ [c]) front) (hdiagonal : IsGap diagonal as front) :
    IsRow (as ++ [c]) front back (nextRow.go c left diagonal back row) := by
  induction hrow generalizing left diagonal with
  | nil front => exact .nil front
  | cons hk _ ih =>
    have hentry := hk.step hleft hdiagonal
    exact .cons hentry (ih hentry hk)

theorem getLastD (hrow : IsRow as front back row) (hk : IsGap k as front) :
    IsGap ((k :: row).getLastD 0) as (front ++ back) := by
  induction hrow generalizing k with
  | nil => simpa using hk
  | cons hk' _ ih => simpa using ih hk'

end IsRow

def IsFullRow (as target : List Char) (row : List Nat) : Prop :=
  ∃ k ks, row = k :: ks ∧ IsGap k as [] ∧ IsRow as [] target ks

theorem isFullRow_firstRow (target : List Char) : IsFullRow [] target (firstRow target) := by
  refine ⟨0, _, ?_, .nil_left [], .firstRow [] target⟩
  rw [firstRow, List.range_eq_range', List.range'_succ]
  rfl

theorem isFullRow_nextRow {target : List Char} {row : List Nat} (h : IsFullRow as target row)
    (c : Char) : IsFullRow (as ++ [c]) target (nextRow c target row) := by
  rcases h with ⟨k, ks, rfl, hk, hks⟩
  have hfirst : IsGap (k + 1) (as ++ [c]) [] := by
    have heq := hk.unique (IsGap.nil_right as)
    simpa [heq] using IsGap.nil_right (as ++ [c])
  exact ⟨k + 1, _, rfl, hfirst, hks.go hfirst hk⟩

theorem isGap_editDistance (source target : List Char) :
    IsGap (editDistance source target) source target := by
  have hrows (as cs : List Char) (row : List Nat) (h : IsFullRow as target row) :
      IsFullRow (as ++ cs) target (cs.foldl (fun row c => nextRow c target row) row) := by
    induction cs generalizing as row with
    | nil => simpa using h
    | cons c cs ih => simpa using ih _ _ (isFullRow_nextRow h c)
  rcases hrows [] source _ (isFullRow_firstRow target) with ⟨k, ks, hrow, hk, hks⟩
  rw [editDistance, hrow]
  exact hks.getLastD hk

theorem isLeast_editDistance (source target : List Char) :
    IsLeast {k | EditScript k source target} (editDistance source target) := by
  rcases isGap_editDistance source target with ⟨haligned, hleast⟩
  refine ⟨haligned.script, ?_⟩
  intro k h
  rcases Aligned.exists_of_script h with ⟨k', hk', haligned'⟩
  exact Nat.le_trans (hleast haligned') hk'

end QueryLinker.Text
