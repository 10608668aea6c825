import QueryLinker.Link.Resolver

/-!
This module contains the laws of appending what is new: names that are appended bit by bit are the
names appended at once, each at its first place.
-/

namespace QueryLinker

theorem appendNew.go_congr {seen seen' : Std.HashSet String}
    (h : ∀ x, seen.contains x = seen'.contains x) (ys : List String) :
    go seen ys = go seen' ys := by
  induction ys generalizing seen seen' with
  | nil => simp [go]
  | cons y ys ih =>
    simp only [go, h y]
    split
    . exact ih h
    . congr 1
      apply ih
      intro x
      simp [Std.HashSet.contains_insert, h x]

@[simp]
theorem appendNew_nil (xs : List String) : appendNew xs [] = xs := by
  simp [appendNew, appendNew.go]

theorem appendNew_cons (xs : List String) (y : String) (ys : List String) :
    appendNew xs (y :: ys) = if y ∈ xs then appendNew xs ys else appendNew (xs ++ [y]) ys := by
  simp only [appendNew, appendNew.go, Std.HashSet.contains_ofList, List.contains_iff_mem]
  split
  . rfl
  . rw [List.append_assoc, List.singleton_append]
    congr 2
    apply appendNew.go_congr
    intro x
    simp only [Std.HashSet.contains_ofList, Std.HashSet.contains_insert, List.contains_append,
      List.contains_cons, List.contains_nil, Bool.or_false]
    rw [Bool.or_comm, BEq.comm]

theorem appendNew_append (xs ys zs : List String) :
    appendNew xs (ys ++ zs) = appendNew (appendNew xs ys) zs := by
  induction ys generalizing xs with
  | nil => simp
  | cons y ys ih =>
    rw [List.cons_append, appendNew_cons, appendNew_cons]
    split
    . exact ih xs
    . exact ih (xs ++ [y])

@[simp]
theorem mem_appendNew {xs ys : List String} {x : String} :
    x ∈ appendNew xs ys ↔ x ∈ xs ∨ x ∈ ys := by
  induction ys generalizing xs with
  | nil => simp
  | cons y ys ih =>
    rw [appendNew_cons]
    split
    next hy =>
      rw [ih, List.mem_cons]
      constructor
      . rintro (hx | hx) <;> simp [hx]
      . rintro (hx | rfl | hx) <;> simp [*]
    next => simp [ih, or_assoc]

theorem appendNew_filter (xs ys : List String) (y : String) (hy : y ∈ xs) :
    appendNew xs (ys.filter (· != y)) = appendNew xs ys := by
  induction ys generalizing xs with
  | nil => simp
  | cons z zs ih =>
    by_cases hz : z = y
    . subst hz
      simp [appendNew_cons, hy, ih]
    . have hz' : (z != y) = true := by simp [hz]
      rw [List.filter_cons, if_pos hz', appendNew_cons, appendNew_cons, ih _ hy]
      rw [ih _ (List.mem_append_left _ hy)]

@[elab_as_elim]
theorem eraseDups_induction {motive : List String → Prop} (nil : motive [])
    (cons : ∀ y ys, motive (ys.filter (· != y)) → motive (y :: ys)) (ys : List String) :
    motive ys := by
  induction hlen : ys.length using Nat.strongRecOn generalizing ys with
  | ind len ih =>
    cases ys with
    | nil => exact nil
    | cons y ys =>
      have hlt : (ys.filter (· != y)).length < len := by
        rw [← hlen, List.length_cons]
        exact Nat.lt_succ_of_le (List.length_filter_le _ _)
      exact cons y ys (ih _ hlt _ rfl)

theorem appendNew_eraseDups (xs ys : List String) :
    appendNew xs ys.eraseDups = appendNew xs ys := by
  induction ys using eraseDups_induction generalizing xs with
  | nil => simp
  | cons y ys ih =>
    rw [List.eraseDups_cons, appendNew_cons, appendNew_cons]
    split
    next hy =>
      rw [← appendNew_filter xs ys y hy, ← ih xs]
      rfl
    next hy =>
      rw [← appendNew_filter (xs ++ [y]) ys y (by simp), ← ih (xs ++ [y])]
      rfl

theorem nodup_eraseDups (ys : List String) : ys.eraseDups.Nodup := by
  induction ys using eraseDups_induction with
  | nil => simp
  | cons y ys ih =>
    rw [List.eraseDups_cons, List.nodup_cons]
    exact ⟨by simp, ih⟩

theorem eraseDups_filter (p : String → Bool) (ys : List String) :
    (ys.filter p).eraseDups = ys.eraseDups.filter p := by
  induction ys using eraseDups_induction with
  | nil => simp
  | cons y ys ih =>
    have ih : ((ys.filter (! · == y)).filter p).eraseDups =
        (ys.filter (! · == y)).eraseDups.filter p := ih
    rw [List.eraseDups_cons, List.filter_cons, List.filter_cons, ← ih]
    split
    . rw [List.eraseDups_cons, List.filter_filter, List.filter_filter]
      simp only [Bool.and_comm]
    next hy =>
      rw [List.filter_filter]
      congr 1
      apply List.filter_congr
      intro z _
      by_cases hz : z = y
      . simp [hz, hy]
      . simp [hz]

theorem appendNew_of_nodup {xs ys : List String} (h : (xs ++ ys).Nodup) :
    appendNew xs ys = xs ++ ys := by
  induction ys generalizing xs with
  | nil => simp
  | cons y ys ih =>
    have hy : y ∉ xs := by
      intro hy
      exact (List.nodup_append.mp h).2.2 y hy y (by simp) rfl
    rw [appendNew_cons, if_neg hy, ih (by simpa using h), List.append_assoc, List.singleton_append]

theorem appendNew_nil_left (ys : List String) : appendNew [] ys = ys.eraseDups := by
  rw [← appendNew_eraseDups, appendNew_of_nodup (by simpa using nodup_eraseDups ys)]
  rfl

end QueryLinker
