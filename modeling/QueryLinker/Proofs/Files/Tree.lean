import Mathlib.Tactic.Common
import QueryLinker.Files.Tree
import QueryLinker.Proofs.Except

/-!
This module contains what writing a file and making a directory change in a tree: a directory that
is there stays, and a way that could be followed still leads to the same place.
-/

namespace QueryLinker

theorem Keyed.lookup_put {κ α : Type} [BEq κ] [LawfulBEq κ] (key other : κ) (a : α)
    (entries : List (κ × α)) :
    (Keyed.put key a entries).lookup other =
      if other == key then some a else entries.lookup other := by
  induction entries with
  | nil =>
    rw [Keyed.put, List.lookup_cons]
    split <;> simp_all
  | cons entry entries ih =>
    rcases entry with ⟨k, b⟩
    rw [Keyed.put]
    split
    next hk =>
      rw [eq_of_beq hk, List.lookup_cons, List.lookup_cons]
      split <;> simp_all
    next hk =>
      rw [List.lookup_cons, List.lookup_cons, ih]
      split <;> split <;> simp_all

theorem lookup_eq_some_iff_mem {α : Type} {entries : List (String × α)}
    (hnodup : (entries.map (·.1)).Nodup) {n : String} {a : α} :
    entries.lookup n = some a ↔ (n, a) ∈ entries := by
  induction entries with
  | nil => simp
  | cons entry entries ih =>
    rcases entry with ⟨m, b⟩
    rw [List.map_cons, List.nodup_cons] at hnodup
    rw [List.mem_cons, ← ih hnodup.2, List.lookup_cons, Prod.mk.injEq]
    by_cases hn : n = m
    . subst hn
      have hnone : entries.lookup n = none := by
        rw [List.lookup_eq_none_iff]
        intro entry hentry
        simpa using fun heq => hnodup.1 (List.mem_map.mpr ⟨entry, hentry, heq.symm⟩)
      simp [hnone, eq_comm]
    . have : (n == m) = false := by simpa using hn
      simp [hn, this]

namespace FileTree

variable {t u : FileTree} {names way : List String} {entries : List (String × FileTree)}

theorem at?_cons (t : FileTree) (name : String) (names : List String) :
    t.at? (name :: names) = (t.entry? name).bind fun u => u.at? names := by
  rw [at?]

theorem at?_append (t : FileTree) (names more : List String) :
    t.at? (names ++ more) = (t.at? names).bind fun u => u.at? more := by
  induction names generalizing t with
  | nil => rw [List.nil_append, at?, Option.bind_some]
  | cons name names ih =>
    rw [List.cons_append, at?_cons, at?_cons, Option.bind_assoc]
    congr 1
    funext u
    exact ih u

theorem at?_entry (h : t.at? names = some (.directory entries)) (name : String) :
    t.at? (names ++ [name]) = entries.lookup name := by
  rw [at?_append, h, Option.bind_some, at?_cons, entry?]
  change (entries.lookup name).bind (fun u => u.at? []) = _
  cases entries.lookup name <;> simp [at?]

def Grows (t u : FileTree) : Prop :=
  ∀ {names entries}, t.at? names = some (.directory entries) →
    ∃ later, u.at? names = some (.directory later) ∧
      ∀ name, (entries.lookup name).isSome → (later.lookup name).isSome

theorem Grows.refl (t : FileTree) : t.Grows t :=
  fun {_ entries} h => ⟨entries, h, fun _ hname => hname⟩

theorem Grows.trans {v : FileTree} (h : t.Grows u) (h' : u.Grows v) : t.Grows v := by
  intro names entries hat
  rcases h hat with ⟨between, hbetween, hkept⟩
  rcases h' hbetween with ⟨later, hlater, hkept'⟩
  exact ⟨later, hlater, fun name hname => hkept' name (hkept name hname)⟩

theorem grows_put (new : FileTree) (h : ∀ entries, t.at? names ≠ some (.directory entries)) :
    t.Grows (t.put new names) := by
  induction names generalizing t with
  | nil =>
    intro way entries hat
    cases t with
    | directory own => exact absurd rfl (h own)
    | file content =>
      cases way with
      | nil => cases hat
      | cons name way => cases hat
  | cons name names ih =>
    intro way entries hat
    cases way with
    | nil =>
      cases hat
      refine ⟨_, rfl, fun other hother => ?_⟩
      rw [Keyed.lookup_put]
      split
      . rfl
      . exact hother
    | cons first way =>
      rw [at?_cons] at hat
      rcases Option.bind_eq_some_iff.mp hat with ⟨u, hentry, hu⟩
      have hput : entry? (t.put new (name :: names)) first =
          if first == name then some (((t.entry? name).getD empty).put new names)
          else t.entry? first :=
        Keyed.lookup_put _ _ _ _
      rw [at?_cons, hput]
      split
      next heq =>
        cases eq_of_beq heq
        rw [hentry, Option.getD_some, Option.bind_some]
        refine ih (fun own hown => h own ?_) hu
        rw [at?_cons, hentry, Option.bind_some, hown]
      next =>
        rw [hentry, Option.bind_some]
        exact ⟨entries, hu, fun _ hname => hname⟩

theorem at?_put (new : FileTree) (name : String) (h : t.at? names = some (.directory entries)) :
    (t.put new (names ++ [name])).at? names = some (.directory (Keyed.put name new entries)) := by
  induction names generalizing t with
  | nil =>
    cases h
    rfl
  | cons first names ih =>
    rw [at?_cons] at h
    rcases Option.bind_eq_some_iff.mp h with ⟨u, hentry, hu⟩
    have hput : entry? (t.put new (first :: names ++ [name])) first =
        some (u.put new (names ++ [name])) := by
      refine (Keyed.lookup_put _ _ _ _).trans ?_
      rw [if_pos (beq_self_eq_true first), hentry, Option.getD_some]
      rfl
    rw [at?_cons, hput, Option.bind_some, ih hu]

theorem follow_append (t : FileTree) (way names more : List String) :
    t.follow way (names ++ more) = (t.follow way names).bind fun found => t.follow found more := by
  induction names generalizing way with
  | nil => rw [List.nil_append, follow]; rfl
  | cons name names ih =>
    rw [List.cons_append, follow, follow]
    split
    . split
      . exact ih way
      . split
        . exact ih _
        . split
          . rfl
          . split
            . exact ih _
            . rfl
    . rfl
    . rfl

theorem Grows.follow (h : t.Grows u) {found : List String}
    (hfollow : t.follow way names = .ok found) : u.follow way names = .ok found := by
  induction names generalizing way with
  | nil => exact hfollow
  | cons name names ih =>
    rw [FileTree.follow] at hfollow ⊢
    split at hfollow
    next entries hat =>
      rcases h hat with ⟨later, hlater, hkept⟩
      rw [hlater]
      dsimp only
      split at hfollow
      next hdot => rw [if_pos hdot, ih hfollow]
      next hdot =>
        rw [if_neg hdot]
        split at hfollow
        next hdots => rw [if_pos hdots, ih hfollow]
        next hdots =>
          rw [if_neg hdots]
          split at hfollow
          . cases hfollow
          next hlong =>
            rw [if_neg hlong]
            split at hfollow
            next hname => rw [if_pos (hkept name hname), ih hfollow]
            next => cases hfollow
    . cases hfollow
    . cases hfollow

theorem at?_put_self (new : FileTree) (name : String)
    (h : t.at? names = some (.directory entries)) :
    (t.put new (names ++ [name])).at? (names ++ [name]) = some new := by
  rw [at?_entry (at?_put new name h), Keyed.lookup_put, if_pos (beq_self_eq_true name)]

theorem exists_directory_of_follow {found : List String} (h : t.follow way names = .ok found)
    (hat : t.at? found.reverse = some (.directory entries)) :
    ∃ own, t.at? way.reverse = some (.directory own) := by
  cases names with
  | nil =>
    cases h
    exact ⟨entries, hat⟩
  | cons name names =>
    rw [follow] at h
    split at h
    next own hown => exact ⟨own, hown⟩
    . cases h
    . cases h

theorem makeAlong_of_follow {found : List String} (hdot : "." ∉ names)
    (h : t.follow way names = .ok found)
    (hat : t.at? found.reverse = some (.directory entries)) : t.makeAlong way names = .ok t := by
  induction names generalizing way with
  | nil => rw [makeAlong]
  | cons name names ih =>
    rw [List.mem_cons, not_or] at hdot
    rw [follow] at h
    split at h
    next own hown =>
      rw [if_neg (by simpa using fun heq => hdot.1 heq.symm)] at h
      rw [makeAlong]
      split at h
      next hdots => rw [if_pos hdots, ih hdot.2 h]
      next hdots =>
        rw [if_neg hdots]
        split at h
        . cases h
        next hlong =>
          dsimp only
          rw [if_neg hlong]
          split at h
          next hname =>
            rcases exists_directory_of_follow h hat with ⟨next, hnext⟩
            rw [hnext]
            exact ih hdot.2 h
          next => cases h
    . cases h
    . cases h

theorem eq_nil_of_follow {found : List String} (h : t.follow way names = .ok found)
    (hempty : t.at? way.reverse = some (.directory [])) (hdots : ".." ∉ names)
    (hdot : "." ∉ names) : names = [] := by
  cases names with
  | nil => rfl
  | cons name names =>
    rw [List.mem_cons, not_or] at hdots hdot
    rw [follow, hempty] at h
    dsimp only at h
    rw [if_neg (by simpa using Ne.symm hdot.1), if_neg (by simpa using Ne.symm hdots.1)] at h
    split at h <;> cases h

theorem makeAlong_spec {own : List (String × FileTree)} (hdots : ".." ∉ names) (hdot : "." ∉ names)
    (hat : t.at? way.reverse = some (.directory own)) (h : t.makeAlong way names = .ok u) :
    t.Grows u ∧ ∃ found entries, u.follow way names = .ok found ∧
      u.at? found.reverse = some (.directory entries) ∧ (entries = [] ∨ u = t) := by
  induction names generalizing t way own with
  | nil =>
    cases h
    exact ⟨Grows.refl _, way, own, rfl, hat, .inr rfl⟩
  | cons name names ih =>
    rw [List.mem_cons, not_or] at hdots hdot
    have hplain : (name == ".") = false ∧ (name == "..") = false := by
      simp [Ne.symm hdot.1, Ne.symm hdots.1]
    have hreverse : (name :: way).reverse = way.reverse ++ [name] := List.reverse_cons
    rw [makeAlong, hplain.2, if_neg (by simp)] at h
    dsimp only at h
    split at h
    . cases h
    next hlong =>
      -- The last step of the way is taken in the tree that is made, where the name is an entry.
      have hstep {v : FileTree} {more : List (String × FileTree)} (hgrows : v.Grows u)
          (hown : v.at? way.reverse = some (.directory more)) (hname : (more.lookup name).isSome) :
          u.follow way (name :: names) = u.follow (name :: way) names := by
        rcases hgrows hown with ⟨later, hlater, hkept⟩
        rw [follow, hlater]
        dsimp only
        rw [hplain.1, hplain.2, if_neg (by simp), if_neg (by simp), if_neg hlong,
          if_pos (hkept name hname)]
      split at h
      next next hnext =>
        rcases ih hdots.2 hdot.2 hnext h with ⟨hgrows, found, entries, hfollow, hfound, hentries⟩
        refine ⟨hgrows, found, entries, ?_, hfound, hentries⟩
        rw [hreverse, at?_entry hat] at hnext
        rw [hstep hgrows hat (by simp [hnext]), hfollow]
      next => cases h
      next hnone =>
        have hmade : (t.put empty (name :: way).reverse).at? (name :: way).reverse =
            some (.directory []) := by
          rw [hreverse]
          exact at?_put_self empty name hat
        rcases ih hdots.2 hdot.2 hmade h with ⟨hgrows, found, entries, hfollow, hfound, hentries⟩
        have hfirst : t.Grows (t.put empty (name :: way).reverse) :=
          grows_put empty fun entries hentries => by rw [hnone] at hentries; cases hentries
        have hown : (t.put empty (name :: way).reverse).at? way.reverse =
            some (.directory (Keyed.put name empty own)) := by
          rw [hreverse]
          exact at?_put empty name hat
        refine ⟨hfirst.trans hgrows, found, entries, ?_, hfound, .inl ?_⟩
        . rw [hstep hgrows hown (by rw [Keyed.lookup_put, if_pos (beq_self_eq_true name)]; rfl),
            hfollow]
        . rcases hentries with rfl | rfl
          . rfl
          . cases eq_nil_of_follow hfollow hmade hdots.2 hdot.2
            cases hfollow
            rw [hmade] at hfound
            cases hfound
            rfl

end FileTree

end QueryLinker
