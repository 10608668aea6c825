import QueryLinker.Proofs.Link.Reported
import QueryLinker.Proofs.Text.EditScript

/-!
This module contains that suggestions are true nearest names: what is suggested for an unknown name
is the first of the known names that the fewest edits turn into it. So the suggestions of a pass are
fragments that can be used.
-/

namespace QueryLinker

open Graphql Text

/-- The name is the first of those that the fewest edits, fewer than the limit, turn into `name`. -/
def IsFirstNearest (known : List String) (limit : Int) (name best : String) : Prop :=
  ∃ front back k, known = front ++ best :: back ∧
    IsLeast {j | EditScript j best.toList name.toList} k ∧ (k : Int) < limit ∧
    (∀ n ∈ front, ∀ j, EditScript j n.toList name.toList → k < j) ∧
    ∀ n ∈ back, ∀ j, EditScript j n.toList name.toList → k ≤ j

namespace IsFirstNearest

variable {known : List String} {limit : Int} {name best best' : String}

theorem mem (h : IsFirstNearest known limit name best) : best ∈ known := by
  rcases h with ⟨front, back, k, rfl, _⟩
  simp

theorem exists_script (h : IsFirstNearest known limit name best) :
    ∃ k, EditScript k best.toList name.toList ∧ (k : Int) < limit := by
  rcases h with ⟨front, back, k, _, hk, hlimit, _⟩
  exact ⟨k, hk.1, hlimit⟩

theorem unique (h : IsFirstNearest known limit name best)
    (h' : IsFirstNearest known limit name best') : best = best' := by
  rcases h with ⟨front, back, k, rfl, ⟨hk, _⟩, _, hfront, hback⟩
  rcases h' with ⟨front', back', k', hknown, ⟨hk', _⟩, _, hfront', hback'⟩
  -- If one were further on, it would have to be both nearer than the other and not nearer.
  rcases List.append_eq_append_iff.mp hknown with ⟨mid, rfl, hmid⟩ | ⟨mid, rfl, hmid⟩
  . rcases List.cons_eq_append_iff.mp hmid with ⟨rfl, heq⟩ | ⟨mid, rfl, rfl⟩
    . simp at heq
      simp [heq]
    . have := hfront' best (by simp) k hk
      have := hback best' (by simp) k' hk'
      omega
  . rcases List.cons_eq_append_iff.mp hmid with ⟨rfl, heq⟩ | ⟨mid, rfl, rfl⟩
    . simp at heq
      simp [heq]
    . have := hfront best' (by simp) k' hk'
      have := hback' best (by simp) k hk
      omega

end IsFirstNearest

namespace closestName

variable {name best n : String} {limit : Int} {known names : List String} {k : Nat}

def distance (name n : String) : Nat :=
  editDistance name.toList n.toList

theorem isLeast_distance (name n : String) :
    IsLeast {j | EditScript j n.toList name.toList} (distance name n) := by
  rcases isLeast_editDistance name.toList n.toList with ⟨hscript, hleast⟩
  refine ⟨hscript.symm, ?_⟩
  intro j hj
  exact hleast hj.symm

theorem le_script (h : k ≤ distance name n) (j : Nat) (hj : EditScript j n.toList name.toList) :
    k ≤ j :=
  Nat.le_trans h ((isLeast_distance name n).2 hj)

inductive Found (name : String) (limit : Int) : List String → Option String × Int → Prop where
  | nothing {names : List String} (h : ∀ n ∈ names, limit ≤ distance name n) :
      Found name limit names (none, limit)
  | nearest {front : List String} {best : String} {back : List String}
      (hlimit : distance name best < limit)
      (hfront : ∀ n ∈ front, distance name best < distance name n)
      (hback : ∀ n ∈ back, distance name best ≤ distance name n) :
      Found name limit (front ++ best :: back) (some best, distance name best)

theorem Found.step {found : Option String × Int} (h : Found name limit names found) (n : String) :
    Found name limit (names ++ [n]) (closestName.step name found n) := by
  change Found name limit (names ++ [n])
    (if (distance name n : Int) < found.2 then (some n, (distance name n : Int)) else found)
  cases h with
  | nothing h =>
    dsimp only
    split
    next hlt =>
      apply Found.nearest hlt _ (by simp)
      intro n' hn'
      have := h n' hn'
      omega
    next hle =>
      apply Found.nothing
      rw [List.forall_mem_append, List.forall_mem_singleton]
      exact ⟨h, by omega⟩
  | @nearest front best back hlimit hfront hback =>
    dsimp only
    split
    next hlt =>
      apply Found.nearest (by omega) _ (by simp)
      intro n' hn'
      simp only [List.mem_append, List.mem_cons] at hn'
      rcases hn' with hn' | rfl | hn'
      . have := hfront n' hn'
        omega
      . omega
      . have := hback n' hn'
        omega
    next hle =>
      rw [List.append_assoc, List.cons_append]
      apply Found.nearest hlimit hfront
      rw [List.forall_mem_append, List.forall_mem_singleton]
      exact ⟨hback, by omega⟩

theorem found_foldl {found : Option String × Int} (h : Found name limit names found)
    (known : List String) :
    Found name limit (names ++ known) (known.foldl (closestName.step name) found) := by
  induction known generalizing names found with
  | nil => simpa using h
  | cons n known ih => simpa using ih (h.step n)

theorem found (known : List String) (limit : Int) (name : String) :
    Found name limit known (known.foldl (closestName.step name) (none, limit)) := by
  have hnothing : Found name limit [] (none, limit) := .nothing (by simp)
  exact found_foldl hnothing known

theorem eq_none_or (known : List String) (limit : Int) (name : String) :
    (closestName known limit name = none ∧ ∀ n ∈ known, limit ≤ distance name n) ∨
      ∃ best, closestName known limit name = some best ∧
        IsFirstNearest known limit name best := by
  have h := found known limit name
  unfold closestName
  generalize known.foldl (closestName.step name) (none, limit) = state at h
  cases h with
  | nothing h => exact .inl ⟨rfl, h⟩
  | @nearest front best back hlimit hfront hback =>
    refine .inr ⟨best, rfl, front, back, _, rfl, isLeast_distance name best, hlimit, ?_, ?_⟩
    . intro n hn
      exact le_script (hfront n hn)
    . intro n hn
      exact le_script (hback n hn)

theorem eq_some_iff :
    closestName known limit name = some best ↔ IsFirstNearest known limit name best := by
  rcases eq_none_or known limit name with ⟨hnone, hfar⟩ | ⟨best', hsome, hnearest⟩
  . rw [hnone]
    constructor
    . simp
    . intro h
      rcases h.exists_script with ⟨k, hk, hlimit⟩
      have := hfar best h.mem
      have := (isLeast_distance name best).2 hk
      omega
  . rw [hsome, Option.some.injEq]
    constructor
    . rintro rfl
      exact hnearest
    . exact hnearest.unique

theorem eq_none_iff :
    closestName known limit name = none ↔
      ∀ n ∈ known, ∀ j, EditScript j n.toList name.toList → limit ≤ j := by
  rcases eq_none_or known limit name with ⟨hnone, hfar⟩ | ⟨best, hsome, hnearest⟩
  . rw [hnone]
    simp only [true_iff]
    intro n hn j hj
    have := hfar n hn
    have := (isLeast_distance name n).2 hj
    omega
  . rw [hsome]
    simp only [reduceCtorEq, false_iff]
    intro hfar
    rcases hnearest.exists_script with ⟨k, hk, hlimit⟩
    have := hfar best hnearest.mem k hk
    omega

end closestName

theorem Explores.exists_of_unknown {c : WalkContext} {path failed : List String} {site : Site}
    {spreads : List FragmentSpread} {r : Exploration} (h : Explores c path failed site spreads r)
    {p : Problem} (hp : p ∈ r.problems) (hkind : p.kind = .unknownFragment) :
    ∃ spread site, c.table.get? spread.name.value = none ∧
      p = .unknownFragment c.operation spread site
        (closestName c.known c.suggestionLimit spread.name.value) := by
  induction h with
  | nil => simp at hp
  | cycle _ _ ih =>
    rcases List.mem_cons.mp hp with rfl | hp
    . cases hkind
    . exact ih hp
  | again _ _ _ ih => exact ih hp
  | unknown _ _ hget _ ih =>
    rcases List.mem_cons.mp hp with rfl | hp
    . exact ⟨_, _, hget, rfl⟩
    . exact ih hp
  | enter _ _ _ _ _ ihinner ihrest =>
    rcases List.mem_append.mp hp with hp | hp
    . exact ihinner hp
    . exact ihrest hp

open DefinitionTable

variable {s : Schema} {docs : List SourceDocument} {settings : PassSettings} {p : Problem}

theorem Reports.exists_of_unknown (h : Reports s docs settings p)
    (hkind : p.kind = .unknownFragment) :
    ∃ o spread site, (ofDocuments s docs).get? spread.name.value = none ∧
      p = .unknownFragment o spread site (closestName (ofDocuments s docs).fragmentNames
        settings.suggestionLimit spread.name.value) := by
  rcases h.documented_or_stems with ⟨d, _, hdocumented⟩ | ⟨o, _, hstems⟩
  . cases hdocumented <;> cases hkind
  . cases hstems with
    | later => cases hkind
    | checking => cases hkind
    | resolving hp =>
      rcases Resolver.exists_explores (.ofTable _ settings.suggestionLimit) (ofDocuments s docs) o
        with ⟨e, he⟩
      rw [resolution, Resolver.problems_of_explores he (.nil _)] at hp
      exact ⟨o, he.exists_of_unknown hp hkind⟩

theorem Problem.closest?_of_context {o : Operation} {spread : FragmentSpread} {site : Site}
    {closest? : Option String} {closest : String}
    (h : ("closestFragment", .str closest) ∈
      (Problem.unknownFragment o spread site closest?).report.context) :
    closest? = some closest := by
  change _ ∈ [("fragmentName", _), ("closestFragment", .ofOption closest?), ("operationName", _)] ++
    otherFile o.site.file site.file at h
  rcases List.mem_append.mp h with h | h
  . cases closest? with
    | none => simp [Json.ofOption] at h
    | some c =>
      simp only [Json.ofOption, List.mem_cons, List.not_mem_nil, or_false,
        Prod.mk.injEq, String.reduceEq, true_and, false_and, false_or, Json.str.injEq] at h
      rw [← LooseText.string?_ofString c, ← h, LooseText.string?_ofString]
  . unfold otherFile at h
    split at h
    . simp at h
    . simp at h

theorem DefinitionTable.usable_of_mem {n : String} (hn : n ∈ (ofDocuments s docs).fragmentNames) :
    (∃ f, (ofDocuments s docs).get? n = some f) ∧
      (ofDocuments s docs).conflicts.lookup n = none := by
  have hrepresents := ofDocuments_represents s docs
  cases hget : (ofDocuments s docs).get? n with
  | none => exact absurd hn (Walk.not_mem_map_fst_of_lookup hget)
  | some f =>
    refine ⟨⟨f, rfl⟩, ?_⟩
    rw [← Option.not_isSome_iff_eq_none, hrepresents.conflicts]
    exact ((hrepresents.get? n f).mp hget).2

/--
What is suggested is the first of the known names that the fewest edits turn into the unknown one,
and nothing is suggested if all of them are too far away. In a pass, a suggested fragment can be
used, is not the missing one, and is fewer edits away than the limit.
-/
theorem suggestions_nearest :
    (∀ known limit name,
      (closestName known limit name = none ↔
        ∀ n ∈ known, ∀ k, EditScript k n.toList name.toList → limit ≤ k) ∧
      ∀ best, closestName known limit name = some best ↔
        IsFirstNearest known limit name best) ∧
    ∀ s docs settings p closest, Reports s docs settings p →
      p.report.kind = .unknownFragment →
      ("closestFragment", .str closest) ∈ p.report.context →
      closest ∈ (ofDocuments s docs).fragmentNames ∧
        (ofDocuments s docs).conflicts.lookup closest = none ∧
        ∃ missing, ("fragmentName", .str missing) ∈ p.report.context ∧ closest ≠ missing ∧
          ∃ k, EditScript k closest.toList missing.toList ∧
            (k : Int) < settings.suggestionLimit := by
  refine ⟨fun known limit name => ?_, ?_⟩
  . exact ⟨closestName.eq_none_iff, fun best => closestName.eq_some_iff⟩
  intro s docs settings p closest hp hkind hcontext
  rcases hp.exists_of_unknown hkind with ⟨o, spread, site, hmissing, rfl⟩
  have hnearest := closestName.eq_some_iff.mp (Problem.closest?_of_context hcontext)
  rcases usable_of_mem hnearest.mem with ⟨⟨f, hget⟩, hconflict⟩
  refine ⟨hnearest.mem, hconflict, spread.name.value, ?_, ?_, hnearest.exists_script⟩
  . exact List.mem_append_left _ (List.mem_cons_self ..)
  . rintro rfl
    simp [hmissing] at hget

end QueryLinker
