import QueryLinker.Proofs.Link.Order

/-!
This module contains what a table keeps of a sequence of fragments: the names that are still usable,
in the order of their first fragments, the texts of each name in conflict, and which fragment each
further one is reported against.
-/

namespace QueryLinker

section

variable {α : Type} (key : α → String)

theorem eraseDupsBy_key_cons (a : α) (as : List α) :
    (a :: as).eraseDupsBy (fun x y => key x == key y) =
      a :: (as.filter fun x => key x != key a).eraseDupsBy fun x y => key x == key y := by
  rw [List.eraseDupsBy_cons]
  congr 3
  funext x
  cases hx : key x == key a <;> simp [bne, hx]

theorem eraseDupsBy_append_singleton (as : List α) (b : α) :
    (as ++ [b]).eraseDupsBy (fun x y => key x == key y) =
      if (as.eraseDupsBy fun x y => key x == key y).all (fun a => key a != key b) then
        as.eraseDupsBy (fun x y => key x == key y) ++ [b]
      else as.eraseDupsBy fun x y => key x == key y := by
  match as with
  | [] => simp [eraseDupsBy_key_cons]
  | a :: as =>
    have ih := eraseDupsBy_append_singleton (as.filter fun x => key x != key a) b
    rw [List.cons_append, eraseDupsBy_key_cons, eraseDupsBy_key_cons, List.all_cons,
      List.filter_append]
    by_cases hb : key a = key b
    . have hdrop : [b].filter (fun x => key x != key a) = [] := by simp [hb]
      rw [hdrop, List.append_nil, if_neg (by simp [hb])]
    . have hkeep : [b].filter (fun x => key x != key a) = [b] := by simp [Ne.symm hb]
      have hother : (key a != key b) = true := by simpa using hb
      rw [hkeep, ih, hother, Bool.true_and]
      split <;> rfl
termination_by as.length
decreasing_by
  simp only [List.length_cons]
  exact Nat.lt_succ_of_le (List.length_filter_le _ as)

theorem find?_eraseDupsBy (p : String → Bool) (as : List α) :
    (as.eraseDupsBy fun x y => key x == key y).find? (fun a => p (key a)) =
      as.find? fun a => p (key a) := by
  match as with
  | [] => simp
  | a :: as =>
    have ih := find?_eraseDupsBy p (as.filter fun x => key x != key a)
    rw [eraseDupsBy_key_cons, List.find?_cons, List.find?_cons, ih, List.find?_filter]
    cases hp : p (key a) with
    | true => rfl
    | false =>
      dsimp only
      congr 1
      funext x
      by_cases hx : key x = key a
      . simp [hx, hp]
      . simp [hx]
termination_by as.length
decreasing_by
  simp only [List.length_cons]
  exact Nat.lt_succ_of_le (List.length_filter_le _ as)

end

theorem eraseDups_append_singleton (names : List String) (n : String) :
    (names ++ [n]).eraseDups =
      if n ∈ names then names.eraseDups else names.eraseDups ++ [n] := by
  rw [List.eraseDups_append]
  by_cases hn : n ∈ names
  . simp [List.removeAll, hn]
  . simp [List.removeAll, hn, List.eraseDups_cons]

namespace DefinitionTable

instance (fs : List Fragment) (n : String) : Decidable (Ambiguous fs n) :=
  inferInstanceAs (Decidable (∃ f ∈ fs, ∃ f' ∈ fs, f.name = n ∧ f'.name = n ∧ f.text ≠ f'.text))

def usableNames (fs : List Fragment) : List String :=
  (fs.map (·.name)).eraseDups.filter fun n => ¬ Ambiguous fs n

def bodiesOf (fs : List Fragment) (n : String) : List Fragment :=
  (fs.filter (·.name == n)).eraseDupsBy fun f f' => f.text == f'.text

def opponent? (fs : List Fragment) (f : Fragment) : Option Fragment :=
  fs.find? fun other => other.name == f.name && other.text != f.text

def addFragments (t : DefinitionTable) (fs : List Fragment) : DefinitionTable :=
  fs.foldl (fun t f => (t.addFragment f).1) t

section

variable {fs : List Fragment} {f : Fragment} {n : String}

theorem ambiguous_append_of_ne (hn : n ≠ f.name) : Ambiguous (fs ++ [f]) n ↔ Ambiguous fs n := by
  rw [ambiguous_append_singleton]
  simp [Ne.symm hn]

theorem mem_usableNames : n ∈ usableNames fs ↔ n ∈ fs.map (·.name) ∧ ¬ Ambiguous fs n := by
  simp [usableNames]

theorem Ambiguous.name_mem (h : Ambiguous fs n) : n ∈ fs.map (·.name) := by
  rcases h with ⟨g, hg, _, _, hname, _⟩
  exact hname ▸ List.mem_map_of_mem hg

theorem usableNames_append_again (hname : f.name ∈ fs.map (·.name))
    (hsame : Ambiguous (fs ++ [f]) f.name → Ambiguous fs f.name) :
    usableNames (fs ++ [f]) = usableNames fs := by
  unfold usableNames
  rw [List.map_append, List.map_singleton, eraseDups_append_singleton, if_pos hname]
  apply List.filter_congr
  intro n _
  rw [decide_eq_decide, not_iff_not]
  by_cases hn : n = f.name
  . subst hn
    exact ⟨hsame, fun h => h.append [f]⟩
  . exact ambiguous_append_of_ne hn

theorem usableNames_append_ambiguous (hname : f.name ∈ fs.map (·.name))
    (hother : Ambiguous (fs ++ [f]) f.name) :
    usableNames (fs ++ [f]) = (usableNames fs).filter (· != f.name) := by
  unfold usableNames
  rw [List.map_append, List.map_singleton, eraseDups_append_singleton, if_pos hname,
    List.filter_filter]
  apply List.filter_congr
  intro n _
  by_cases hn : n = f.name
  . subst hn
    simp [hother]
  . simp [hn, ambiguous_append_of_ne hn]

theorem usableNames_append_new (hname : f.name ∉ fs.map (·.name)) :
    usableNames (fs ++ [f]) = usableNames fs ++ [f.name] := by
  unfold usableNames
  have hnew : ¬ Ambiguous (fs ++ [f]) f.name := by
    rw [ambiguous_append_singleton]
    rintro (⟨g, hg, _, _, hgname, _⟩ | ⟨_, g, hg, hgname, _⟩)
    all_goals exact hname (hgname ▸ List.mem_map_of_mem hg)
  rw [List.map_append, List.map_singleton, eraseDups_append_singleton, if_neg hname,
    List.filter_append]
  congr 1
  . apply List.filter_congr
    intro n hn
    rw [decide_eq_decide, not_iff_not]
    apply ambiguous_append_of_ne
    rintro rfl
    exact hname (List.mem_eraseDups.mp hn)
  . simp [hnew]

theorem bodiesOf_append_of_ne (hn : n ≠ f.name) : bodiesOf (fs ++ [f]) n = bodiesOf fs n := by
  unfold bodiesOf
  rw [List.filter_append]
  simp [Ne.symm hn]

theorem bodiesOf_append_self (fs : List Fragment) (f : Fragment) :
    bodiesOf (fs ++ [f]) f.name =
      if (bodiesOf fs f.name).all (fun body => body.text != f.text) then
        bodiesOf fs f.name ++ [f]
      else bodiesOf fs f.name := by
  unfold bodiesOf
  rw [List.filter_append, show [f].filter (fun g => g.name == f.name) = [f] by simp]
  exact eraseDupsBy_append_singleton Fragment.text _ f

theorem bodiesOf_eq_singleton (hfirst : fs.find? (·.name == n) = some f) (hn : ¬ Ambiguous fs n) :
    bodiesOf fs n = [f] := by
  unfold bodiesOf
  have hname : f.name = n := by simpa using List.find?_some hfirst
  rw [← List.head?_filter, List.head?_eq_some_iff] at hfirst
  rcases hfirst with ⟨later, hfilter⟩
  rw [hfilter, eraseDupsBy_key_cons]
  have halike : later.filter (fun g => g.text != f.text) = [] := by
    rw [List.filter_eq_nil_iff]
    intro g hg hne
    have hmem : g ∈ fs.filter (·.name == n) := hfilter ▸ List.mem_cons_of_mem f hg
    have hmem' : f ∈ fs.filter (·.name == n) := hfilter ▸ List.mem_cons_self
    rw [List.mem_filter] at hmem hmem'
    exact hn ⟨g, hmem.1, f, hmem'.1, by simpa using hmem.2, hname, by simpa using hne⟩
  rw [halike, List.eraseDupsBy_nil]

theorem find?_bodiesOf (fs : List Fragment) (f : Fragment) :
    (bodiesOf fs f.name).find? (fun body => body.text != f.text) = opponent? fs f := by
  unfold bodiesOf opponent?
  rw [find?_eraseDupsBy Fragment.text (fun text => text != f.text), List.find?_filter]
  congr 1
  funext other
  cases other.name == f.name <;> cases other.text != f.text <;> rfl

theorem opponent?_isSome_iff :
    (opponent? fs f).isSome ↔ ∃ other ∈ fs, other.name = f.name ∧ other.text ≠ f.text := by
  simp [opponent?]

theorem opponent?_isSome_of_ambiguous (h : Ambiguous fs f.name) : (opponent? fs f).isSome := by
  rw [opponent?_isSome_iff]
  rcases h with ⟨g, hg, g', hg', hname, hname', hne⟩
  by_cases hgf : g.text = f.text
  . exact ⟨g', hg', hname', fun heq => hne (hgf.trans heq.symm)⟩
  . exact ⟨g, hg, hname, hgf⟩

theorem opponent?_eq_none_of_same (h : ¬ Ambiguous (fs ++ [f]) f.name) : opponent? fs f = none := by
  rw [← Option.not_isSome_iff_eq_none, opponent?_isSome_iff]
  rintro ⟨other, hother, hname, hne⟩
  exact h (ambiguous_append_singleton.mpr (.inr ⟨rfl, other, hother, hname, hne⟩))

theorem lookup_addConflict (f : Fragment) (conflicts : List (String × List Fragment)) (n : String) :
    (addConflict f conflicts).lookup n = (conflicts.lookup n).map fun bodies =>
      if n == f.name && bodies.all fun body => body.text != f.text then bodies ++ [f]
      else bodies := by
  unfold addConflict
  induction conflicts with
  | nil => rfl
  | cons entry conflicts ih =>
    rcases entry with ⟨m, bodies⟩
    rw [List.map_cons]
    by_cases hn : n = m
    . subst hn
      dsimp only
      split <;> simp [*, -Bool.and_eq_true, -List.all_eq_true]
    . have : (n == m) = false := by simpa using hn
      dsimp only
      split <;> rw [List.lookup_cons, List.lookup_cons, this, ih]

end

structure Records (t : DefinitionTable) (fs : List Fragment) : Prop extends t.Represents fs where
  names : t.fragmentNames = usableNames fs
  bodies : ∀ n bodies, t.conflicts.lookup n = some bodies → bodies = bodiesOf fs n

namespace Records

variable {t : DefinitionTable} {fs : List Fragment} {f existing : Fragment}

theorem empty : empty.Records [] where
  toRepresents := .empty
  names := rfl
  bodies := by simp [DefinitionTable.empty]

theorem name_mem (h : t.Records fs) (hget : t.get? f.name = some existing) :
    f.name ∈ fs.map (·.name) := by
  rcases h.mem hget with ⟨hmem, hname⟩
  exact hname ▸ List.mem_map_of_mem hmem

theorem name_not_mem (h : t.Records fs) (hconflict : t.conflicts.lookup f.name = none)
    (hget : t.get? f.name = none) : f.name ∉ fs.map (·.name) := by
  intro hmem
  rcases List.mem_map.mp hmem with ⟨g, hg, hname⟩
  have hn : ¬ Ambiguous fs g.name := by
    rw [hname]
    exact h.not_ambiguous hconflict
  rcases h.exists_get? hg hn with ⟨first, hfirst⟩
  rw [hname, hget] at hfirst
  cases hfirst

inductive Step (t : DefinitionTable) (fs : List Fragment) (f : Fragment) :
    DefinitionTable → List Event → Prop where
  | again (other : Fragment) (hold : Ambiguous fs f.name) (hother : opponent? fs f = some other) :
    Step t fs f { t with conflicts := addConflict f t.conflicts }
      [.problem (.duplicateFragment f other)]
  | new (hname : f.name ∉ fs.map (·.name)) (hconflict : t.conflicts.lookup f.name = none) :
    Step t fs f { t with fragments := t.fragments ++ [(f.name, f)] } []
  | same (existing : Fragment) (hname : f.name ∈ fs.map (·.name))
    (hsame : ¬ Ambiguous (fs ++ [f]) f.name) (hconflict : t.conflicts.lookup f.name = none) :
    Step t fs f t [.identical f existing]
  | different (existing : Fragment) (hname : f.name ∈ fs.map (·.name))
    (hconflict : t.conflicts.lookup f.name = none) (hold : ¬ Ambiguous fs f.name)
    (hfirst : fs.find? (·.name == f.name) = some existing) (hne : f.text ≠ existing.text) :
    Step t fs f { t.erase f.name with conflicts := t.conflicts ++ [(f.name, [existing, f])] }
      [.problem (.duplicateFragment f existing)]

theorem step (h : t.Records fs) (f : Fragment) :
    Step t fs f (t.addFragment f).1 (t.addFragment f).2 := by
  unfold DefinitionTable.addFragment
  cases hconflict : t.conflicts.lookup f.name with
  | some bodies =>
    have hold : Ambiguous fs f.name := by
      rw [← h.conflicts, hconflict]
      rfl
    rcases Option.isSome_iff_exists.mp (opponent?_isSome_of_ambiguous hold) with ⟨other, hother⟩
    have hfind : bodies.find? (fun body => body.text != f.text) = some other := by
      rw [h.bodies _ _ hconflict, find?_bodiesOf, hother]
    dsimp only
    rw [hfind]
    exact .again other hold hother
  | none =>
    have hold := h.not_ambiguous hconflict
    cases hget : t.get? f.name with
    | none => exact .new (h.name_not_mem hconflict hget) hconflict
    | some existing =>
      have hname := h.name_mem hget
      dsimp only
      split
      next htext =>
        have hnew := (h.toRepresents.add_same hconflict hget (beq_iff_eq.mp htext)).not_ambiguous
          hconflict
        exact .same existing hname hnew hconflict
      next htext =>
        exact .different existing hname hconflict hold ((h.get? _ _).mp hget).1
          (by simpa using htext)

theorem Step.names {t' : DefinitionTable} {events : List Event}
    (hstep : Step t fs f t' events) (h : t.fragmentNames = usableNames fs) :
    t'.fragmentNames = usableNames (fs ++ [f]) := by
  cases hstep with
  | again other hold _ =>
    rw [usableNames_append_again hold.name_mem fun _ => hold, ← h]
    rfl
  | new hname _ =>
    rw [usableNames_append_new hname, ← h]
    simp [fragmentNames]
  | same _ hname hsame _ => rw [usableNames_append_again hname fun h => absurd h hsame, h]
  | different existing hname _ _ hfirst hne =>
    have hmem := List.mem_of_find?_eq_some hfirst
    have hexisting : existing.name = f.name := by simpa using List.find?_some hfirst
    have hnew : Ambiguous (fs ++ [f]) f.name :=
      ambiguous_append_singleton.mpr (.inr ⟨rfl, existing, hmem, hexisting, hne.symm⟩)
    rw [usableNames_append_ambiguous hname hnew, ← h]
    unfold fragmentNames erase
    rw [List.filter_map]
    rfl

theorem Step.bodies {t' : DefinitionTable} {events : List Event}
    (hstep : Step t fs f t' events)
    (h : ∀ n bodies, t.conflicts.lookup n = some bodies → bodies = bodiesOf fs n)
    (n : String) (bodies : List Fragment) (hbodies : t'.conflicts.lookup n = some bodies) :
    bodies = bodiesOf (fs ++ [f]) n := by
  -- As long as a name is not in conflict, nothing is said of it.
  have hother (hconflict : t.conflicts.lookup f.name = none)
      (hn : t.conflicts.lookup n = some bodies) : bodies = bodiesOf (fs ++ [f]) n := by
    have hne : n ≠ f.name := by
      rintro rfl
      rw [hconflict] at hn
      cases hn
    rw [bodiesOf_append_of_ne hne, h n bodies hn]
  cases hstep with
  | again other _ _ =>
    rw [lookup_addConflict, Option.map_eq_some_iff] at hbodies
    rcases hbodies with ⟨old, hold, rfl⟩
    rw [h n old hold]
    by_cases hn : n = f.name
    . subst hn
      rw [bodiesOf_append_self, beq_self_eq_true, Bool.true_and]
    . have : (n == f.name) = false := by simpa using hn
      rw [bodiesOf_append_of_ne hn, this, Bool.false_and, if_neg Bool.false_ne_true]
  | new _ hconflict => exact hother hconflict hbodies
  | same _ _ _ hconflict => exact hother hconflict hbodies
  | different existing _ hconflict hold hfirst hne =>
    rw [lookup_append_singleton] at hbodies
    by_cases hn : n = f.name
    . subst hn
      rw [hconflict, if_pos rfl] at hbodies
      cases hbodies
      rw [bodiesOf_append_self, bodiesOf_eq_singleton hfirst hold]
      simp [hne.symm]
    . rw [if_neg hn, Option.or_none] at hbodies
      exact hother hconflict hbodies

theorem addFragment (h : t.Records fs) (f : Fragment) :
    (t.addFragment f).1.Records (fs ++ [f]) where
  toRepresents := h.toRepresents.addFragment f
  names := (h.step f).names h.names
  bodies := (h.step f).bodies h.bodies

theorem addFragments (h : t.Records fs) (gs : List Fragment) :
    (t.addFragments gs).Records (fs ++ gs) := by
  induction gs generalizing t fs with
  | nil =>
    rw [List.append_nil]
    exact h
  | cons g gs ih =>
    rw [List.append_cons]
    exact ih (h.addFragment g)

theorem problems_addFragment (h : t.Records fs) (f : Fragment) :
    Event.problems (t.addFragment f).2 =
      ((opponent? fs f).map (.duplicateFragment f)).toList := by
  have hstep := h.step f
  generalize t.addFragment f = added at hstep
  rcases added with ⟨t', events⟩
  cases hstep with
  | again other _ hother =>
    rw [hother]
    rfl
  | new hname _ =>
    have hnone : opponent? fs f = none := by
      rw [← Option.not_isSome_iff_eq_none, opponent?_isSome_iff]
      rintro ⟨other, hother, hname', _⟩
      exact hname (hname' ▸ List.mem_map_of_mem hother)
    rw [hnone]
    rfl
  | same _ _ hsame _ =>
    rw [opponent?_eq_none_of_same hsame]
    rfl
  | different existing _ _ hold hfirst hne =>
    have hother : opponent? fs f = some existing := by
      rw [← find?_bodiesOf, bodiesOf_eq_singleton hfirst hold]
      simp [hne.symm]
    rw [hother]
    rfl

end Records

/--
What a new table holds after fragments have been added. A name is usable iff it was added and all
its fragments have the same text, and then it stands for the first of them; the usable names are in
the order of their first fragments. A name is in conflict iff two of its fragments have different
texts, and then the first fragment of each text is kept. A further fragment is reported iff one of
its name with another text came before it: once, and against the first of these. What is kept of a
name in conflict always has such a fragment.
-/
theorem addFragments_bookkeeping (fs : List Fragment) :
    let t := empty.addFragments fs
    (∀ n, (n ∈ t.fragmentNames ↔ (∃ f ∈ fs, f.name = n) ∧
        ∀ f ∈ fs, ∀ f' ∈ fs, f.name = n → f'.name = n → f.text = f'.text) ∧
      ∀ f, t.get? n = some f → fs.find? (·.name == n) = some f) ∧
    (∀ n, (n ∈ t.conflicts.map (·.1) ↔
        ∃ f ∈ fs, ∃ f' ∈ fs, f.name = n ∧ f'.name = n ∧ f.text ≠ f'.text) ∧
      (∀ bodies, t.conflicts.lookup n = some bodies →
        bodies = (fs.filter (·.name == n)).eraseDupsBy fun f f' => f.text == f'.text) ∧
      ¬ (n ∈ t.fragmentNames ∧ n ∈ t.conflicts.map (·.1))) ∧
    t.fragmentNames = (fs.map (·.name)).eraseDups.filter (· ∈ t.fragmentNames) ∧
    ∀ f, Event.problems (t.addFragment f).2 =
        ((fs.find? fun other => other.name == f.name && other.text != f.text).map
          (.duplicateFragment f)).toList ∧
      ∀ bodies, t.conflicts.lookup f.name = some bodies →
        ∃ other ∈ bodies, bodies.find? (fun body => body.text != f.text) = some other := by
  intro t
  have h : t.Records fs := Records.empty.addFragments fs
  have husable (n : String) : n ∈ t.fragmentNames ↔ n ∈ fs.map (·.name) ∧ ¬ Ambiguous fs n := by
    rw [h.names, mem_usableNames]
  have hconflict (n : String) : n ∈ t.conflicts.map (·.1) ↔ Ambiguous fs n := by
    rw [mem_map_fst_iff_lookup, h.conflicts]
  refine ⟨fun n => ⟨?_, ?_⟩, fun n => ⟨hconflict n, h.bodies n, ?_⟩, ?_, fun f => ⟨?_, ?_⟩⟩
  . rw [husable, List.mem_map]
    unfold Ambiguous
    push Not
    rfl
  . intro f hf
    exact ((h.get? n f).mp hf).1
  . rw [husable, hconflict]
    rintro ⟨⟨_, hn⟩, hn'⟩
    exact hn hn'
  . have hfilter : (fs.map (·.name)).eraseDups.filter (· ∈ t.fragmentNames) = usableNames fs := by
      apply List.filter_congr
      intro n hn
      rw [decide_eq_decide, husable]
      exact and_iff_right (List.mem_eraseDups.mp hn)
    rw [hfilter]
    exact h.names
  . exact h.problems_addFragment f
  . intro bodies hbodies
    have hambiguous : Ambiguous fs f.name := by
      rw [← h.conflicts, hbodies]
      rfl
    rcases Option.isSome_iff_exists.mp (opponent?_isSome_of_ambiguous hambiguous) with
      ⟨other, hother⟩
    rw [← find?_bodiesOf, ← h.bodies _ _ hbodies] at hother
    exact ⟨other, List.mem_of_find?_eq_some hother, hother⟩

/-!
Without problems no name is in conflict.
-/

section

variable {t t' : DefinitionTable} {s : Schema} {d : SourceDocument} {docs : List SourceDocument}
variable {events : List Event}

theorem conflicts_addFragment {f : Fragment} (ht : t.conflicts = [])
    (h : Event.problems (t.addFragment f).2 = []) : (t.addFragment f).1.conflicts = [] := by
  have hnone : t.conflicts.lookup f.name = none := by rw [ht, List.lookup_nil]
  unfold addFragment at h ⊢
  rw [hnone] at h ⊢
  dsimp only at h ⊢
  split at h
  . exact ht
  next existing _ =>
    by_cases htext : f.text == existing.text
    . rw [if_pos htext]
      exact ht
    . rw [if_neg htext] at h
      cases h

theorem conflicts_addExtracts {file : String} {xs : List Extract} (ht : t.conflicts = [])
    (h : Event.problems (t.addExtracts file xs).2 = []) :
    (t.addExtracts file xs).1.conflicts = [] := by
  induction xs generalizing t with
  | nil => exact ht
  | cons x xs ih =>
    simp only [addExtracts] at h ⊢
    rw [Event.problems_append, List.append_eq_nil_iff] at h
    apply ih _ h.2
    cases x with
    | operation o => exact ht
    | fragment f => exact conflicts_addFragment ht h.1
    | other definition => exact ht

theorem conflicts_collectDocuments (ht : t.conflicts = [])
    (h : t.collectDocuments s docs = .ok (t', events)) (hevents : Event.problems events = []) :
    t'.conflicts = [] := by
  induction docs generalizing t events with
  | nil =>
    cases h
    exact ht
  | cons d docs ih =>
    rcases collectDocuments_cons_eq_ok.mp h with ⟨between, found, hd, _, later, hdocs, heq⟩
    cases heq
    rw [Event.problems_append, List.append_eq_nil_iff] at hevents
    apply ih _ hdocs hevents.2
    by_cases hacc : d.accepted s
    . rw [collectDocument_of_accepted hacc, Except.ok.injEq] at hd
      have hadd : (t.addDocument d).1.conflicts = [] := by
        apply conflicts_addExtracts ht
        rw [show t.addExtracts d.path d.extracts = (between, found) from hd]
        exact hevents.1
      rw [hd] at hadd
      exact hadd
    . rw [(collectDocument_eq_ok hd).2.1, if_neg hacc]
      exact ht

theorem text_eq_of_collectDocuments
    (h : empty.collectDocuments s docs = .ok (t, events)) (hevents : Event.problems events = [])
    {f f' : Fragment} (hf : f ∈ (acceptedOf s docs).flatMap (·.fragments))
    (hf' : f' ∈ (acceptedOf s docs).flatMap (·.fragments)) (hname : f.name = f'.name) :
    f.text = f'.text := by
  have hconflicts := conflicts_collectDocuments rfl h hevents
  cases collectDocuments_table h
  apply Decidable.byContradiction
  intro hne
  have hambiguous : (((ofDocuments s docs).conflicts.lookup f.name)).isSome :=
    ((ofDocuments_represents s docs).conflicts f.name).mpr ⟨f, hf, f', hf', rfl, hname.symm, hne⟩
  change (((empty.addDocuments _).conflicts.lookup f.name)).isSome at hambiguous
  rw [hconflicts] at hambiguous
  cases hambiguous

end

end DefinitionTable

end QueryLinker
