import QueryLinker.Proofs.Files.Directory

/-!
This module contains what a file that is written changes: the file is read at its path, and what is
found by another way stays.
-/

namespace QueryLinker.FileTree

variable {t u : FileTree} {cwd path : String} {content : ByteArray} {names front way : List String}
  {entries : List (String × FileTree)} {name : String}

theorem entry?_put (t new : FileTree) (step : String) (way : List String) (first : String) :
    entry? (t.put new (step :: way)) first =
      if first == step then some (((t.entry? step).getD empty).put new way) else t.entry? first :=
  Keyed.lookup_put _ _ _ _

theorem eq_nil_of_at?_file {old : FileTree} (h : (file content).at? names = some old) :
    names = [] := by
  cases names with
  | nil => rfl
  | cons name names => cases h

theorem at?_put_of_ne {old : ByteArray} (new : FileTree)
    (hdirectory : t.at? way = some (.directory entries))
    (hfile : ∀ own, entries.lookup name ≠ some (.directory own))
    (hne : names ≠ way ++ [name]) (hat : t.at? names = some (.file old)) :
    (t.put new (way ++ [name])).at? names = some (.file old) := by
  induction way generalizing t names with
  | nil =>
    cases hdirectory
    cases names with
    | nil => cases hat
    | cons first names =>
      rw [at?_cons] at hat
      rw [List.nil_append, at?_cons, entry?_put]
      split
      next hfirst =>
        exfalso
        rw [eq_of_beq hfirst] at hat hne
        rcases Option.bind_eq_some_iff.mp hat with ⟨v, hentry, hv⟩
        cases v with
        | file own =>
          rw [eq_nil_of_at?_file hv] at hne
          exact hne rfl
        | directory own => exact hfile own hentry
      next => exact hat
  | cons step way ih =>
    rw [at?_cons] at hdirectory
    rcases Option.bind_eq_some_iff.mp hdirectory with ⟨v, hstep, hv⟩
    cases names with
    | nil =>
      cases hat
      cases hstep
    | cons first names =>
      rw [at?_cons] at hat
      rw [List.cons_append, at?_cons, entry?_put]
      split
      next hfirst =>
        rw [eq_of_beq hfirst] at hat hne
        rw [hstep, Option.bind_some] at hat
        rw [hstep, Option.getD_some, Option.bind_some]
        refine ih hv (fun heq => hne ?_) hat
        rw [heq, List.cons_append]
      next => exact hat

theorem follow_filter_dot {found : List String} (h : t.follow way names = .ok found) :
    t.follow way (names.filter (· != ".")) = .ok found := by
  induction names generalizing way with
  | nil => exact h
  | cons name names ih =>
    by_cases hdot : name = "."
    . rw [List.filter_cons_of_neg (by simpa using hdot)]
      rw [follow, hdot] at h
      split at h
      . exact ih h
      . cases h
      . cases h
    . have hplain : (name == ".") = false := by simpa using hdot
      rw [List.filter_cons_of_pos (by simpa using hdot)]
      rw [follow] at h ⊢
      split at h
      next own hown =>
        rw [hplain, if_neg (by simp)] at h ⊢
        split at h
        next hdots => rw [if_pos hdots, ih h]
        next hdots =>
          rw [if_neg hdots]
          split at h
          . cases h
          next hlong =>
            rw [if_neg hlong]
            split at h
            next hname => rw [if_pos hname, ih h]
            next => cases h
      . cases h
      . cases h

theorem componentsFrom_eq (cwd path : String) :
    componentsFrom cwd path = (openedComponents cwd path).filter (· != ".") := by
  have hcwd : (Path.ofString cwd).parts.filter (· != ".") = (Path.ofString cwd).parts := by
    rw [List.filter_eq_self]
    intro part hpart
    simpa using ((Path.plain_ofString cwd).parts part hpart).ne_dot
  have hown : ((Path.components path.toList).filter fun name => !name.isEmpty).filter (· != ".") =
      (Path.ofString path).parts := by
    change _ = (Path.components path.toList).filter fun part => part != "" && part != "."
    rw [List.filter_filter]
    apply List.filter_congr
    intro part _
    rw [Bool.and_comm]
    congr 1
    rw [Bool.eq_iff_iff]
    simp
  unfold componentsFrom openedComponents
  dsimp only
  rw [Path.startsWith_slash]
  split
  . exact hown.symm
  . rw [List.filter_append, hcwd, hown]

/-! What is asked of the path of a file, in terms of its characters. -/

theorem openedComponents_eq (cwd path : String) : openedComponents cwd path =
    (if (Path.ofString path).isAbsolute then [] else (Path.ofString cwd).parts) ++
      (Path.components path.toList).filter fun name => !name.isEmpty := by
  unfold openedComponents
  dsimp only
  rw [Path.startsWith_slash]
  split
  . rw [List.nil_append]
  . rfl

theorem pathFlaw?_eq_none (hnull : '\x00' ∉ path.toList) (hsize : path.utf8ByteSize ≤ maxPathSize)
    (hempty : path ≠ "") : pathFlaw? path = none := by
  have hcontains : path.contains '\x00' = false := by
    rw [String.contains_char_eq]
    exact decide_eq_false hnull
  unfold pathFlaw?
  rw [hcontains, if_neg (by simp), if_neg (Nat.not_lt.mpr hsize), if_neg (by simpa using hempty)]

theorem endsWith_slash_eq_false (h : ¬ ['/'] <:+ path.toList) : path.endsWith "/" = false := by
  rw [Bool.eq_false_iff, Ne, Text.endsWith_iff]
  exact h

theorem read_of_follow (hflaw : pathFlaw? path = none) (hslash : path.endsWith "/" = false)
    (hfollow : t.follow [] (openedComponents cwd path) = .ok way)
    (hat : t.at? way.reverse = some (.file content)) : t.read cwd path = .ok content := by
  unfold FileTree.read
  rw [hflaw, hslash]
  dsimp only
  rw [if_neg (by simp), List.append_nil, hfollow]
  dsimp only
  rw [hat]

/-- A path that may be one of a file, with the names that lead to what it opens. -/
structure Opens (cwd path : String) (names : List String) : Prop where
  null : '\x00' ∉ path.toList
  size : path.utf8ByteSize ≤ maxPathSize
  ne_empty : path ≠ ""
  slash : ¬ ['/'] <:+ path.toList
  names : (if (Path.ofString path).isAbsolute then [] else (Path.ofString cwd).parts) ++
    (Path.components path.toList).filter (fun name => !name.isEmpty) = names

theorem Opens.read {names : List String} (h : Opens cwd path names)
    (hfollow : t.follow [] names = .ok way) (hat : t.at? way.reverse = some (.file content)) :
    t.read cwd path = .ok content := by
  refine read_of_follow (pathFlaw?_eq_none h.null h.size h.ne_empty)
    (endsWith_slash_eq_false h.slash) ?_ hat
  rw [openedComponents_eq, h.names]
  exact hfollow

/-- How a file comes to be written: `way` leads to its directory, the last name first. -/
structure Written (t : FileTree) (cwd path : String) (content : ByteArray) (u : FileTree)
    (way : List String) (name : String) : Prop where
  flaw : pathFlaw? path = none
  slash : path.endsWith "/" = false
  components : ∃ front, openedComponents cwd path = front ++ [name] ∧ t.follow [] front = .ok way
  directory : ∃ entries, t.at? way.reverse = some (.directory entries) ∧
    ∀ own, entries.lookup name ≠ some (.directory own)
  ne_dot : name ≠ "."
  ne_dots : name ≠ ".."
  size_le : name.utf8ByteSize ≤ maxNameSize
  result : u = t.put (.file content) (way.reverse ++ [name])

theorem exists_written (h : t.write cwd path content = .ok u) :
    ∃ way name, Written t cwd path content u way name := by
  unfold write at h
  split at h
  . cases h
  next hflaw =>
    dsimp only at h
    cases hfollow : t.follow [] (openedComponents cwd path).dropLast with
    | error flaw =>
      rw [hfollow] at h
      cases h
    | ok way =>
      rw [hfollow] at h
      have hmap : (Except.ok way : Except FileFlaw (List String)).map List.reverse =
          .ok way.reverse := rfl
      rw [hmap] at h
      cases hlast : (openedComponents cwd path).getLast? with
      | none =>
        rw [hlast] at h
        cases h
      | some name =>
        rw [hlast] at h
        dsimp only at h
        split at h
        next entries hentries =>
          split at h
          . cases h
          next hfile =>
            split at h
            . cases h
            next hsize =>
              cases h
              simp only [Bool.or_eq_true, not_or, Bool.not_eq_true] at hfile
              have hname : name ≠ "." ∧ name ≠ ".." := by simpa using hfile.1.2
              refine ⟨way, name, hflaw, hfile.2, ⟨_, ?_, hfollow⟩, ⟨entries, hentries, ?_⟩, hname.1,
                hname.2, Nat.le_of_not_lt hsize, rfl⟩
              . exact (List.dropLast_append_getLast? name hlast).symm
              . intro own hown
                rw [hown] at hfile
                exact absurd hfile.1.1 (by simp [isDirectory])
        . cases h

theorem Written.write (h : Written t cwd path content u way name) :
    t.write cwd path content = .ok u := by
  rcases h.components with ⟨front, hfront, hfollow⟩
  rcases h.directory with ⟨entries, hentries, hfile⟩
  have hmap : (Except.ok way : Except FileFlaw (List String)).map List.reverse =
      .ok way.reverse := rfl
  have hdirectory : (entries.lookup name).any (·.isDirectory) = false := by
    cases hown : entries.lookup name with
    | none => rfl
    | some own =>
      cases own with
      | file old => rfl
      | directory own => exact absurd hown (hfile own)
  have hplain : [".", ".."].contains name = false := by simp [h.ne_dot, h.ne_dots]
  unfold FileTree.write
  rw [h.flaw]
  dsimp only
  rw [hfront, List.dropLast_concat, List.getLast?_concat, hfollow, hmap]
  dsimp only
  rw [hentries]
  dsimp only
  rw [hdirectory, hplain, h.slash, if_neg (by simp), if_neg (Nat.not_lt.mpr h.size_le), h.result]

namespace Written

theorem at?_self (h : Written t cwd path content u way name) :
    u.at? (way.reverse ++ [name]) = some (.file content) := by
  rcases h.directory with ⟨entries, hentries, _⟩
  rw [h.result]
  exact at?_put_self _ name hentries

theorem grows (h : Written t cwd path content u way name) : t.Grows u := by
  rcases h.directory with ⟨entries, hentries, hfile⟩
  rw [h.result]
  refine grows_put _ fun own hown => ?_
  rw [at?_entry hentries] at hown
  exact hfile own hown

theorem follow_opened (h : Written t cwd path content u way name) :
    u.follow [] (openedComponents cwd path) = .ok (name :: way) := by
  rcases h.directory with ⟨entries, hentries, _⟩
  rcases h.components with ⟨front, hfront, hfollow⟩
  have hnow : u.at? way.reverse = some (.directory (Keyed.put name (.file content) entries)) := by
    rw [h.result]
    exact at?_put _ name hentries
  have hplain : (name == ".") = false ∧ (name == "..") = false := by simp [h.ne_dot, h.ne_dots]
  have hthere : ((Keyed.put name (FileTree.file content) entries).lookup name).isSome := by
    rw [Keyed.lookup_put, if_pos (beq_self_eq_true name)]
    rfl
  have hgrows : t.Grows u := h.grows
  rw [hfront, follow_append, hgrows.follow hfollow]
  change u.follow way [name] = _
  rw [follow, hnow]
  dsimp only
  rw [hplain.1, hplain.2, if_neg (by simp), if_neg (by simp), if_neg (Nat.not_lt.mpr h.size_le),
    if_pos hthere]
  rfl

theorem read (h : Written t cwd path content u way name) : u.read cwd path = .ok content := by
  refine read_of_follow h.flaw h.slash h.follow_opened ?_
  rw [List.reverse_cons]
  exact h.at?_self

theorem wayTo (h : Written t cwd path content u way name) :
    u.wayTo cwd path = .ok (way.reverse ++ [name]) := by
  unfold FileTree.wayTo
  rw [componentsFrom_eq, follow_filter_dot h.follow_opened, ← List.reverse_cons]
  rfl

theorem find? (h : Written t cwd path content u way name) :
    u.find? cwd path = some (.file content) := by
  unfold FileTree.find?
  rw [h.wayTo]
  exact h.at?_self

theorem find?_of_ne {other : String} {old : ByteArray} (h : Written t cwd path content u way name)
    (hne : u.wayTo cwd path ≠ u.wayTo cwd other) (hfind : t.find? cwd other = some (.file old)) :
    u.find? cwd other = some (.file old) := by
  rcases h.directory with ⟨entries, hentries, hfile⟩
  unfold FileTree.find? at hfind ⊢
  cases hway : t.wayTo cwd other with
  | error flaw =>
    rw [hway] at hfind
    cases hfind
  | ok found =>
    rw [hway] at hfind
    have hgrows : t.Grows u := h.grows
    have hlater : u.wayTo cwd other = .ok found := by
      unfold FileTree.wayTo at hway ⊢
      rcases map_eq_ok_iff.mp hway with ⟨back, hback, rfl⟩
      rw [hgrows.follow hback]
      rfl
    rw [hlater, h.wayTo] at hne
    rw [hlater]
    dsimp only at hfind ⊢
    rw [h.result]
    exact at?_put_of_ne _ hentries hfile (fun heq => hne (by rw [heq])) hfind

end Written

end QueryLinker.FileTree
