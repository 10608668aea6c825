import QueryLinker.Proofs.Files.Tree
import QueryLinker.Proofs.Path.Basic

/-!
This module contains what is found and changed at the paths of the files of one directory, in terms
of the entries of the directory.
-/

namespace QueryLinker.FileTree

open QueryLinker.Path (IsPart)

def entriesAt? (t : FileTree) (names : List String) : Option (List (String × FileTree)) :=
  match t.follow [] names with
  | .error _ => none
  | .ok way =>
    match t.at? way.reverse with
    | some (.directory entries) => some entries
    | _ => none

structure IsName (name : String) : Prop where
  isPart : IsPart name
  ne_dots : name ≠ ".."
  size_le : name.utf8ByteSize ≤ maxNameSize

structure Fits (cwd path : String) : Prop where
  size_le : path.utf8ByteSize ≤ maxPathSize
  names : ∀ name ∈ componentsFrom cwd path, name.utf8ByteSize ≤ maxNameSize

variable {t u : FileTree} {names : List String} {name cwd directory : String}
  {entries : List (String × FileTree)}

theorem entriesAt?_eq_some_iff : t.entriesAt? names = some entries ↔
    ∃ way, t.follow [] names = .ok way ∧ t.at? way.reverse = some (.directory entries) := by
  unfold entriesAt?
  split
  next flaw hflaw => simp [hflaw]
  next way hway =>
    rw [hway]
    split
    next own hown => simp [hown]
    next hnone =>
      simp only [reduceCtorEq, Except.ok.injEq, exists_eq_left', false_iff]
      exact hnone entries

theorem isAbsolute_append_part (directory : String) (parts : List String) :
    (Path.mk (Path.ofString directory).root parts).isAbsolute =
      (Path.ofString directory).isAbsolute :=
  rfl

theorem componentsFrom_join (cwd directory : String) (h : IsPart name) :
    componentsFrom cwd (Path.join [directory, name]) = componentsFrom cwd directory ++ [name] := by
  unfold componentsFrom
  dsimp only
  rw [Path.ofString_join directory h, isAbsolute_append_part]
  split
  . rfl
  . rw [List.append_assoc]

theorem toString_ofString_join (directory : String) (h : IsPart name) :
    toString (Path.ofString (Path.join [directory, name])) = Path.join [directory, name] := by
  rw [Path.ofString_join directory h, Path.join_part directory h]

theorem componentsFrom_parent (cwd directory : String) (h : IsPart name) :
    componentsFrom cwd (toString (Path.ofString (Path.join [directory, name])).parent) =
      componentsFrom cwd directory := by
  have hparent : (Path.ofString (Path.join [directory, name])).parent =
      Path.ofString directory := by
    rw [Path.ofString_join directory h, Path.parent, List.dropLast_concat]
  unfold componentsFrom
  rw [hparent, Path.ofString_toString (Path.plain_ofString directory)]

theorem openedComponents_join (cwd directory : String) (h : IsPart name) :
    openedComponents cwd (Path.join [directory, name]) =
      componentsFrom cwd directory ++ [name] := by
  have hplain := Path.plain_append_part directory h
  have hown : (Path.components (Path.join [directory, name]).toList).filter (!·.isEmpty) =
      (Path.ofString directory).parts ++ [name] := by
    rcases Path.components_toString hplain (by simp) with ⟨count, hcount⟩
    rw [Path.join_part directory h, hcount]
    refine Path.filter_replicate_empty rfl (fun part hpart => ?_) count
    simp [(hplain.parts part hpart).ne_empty]
  unfold openedComponents
  dsimp only
  rw [hown, Path.startsWith_slash, Path.ofString_join directory h, isAbsolute_append_part]
  unfold componentsFrom
  dsimp only
  split
  . rfl
  . rw [List.append_assoc]

theorem endsWith_join (directory : String) (h : IsPart name) :
    (Path.join [directory, name]).endsWith "/" = false := by
  rcases Path.exists_append_part directory h with ⟨front, hfront⟩
  rw [Bool.eq_false_iff, Ne, Text.endsWith_iff, hfront]
  change ¬ ['/'] <:+ _
  rintro ⟨more, hmore⟩
  have hlast := congrArg List.getLast? hmore
  rcases Path.exists_head_part h with ⟨c, cs, htext, -⟩
  rw [List.getLast?_concat, htext, List.getLast?_append_cons] at hlast
  exact h.no_slash (htext ▸ List.mem_of_getLast? hlast.symm)

theorem follow_name {way : List String} (hname : IsName name)
    (hat : t.at? way.reverse = some (.directory entries)) :
    t.follow way [name] =
      if (entries.lookup name).isSome then .ok (name :: way) else .error .notFound := by
  have hplain : (name == ".") = false ∧ (name == "..") = false := by
    simp [hname.isPart.ne_dot, hname.ne_dots]
  rw [follow, hat]
  dsimp only
  rw [hplain.1, hplain.2, if_neg (by simp), if_neg (by simp),
    if_neg (Nat.not_lt.mpr hname.size_le)]
  rfl

theorem follow_ne_tooLong {way : List String} (h : ∀ n ∈ names, n.utf8ByteSize ≤ maxNameSize) :
    t.follow way names ≠ .error .tooLong := by
  induction names generalizing way with
  | nil => simp [follow]
  | cons n names ih =>
    have htail : ∀ m ∈ names, m.utf8ByteSize ≤ maxNameSize := fun m hm =>
      h m (List.mem_cons_of_mem _ hm)
    rw [follow]
    split
    . split
      . exact ih htail
      . split
        . exact ih htail
        . rw [if_neg (Nat.not_lt.mpr (h n (by simp)))]
          split
          . exact ih htail
          . simp
    . simp
    . simp

theorem isPart_componentsFrom {part : String} (h : part ∈ componentsFrom cwd directory) :
    IsPart part := by
  unfold componentsFrom at h
  dsimp only at h
  split at h
  . exact (Path.plain_ofString directory).parts part h
  . rcases List.mem_append.mp h with hcwd | hown
    . exact (Path.plain_ofString cwd).parts part hcwd
    . exact (Path.plain_ofString directory).parts part hown

theorem follow_file (names : List String) (hname : IsName name) :
    (∃ way entries file, t.follow [] (names ++ [name]) = .ok (name :: way) ∧
      t.entriesAt? names = some entries ∧ entries.lookup name = some file ∧
      t.at? (name :: way).reverse = some file) ∨
    (∃ flaw, t.follow [] (names ++ [name]) = .error flaw) ∧
      (t.entriesAt? names).bind (·.lookup name) = none := by
  rw [follow_append]
  unfold entriesAt?
  cases t.follow [] names with
  | error flaw => exact .inr ⟨⟨flaw, rfl⟩, rfl⟩
  | ok way =>
    dsimp only
    cases hat : t.at? way.reverse with
    | none =>
      refine .inr ⟨⟨.notFound, ?_⟩, rfl⟩
      change t.follow way [name] = _
      rw [follow, hat]
    | some file =>
      cases file with
      | file content =>
        refine .inr ⟨⟨.notDirectory, ?_⟩, rfl⟩
        change t.follow way [name] = _
        rw [follow, hat]
      | directory entries =>
        change (∃ _, _) ∨ (∃ flaw, t.follow way [name] = .error flaw) ∧ entries.lookup name = none
        cases hlookup : entries.lookup name with
        | none =>
          refine .inr ⟨⟨.notFound, ?_⟩, rfl⟩
          rw [follow_name hname hat, hlookup]
          rfl
        | some file =>
          refine .inl ⟨way, entries, file, ?_, rfl, hlookup, ?_⟩
          . change t.follow way [name] = _
            rw [follow_name hname hat, hlookup]
            rfl
          . rw [List.reverse_cons, at?_entry hat, hlookup]

theorem find?_join (t : FileTree) (cwd directory : String) (hname : IsName name) :
    t.find? cwd (Path.join [directory, name]) =
      (t.entriesAt? (componentsFrom cwd directory)).bind (·.lookup name) := by
  unfold find? wayTo
  rw [componentsFrom_join cwd directory hname.isPart]
  rcases follow_file (t := t) (componentsFrom cwd directory) hname with
    ⟨way, entries, file, hfollow, hentries, hlookup, hat⟩ | ⟨⟨flaw, hflaw⟩, hnone⟩
  . rw [hfollow, hentries, Option.bind_some, hlookup]
    exact hat
  . rw [hflaw, hnone]
    rfl

theorem follow_tooLong {way : List String} (hpart : IsPart name) (hdots : name ≠ "..")
    (hsize : maxNameSize < name.utf8ByteSize)
    (hat : t.at? way.reverse = some (.directory entries)) :
    t.follow way [name] = .error .tooLong := by
  rw [follow, hat]
  dsimp only
  rw [if_neg (by simp [hpart.ne_dot]), if_neg (by simp [hdots]), if_pos hsize]

theorem exists_flaw_of_tooLong (t : FileTree) (names : List String) (hpart : IsPart name)
    (hdots : name ≠ "..") (hsize : maxNameSize < name.utf8ByteSize) :
    ∃ flaw, t.follow [] (names ++ [name]) = .error flaw := by
  rw [follow_append]
  cases t.follow [] names with
  | error flaw => exact ⟨flaw, rfl⟩
  | ok way =>
    change ∃ flaw, t.follow way [name] = .error flaw
    cases hat : t.at? way.reverse with
    | none => exact ⟨.notFound, by rw [follow, hat]⟩
    | some u =>
      cases u with
      | file content => exact ⟨.notDirectory, by rw [follow, hat]⟩
      | directory entries => exact ⟨.tooLong, follow_tooLong hpart hdots hsize hat⟩

theorem find?_join_of_tooLong (t : FileTree) (cwd directory : String) (hpart : IsPart name)
    (hdots : name ≠ "..") (hsize : maxNameSize < name.utf8ByteSize) :
    t.find? cwd (Path.join [directory, name]) = none := by
  rcases exists_flaw_of_tooLong t (componentsFrom cwd directory) hpart hdots hsize with
    ⟨flaw, hflaw⟩
  unfold find? wayTo
  rw [componentsFrom_join cwd directory hpart, hflaw]
  rfl

theorem isThere_join_of_tooLong (hpart : IsPart name) (hdots : name ≠ "..")
    (hsize : maxNameSize < name.utf8ByteSize)
    (hnull : '\x00' ∉ (Path.join [directory, name]).toList)
    (hentries : t.entriesAt? (componentsFrom cwd directory) = some entries) :
    t.isThere cwd (Path.join [directory, name]) =
      .error ⟨.tooLong, Path.join [directory, name]⟩ := by
  rcases entriesAt?_eq_some_iff.mp hentries with ⟨way, hway, hat⟩
  have hfollow : t.follow [] (componentsFrom cwd directory ++ [name]) = .error .tooLong := by
    rw [follow_append, hway]
    exact follow_tooLong hpart hdots hsize hat
  have hcontains : (Path.join [directory, name]).contains '\x00' = false := by
    rw [String.contains_char_eq]
    exact decide_eq_false hnull
  unfold isThere wayTo
  dsimp only
  rw [toString_ofString_join directory hpart, componentsFrom_join cwd directory hpart, hfollow,
    hcontains]
  split <;> rfl

theorem isSome_find?_of_wayTo (hpart : IsPart name) (hdots : name ≠ "..") {way : List String}
    (h : t.wayTo cwd (Path.join [directory, name]) = .ok way) :
    (t.find? cwd (Path.join [directory, name])).isSome := by
  have hsize : name.utf8ByteSize ≤ maxNameSize := by
    by_contra hlong
    rcases exists_flaw_of_tooLong t (componentsFrom cwd directory) hpart hdots
      (Nat.lt_of_not_le hlong) with ⟨flaw, hflaw⟩
    rw [wayTo, componentsFrom_join cwd directory hpart, hflaw] at h
    cases h
  have hname : IsName name := ⟨hpart, hdots, hsize⟩
  rw [find?_join t cwd directory hname]
  rcases follow_file (t := t) (componentsFrom cwd directory) hname with
    ⟨_, entries, file, -, hentries, hlookup, -⟩ | ⟨⟨flaw, hflaw⟩, -⟩
  . rw [hentries, Option.bind_some, hlookup]
    rfl
  . rw [wayTo, componentsFrom_join cwd directory hpart, hflaw] at h
    cases h

theorem not_fits_of_wayTo {path : String} (h : t.wayTo cwd path = .error .tooLong) :
    ¬ Fits cwd path := by
  intro hfits
  have hne : t.follow [] (componentsFrom cwd path) ≠ .error .tooLong :=
    follow_ne_tooLong hfits.names
  unfold wayTo at h
  cases hfollow : t.follow [] (componentsFrom cwd path) with
  | ok way =>
    rw [hfollow] at h
    cases h
  | error flaw =>
    rw [hfollow] at h hne
    cases h
    exact hne rfl

theorem isThere_join (t : FileTree) (cwd directory : String) (hpart : IsPart name)
    (hdots : name ≠ "..") :
    t.isThere cwd (Path.join [directory, name]) =
        .ok (t.find? cwd (Path.join [directory, name])).isSome ∨
    (∃ failure, t.isThere cwd (Path.join [directory, name]) = .error failure) ∧
      ¬ Fits cwd (Path.join [directory, name]) := by
  unfold isThere
  dsimp only
  rw [toString_ofString_join directory hpart]
  split
  next hlong =>
    rw [Bool.and_eq_true, decide_eq_true_eq] at hlong
    exact .inr ⟨⟨_, rfl⟩, fun hfits => Nat.not_lt.mpr hfits.size_le hlong.1⟩
  next =>
    cases hway : t.wayTo cwd (Path.join [directory, name]) with
    | ok way =>
      rw [isSome_find?_of_wayTo hpart hdots hway]
      exact .inl rfl
    | error flaw =>
      have hnone : t.find? cwd (Path.join [directory, name]) = none := by
        rw [find?, hway]
      rw [hnone]
      by_cases hlong : flaw = .tooLong
      . subst hlong
        cases (Path.join [directory, name]).contains '\x00' with
        | true => exact .inl rfl
        | false => exact .inr ⟨⟨_, rfl⟩, not_fits_of_wayTo hway⟩
      . refine .inl ?_
        cases flaw <;> first | rfl | exact absurd rfl hlong

theorem isThere_of_find? (hpart : IsPart name)
    (hflaw : pathFlaw? (Path.join [directory, name]) = none)
    (hfind : t.find? cwd (Path.join [directory, name]) = some u) :
    t.isThere cwd (Path.join [directory, name]) = .ok true := by
  have hsize : ¬ maxPathSize < (Path.join [directory, name]).utf8ByteSize := by
    intro hlong
    unfold pathFlaw? at hflaw
    rw [if_pos hlong] at hflaw
    split at hflaw <;> cases hflaw
  unfold find? at hfind
  unfold isThere
  dsimp only
  rw [toString_ofString_join directory hpart, decide_eq_false hsize, Bool.false_and,
    if_neg (by simp)]
  split at hfind
  next way hway => rw [hway]
  next => cases hfind

theorem read_join {content : ByteArray} (hpart : IsPart name)
    (hflaw : pathFlaw? (Path.join [directory, name]) = none)
    (hfind : t.find? cwd (Path.join [directory, name]) = some (.file content)) :
    t.read cwd (Path.join [directory, name]) = .ok content := by
  unfold find? wayTo at hfind
  unfold read
  rw [hflaw, endsWith_join directory hpart, openedComponents_join cwd directory hpart]
  rw [componentsFrom_join cwd directory hpart] at hfind
  dsimp only
  rw [if_neg (by simp), List.append_nil]
  cases hfollow : t.follow [] (componentsFrom cwd directory ++ [name]) with
  | error flaw =>
    rw [hfollow] at hfind
    cases hfind
  | ok way =>
    rw [hfollow] at hfind
    change t.at? way.reverse = some (.file content) at hfind
    dsimp only
    rw [hfind]

theorem write_join (content : ByteArray) (hpart : IsPart name) (hdots : name ≠ "..")
    (hentries : t.entriesAt? (componentsFrom cwd directory) = some entries) :
    (∃ failure, t.write cwd (Path.join [directory, name]) content = .error failure) ∨
    pathFlaw? (Path.join [directory, name]) = none ∧ name.utf8ByteSize ≤ maxNameSize ∧
    ∃ u, t.write cwd (Path.join [directory, name]) content = .ok u ∧ t.Grows u ∧
      u.entriesAt? (componentsFrom cwd directory) =
        some (Keyed.put name (.file content) entries) := by
  rcases entriesAt?_eq_some_iff.mp hentries with ⟨way, hway, hat⟩
  have hmap : (Except.ok way : Except FileFlaw (List String)).map List.reverse =
      .ok way.reverse := rfl
  have hplain : [".", ".."].contains name = false := by
    simp [hpart.ne_dot, hdots]
  unfold write
  cases hflaw : pathFlaw? (Path.join [directory, name]) with
  | some flaw => exact .inl ⟨_, rfl⟩
  | none =>
    dsimp only
    rw [openedComponents_join cwd directory hpart, List.dropLast_concat, List.getLast?_concat, hway,
      hmap]
    dsimp only
    rw [hat]
    dsimp only
    rw [hplain, endsWith_join directory hpart, Bool.or_false, Bool.or_false]
    split
    . exact .inl ⟨_, rfl⟩
    next hfile =>
      split
      . exact .inl ⟨_, rfl⟩
      next hsize =>
        have hgrows : t.Grows (t.put (.file content) (way.reverse ++ [name])) := by
          refine grows_put _ fun own hown => ?_
          rw [at?_entry hat] at hown
          rw [hown] at hfile
          exact hfile rfl
        exact .inr ⟨rfl, Nat.le_of_not_lt hsize, _, rfl, hgrows, entriesAt?_eq_some_iff.mpr
          ⟨way, hgrows.follow hway, at?_put _ name hat⟩⟩

theorem makeDirectories_join (hpart : IsPart name) (hroot : t.isDirectory)
    (hdots : (t.entriesAt? (componentsFrom cwd directory)).isSome ∨
      ".." ∉ componentsFrom cwd directory)
    (h : t.makeDirectories cwd (toString (Path.ofString (Path.join [directory, name])).parent) =
      .ok u) :
    t.Grows u ∧ u.entriesAt? (componentsFrom cwd directory) =
      some ((t.entriesAt? (componentsFrom cwd directory)).getD []) := by
  have hdot : "." ∉ componentsFrom cwd directory := fun hmem =>
    (isPart_componentsFrom hmem).ne_dot rfl
  unfold makeDirectories at h
  split at h
  . cases h
  . split at h
    . cases h
    . rw [componentsFrom_parent cwd directory hpart] at h
      cases hmake : t.makeAlong [] (componentsFrom cwd directory) with
      | error flaw =>
        rw [hmake] at h
        cases h
      | ok made =>
        rw [hmake] at h
        cases h
        cases hentries : t.entriesAt? (componentsFrom cwd directory) with
        | some entries =>
          rcases entriesAt?_eq_some_iff.mp hentries with ⟨way, hway, hat⟩
          rw [makeAlong_of_follow hdot hway hat] at hmake
          cases hmake
          exact ⟨Grows.refl t, hentries⟩
        | none =>
          rw [hentries] at hdots
          have hplain := hdots.resolve_left (by simp)
          rcases t with content | own
          . cases hroot
          . rcases makeAlong_spec (t := .directory own) hplain hdot rfl hmake with
              ⟨hgrows, found, entries, hfollow, hfound, rfl | rfl⟩
            . exact ⟨hgrows, entriesAt?_eq_some_iff.mpr ⟨found, hfollow, hfound⟩⟩
            . rw [entriesAt?_eq_some_iff.mpr ⟨found, hfollow, hfound⟩] at hentries
              cases hentries

theorem Grows.isDirectory (h : t.Grows u) (hroot : t.isDirectory) : u.isDirectory := by
  cases t with
  | file content => cases hroot
  | directory own =>
    have hat : (directory own).at? [] = some (.directory own) := by rw [at?]
    rcases h hat with ⟨later, hlater, -⟩
    rw [at?] at hlater
    cases hlater
    rfl

end QueryLinker.FileTree
