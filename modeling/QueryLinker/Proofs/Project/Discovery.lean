import QueryLinker.Project.Discovery
import QueryLinker.Proofs.Files.Directory
import QueryLinker.Proofs.Link.AppendNew
import Mathlib.Data.List.Sort
import Mathlib.Data.String.Basic

/-!
This module contains which files are discovered: exactly those below one of the directories whose
names fit and that are in no directory that is left out, each of them once, in the order of the
directories and of the components of the paths.
-/

namespace QueryLinker

namespace FileTree

/-- A tree as file systems have it: the names in a directory are different, and may be names. -/
inductive WellFormed : FileTree → Prop where
  | file (content : ByteArray) : WellFormed (.file content)
  | directory {entries : List (String × FileTree)} (hnodup : (entries.map (·.1)).Nodup)
    (hnames : ∀ e ∈ entries, IsName e.1) (h : ∀ e ∈ entries, WellFormed e.2) :
    WellFormed (.directory entries)

variable {t u : FileTree} {entries : List (String × FileTree)} {way names : List String}
  {content : ByteArray} {name cwd path : String}

theorem entriesFiles_eq (entries : List (String × FileTree)) :
    entriesFiles entries =
      entries.flatMap fun e => (files e.2).map fun f => (e.1 :: f.1, f.2) := by
  induction entries with
  | nil => rfl
  | cons e entries ih =>
    rcases e with ⟨name, t⟩
    rw [entriesFiles, ih, List.flatMap_cons]
    rfl

theorem mem_files_iff (h : WellFormed t) : (way, content) ∈ files t ↔
    t.at? way = some (.file content) := by
  induction h generalizing way with
  | file own =>
    cases way with
    | nil => simp [files, at?, eq_comm]
    | cons name way => simp [files, at?, entry?, FileTree.entries]
  | @directory entries hnodup _ _ ih =>
    change (way, content) ∈ entriesFiles entries ↔ _
    rw [entriesFiles_eq, List.mem_flatMap]
    cases way with
    | nil => simp [at?]
    | cons name way =>
      rw [at?_cons, Option.bind_eq_some_iff]
      constructor
      . rintro ⟨⟨own, u⟩, hu, hmem⟩
        rcases List.mem_map.mp hmem with ⟨⟨way', content'⟩, hfile, heq⟩
        cases heq
        exact ⟨u, (lookup_eq_some_iff_mem hnodup).mpr hu, (ih _ hu).mp hfile⟩
      . rintro ⟨u, hentry, hat⟩
        have hu : (name, u) ∈ entries := (lookup_eq_some_iff_mem hnodup).mp hentry
        exact ⟨(name, u), hu, List.mem_map.mpr ⟨(way, content), (ih _ hu).mpr hat, rfl⟩⟩

theorem nodup_ways (h : WellFormed t) : ((files t).map (·.1)).Nodup := by
  induction h with
  | file own => simp [files]
  | @directory entries hnodup _ _ ih =>
    change ((entriesFiles entries).map (·.1)).Nodup
    rw [entriesFiles_eq, List.map_flatMap, List.nodup_flatMap]
    constructor
    . intro e he
      rw [List.map_map]
      have hways : (files e.2).map ((fun f => f.1) ∘ fun f => (e.1 :: f.1, f.2)) =
          ((files e.2).map (·.1)).map (e.1 :: ·) := by
        rw [List.map_map]
        rfl
      rw [hways]
      exact (ih e he).map fun _ _ heq => (List.cons.inj heq).2
    . have hnames : entries.Pairwise fun a b => a.1 ≠ b.1 := List.pairwise_map.mp hnodup
      refine hnames.imp fun {a b} hne way hway hway' => ?_
      simp only [List.mem_map] at hway hway'
      rcases hway with ⟨_, ⟨f, _, rfl⟩, rfl⟩
      rcases hway' with ⟨_, ⟨g, _, rfl⟩, heq⟩
      exact hne (List.cons.inj heq).1.symm

theorem WellFormed.at? (h : WellFormed t) (hat : t.at? way = some u) :
    WellFormed u ∧ ∀ name ∈ way, IsName name := by
  induction way generalizing t with
  | nil =>
    cases hat
    exact ⟨h, List.forall_mem_nil _⟩
  | cons name way ih =>
    rw [at?_cons] at hat
    rcases Option.bind_eq_some_iff.mp hat with ⟨own, hentry, hown⟩
    cases h with
    | file content => cases hentry
    | directory hnodup hnames hall =>
      have hmem := (lookup_eq_some_iff_mem hnodup).mp hentry
      rcases ih (hall _ hmem) hown with ⟨hu, hway⟩
      exact ⟨hu, List.forall_mem_cons.mpr ⟨hnames _ hmem, hway⟩⟩

theorem follow_of_at? (hnames : ∀ name ∈ names, IsName name)
    (hat : t.at? (way.reverse ++ names) = some u) :
    t.follow way names = .ok (names.reverse ++ way) := by
  induction names generalizing way with
  | nil => rfl
  | cons name names ih =>
    rw [List.forall_mem_cons] at hnames
    have hsplit := hat
    rw [at?_append] at hsplit
    rcases Option.bind_eq_some_iff.mp hsplit with ⟨own, hown, hentry⟩
    rw [at?_cons] at hentry
    rcases Option.bind_eq_some_iff.mp hentry with ⟨next, hnext, _⟩
    cases own with
    | file content => cases hnext
    | directory entries =>
      have hfirst := follow_name hnames.1 hown
      have hlookup : entries.lookup name = some next := hnext
      rw [hlookup, Option.isSome_some, if_pos rfl] at hfirst
      rw [← List.singleton_append, follow_append, hfirst]
      change t.follow (name :: way) names = _
      rw [ih hnames.2 (by simpa using hat), List.reverse_append, List.reverse_singleton,
        List.append_assoc, List.singleton_append]

theorem eq_of_follow {found : List String} (h : t.follow way names = .ok found)
    (hdot : "." ∉ names) (hdots : ".." ∉ names) : found = names.reverse ++ way := by
  induction names generalizing way with
  | nil =>
    cases h
    rfl
  | cons name names ih =>
    rw [List.mem_cons, not_or] at hdot hdots
    have hplain : (name == ".") = false ∧ (name == "..") = false := by
      simp [Ne.symm hdot.1, Ne.symm hdots.1]
    rw [follow] at h
    split at h
    . rw [hplain.1, hplain.2, if_neg (by simp), if_neg (by simp)] at h
      split at h
      . cases h
      . split at h
        . rw [ih h hdot.2 hdots.2, List.reverse_cons, List.append_assoc, List.singleton_append]
        . cases h
    . cases h
    . cases h

theorem follow_cons_cases (t : FileTree) (way : List String) (name : String) :
    (∃ next, ∀ names, t.follow way (name :: names) = t.follow next names) ∨
    ∃ flaw, (∀ names, t.follow way (name :: names) = .error flaw) ∧
      (flaw = .tooLong → maxNameSize < name.utf8ByteSize ∧
        ∃ entries, t.at? way.reverse = some (.directory entries)) := by
  simp only [follow]
  cases hat : t.at? way.reverse with
  | none => exact .inr ⟨.notFound, fun _ => rfl, by simp⟩
  | some u =>
    cases u with
    | file content => exact .inr ⟨.notDirectory, fun _ => rfl, by simp⟩
    | directory entries =>
      dsimp only
      split
      . exact .inl ⟨_, fun _ => rfl⟩
      . split
        . exact .inl ⟨_, fun _ => rfl⟩
        . split
          next hlong => exact .inr ⟨.tooLong, fun _ => rfl, fun _ => ⟨hlong, entries, rfl⟩⟩
          . split
            . exact .inl ⟨_, fun _ => rfl⟩
            . exact .inr ⟨.notFound, fun _ => rfl, by simp⟩

theorem follow_eq_tooLong_iff : t.follow way names = .error .tooLong ↔
    ∃ front name rest found entries, names = front ++ name :: rest ∧
      t.follow way front = .ok found ∧ t.at? found.reverse = some (.directory entries) ∧
      maxNameSize < name.utf8ByteSize := by
  constructor
  . intro h
    induction names generalizing way with
    | nil => cases h
    | cons name names ih =>
      rcases follow_cons_cases t way name with ⟨next, hnext⟩ | ⟨flaw, hflaw, hlong⟩
      . rw [hnext] at h
        rcases ih h with ⟨front, last, rest, found, entries, rfl, hfollow, hat, hsize⟩
        exact ⟨name :: front, last, rest, found, entries, rfl, by rw [hnext, hfollow], hat, hsize⟩
      . rw [hflaw] at h
        cases h
        rcases hlong rfl with ⟨hsize, entries, hat⟩
        exact ⟨[], name, names, way, entries, rfl, rfl, hat, hsize⟩
  . rintro ⟨front, name, rest, found, entries, rfl, hfollow, hat, hsize⟩
    have hdot : (name == ".") = false := by
      rw [beq_eq_false_iff_ne]
      rintro rfl
      exact absurd hsize (by decide)
    have hdots : (name == "..") = false := by
      rw [beq_eq_false_iff_ne]
      rintro rfl
      exact absurd hsize (by decide)
    rw [follow_append, hfollow]
    change t.follow found (name :: rest) = _
    rw [follow, hat]
    dsimp only
    rw [hdot, hdots, if_neg (by simp), if_neg (by simp), if_pos hsize]

end FileTree

namespace Discovery

open FileTree (IsName)
open QueryLinker.Path (IsPart)

variable {t : FileTree} {cwd : String} {s : Search} {directory path p q : String}
  {directories : List String} {entries : List (String × FileTree)} {way : List String}

/-! The files below one directory. -/

/--
A path is that of a file at some depth below a directory. Its name ends as it should, and no
directory on the way to it is left out.
-/
def Accepts (t : FileTree) (cwd : String) (s : Search) (directory path : String) : Prop :=
  ∃ entries between name content,
    t.find? cwd directory = some (.directory entries) ∧
    (FileTree.directory entries).at? (between ++ [name]) = some (.file content) ∧
    (∃ ending ∈ s.endings, ending.toList <:+ name.toList) ∧
    ¬ declarationEnding.toList <:+ name.toList ∧ (∀ part ∈ between, part ∉ s.excluded) ∧
    path = pathBelow directory (between ++ [name])

theorem ofString_pathBelow (directory : String) (h : ∀ part ∈ way, IsPart part) :
    Path.ofString (pathBelow directory way) =
      ⟨(Path.ofString directory).root, (Path.ofString directory).parts ++ way⟩ := by
  have hplain := Path.plain_ofString directory
  apply Path.ofString_toString
  refine ⟨hplain.root, fun part hpart => ?_⟩
  rcases List.mem_append.mp hpart with hown | hway
  . exact hplain.parts part hown
  . exact h part hway

theorem toString_ofString_pathBelow (directory : String) (h : ∀ part ∈ way, IsPart part) :
    toString (Path.ofString (pathBelow directory way)) = pathBelow directory way := by
  rw [ofString_pathBelow directory h]
  rfl

theorem componentsFrom_pathBelow (cwd directory : String) (h : ∀ part ∈ way, IsPart part) :
    FileTree.componentsFrom cwd (pathBelow directory way) =
      FileTree.componentsFrom cwd directory ++ way := by
  unfold FileTree.componentsFrom
  dsimp only
  rw [ofString_pathBelow directory h, FileTree.isAbsolute_append_part]
  split
  . rfl
  . rw [List.append_assoc]

theorem wayLe_iff (as bs : List String) : wayLe as bs ↔ as < bs ∨ as = bs := by
  induction as generalizing bs with
  | nil => cases bs <;> simp [wayLe]
  | cons a as ih =>
    cases bs with
    | nil => simp [wayLe]
    | cons b bs =>
      rw [wayLe, List.cons_lt_cons_iff, List.cons.injEq]
      split
      next hab =>
        subst hab
        simp [ih]
      next hab => simp [hab, lt_iff_le_and_ne]

theorem pairwise_ways (h : FileTree.WellFormed t) :
    (((FileTree.files t).map (·.1)).mergeSort wayLe).Pairwise (· < ·) := by
  have htrans (as bs cs : List String) : wayLe as bs → wayLe bs cs → wayLe as cs := by
    rw [wayLe_iff, wayLe_iff, wayLe_iff, ← le_iff_lt_or_eq, ← le_iff_lt_or_eq, ← le_iff_lt_or_eq]
    exact le_trans
  have htotal (as bs : List String) : (wayLe as bs || wayLe bs as) = true := by
    rw [Bool.or_eq_true, wayLe_iff, wayLe_iff, ← le_iff_lt_or_eq, ← le_iff_lt_or_eq]
    exact le_total as bs
  -- The order is strict because no way stands there twice.
  have hsorted := List.pairwise_mergeSort htrans htotal ((FileTree.files t).map (·.1))
  have hnodup : (((FileTree.files t).map (·.1)).mergeSort wayLe).Nodup :=
    (List.mergeSort_perm _ _).nodup_iff.mpr (FileTree.nodup_ways h)
  refine (hsorted.and hnodup).imp fun {as bs} hboth => ?_
  exact ((wayLe_iff as bs).mp hboth.1).resolve_right hboth.2

theorem accepts_iff (between : List String) (name : String) : s.accepts (between ++ [name]) ↔
    (∃ ending ∈ s.endings, ending.toList <:+ name.toList) ∧
      ¬ declarationEnding.toList <:+ name.toList ∧ ∀ part ∈ between, part ∉ s.excluded := by
  unfold Search.accepts
  rw [List.getLast?_concat, List.dropLast_concat]
  simp [← Text.endsWith_iff]
  tauto

theorem exists_follow_of_find? {u : FileTree} (h : t.find? cwd path = some u) :
    ∃ way, t.follow [] (FileTree.componentsFrom cwd path) = .ok way ∧
      t.at? way.reverse = some u := by
  unfold FileTree.find? FileTree.wayTo at h
  cases hfollow : t.follow [] (FileTree.componentsFrom cwd path) with
  | error flaw =>
    rw [hfollow] at h
    cases h
  | ok way =>
    rw [hfollow] at h
    exact ⟨way, rfl, h⟩

theorem wellFormed_of_find? (ht : t.WellFormed)
    (h : t.find? cwd directory = some (.directory entries)) :
    FileTree.WellFormed (.directory entries) := by
  rcases exists_follow_of_find? h with ⟨way, _, hat⟩
  exact (ht.at? hat).1

theorem below_eq (h : t.find? cwd directory = some (.directory entries)) :
    below t cwd s directory =
      ((((FileTree.files (.directory entries)).map (·.1)).mergeSort wayLe).filter s.accepts).map
        (pathBelow directory) := by
  unfold below
  rw [h]
  rfl

theorem mem_ways_iff (h : FileTree.WellFormed t) :
    way ∈ ((FileTree.files t).map (·.1)).mergeSort wayLe ↔
      ∃ content, t.at? way = some (.file content) := by
  rw [(List.mergeSort_perm _ _).mem_iff, List.mem_map]
  constructor
  . rintro ⟨⟨way, content⟩, hmem, rfl⟩
    exact ⟨content, (FileTree.mem_files_iff h).mp hmem⟩
  . rintro ⟨content, hat⟩
    exact ⟨(way, content), (FileTree.mem_files_iff h).mpr hat, rfl⟩

theorem mem_below_iff (ht : t.WellFormed) :
    path ∈ below t cwd s directory ↔ Accepts t cwd s directory path := by
  constructor
  . intro h
    have hfound : ∃ entries, t.find? cwd directory = some (.directory entries) := by
      unfold below at h
      split at h
      next entries hentries => exact ⟨entries, hentries⟩
      next => cases h
    rcases hfound with ⟨entries, hentries⟩
    rw [below_eq hentries] at h
    rcases List.mem_map.mp h with ⟨way, hway, rfl⟩
    rw [List.mem_filter, mem_ways_iff (wellFormed_of_find? ht hentries)] at hway
    rcases hway with ⟨⟨content, hat⟩, haccepts⟩
    rcases List.eq_nil_or_concat way with rfl | ⟨between, name, rfl⟩
    . cases haccepts
    . rw [List.concat_eq_append] at hat haccepts ⊢
      rcases (accepts_iff between name).mp haccepts with ⟨hending, hdeclares, hexcluded⟩
      exact ⟨entries, between, name, content, hentries, hat, hending, hdeclares, hexcluded, rfl⟩
  . rintro ⟨entries, between, name, content, hentries, hat, hending, hdeclares, hexcluded, rfl⟩
    rw [below_eq hentries]
    refine List.mem_map_of_mem (List.mem_filter.mpr ⟨?_, ?_⟩)
    . exact (mem_ways_iff (wellFormed_of_find? ht hentries)).mpr ⟨content, hat⟩
    . exact (accepts_iff between name).mpr ⟨hending, hdeclares, hexcluded⟩

theorem pairwise_below (ht : t.WellFormed) : (below t cwd s directory).Pairwise fun p q =>
    (Path.ofString p).parts < (Path.ofString q).parts := by
  unfold below
  split
  next entries hentries =>
    have hwellFormed := wellFormed_of_find? ht hentries
    have hways := (pairwise_ways hwellFormed).filter s.accepts
    refine List.pairwise_map.mpr (hways.imp_of_mem fun {as bs} has hbs hlt => ?_)
    have hparts {way : List String}
        (h : way ∈ (((FileTree.files (.directory entries)).map (·.1)).mergeSort wayLe).filter
          s.accepts) : ∀ part ∈ way, IsPart part := by
      rcases (mem_ways_iff hwellFormed).mp (List.mem_filter.mp h).1 with ⟨content, hat⟩
      exact fun part hpart => ((hwellFormed.at? hat).2 part hpart).isPart
    change (Path.ofString (pathBelow directory as)).parts <
      (Path.ofString (pathBelow directory bs)).parts
    rw [ofString_pathBelow directory (hparts has), ofString_pathBelow directory (hparts hbs)]
    exact List.append_left_lt hlt
  next => exact .nil

theorem nodup_below (ht : t.WellFormed) : (below t cwd s directory).Nodup :=
  (pairwise_below ht).imp fun hlt heq => absurd hlt (by rw [heq]; exact lt_irrefl _)

/-! The files below several directories. -/

theorem find_cons (ht : t.WellFormed) (directory : String) (directories : List String) :
    find t cwd s (directory :: directories) = below t cwd s directory ++
      (find t cwd s directories).filter fun path => path ∉ below t cwd s directory := by
  unfold find
  rw [List.flatMap_cons, List.eraseDups_append, ← appendNew_nil_left (below t cwd s directory),
    appendNew_of_nodup (by simpa using nodup_below ht), List.nil_append, ← eraseDups_filter,
    List.append_cancel_left_eq]
  apply congrArg List.eraseDups
  apply List.filter_congr
  intro path _
  simp

theorem mem_find_iff (ht : t.WellFormed) : path ∈ find t cwd s directories ↔
    ∃ directory ∈ directories, Accepts t cwd s directory path := by
  unfold find
  rw [List.mem_eraseDups, List.mem_flatMap]
  simp only [mem_below_iff ht]

/--
A path stands in front of another one: of the directories that accept either of them, the first
accepts it, and if this one accepts both, the components decide.
-/
def Precedes (t : FileTree) (cwd : String) (s : Search) (directories : List String)
    (p q : String) : Prop :=
  ∃ front directory rest, directories = front ++ directory :: rest ∧
    (∀ earlier ∈ front, ¬ Accepts t cwd s earlier p ∧ ¬ Accepts t cwd s earlier q) ∧
    Accepts t cwd s directory p ∧
    (Accepts t cwd s directory q → (Path.ofString p).parts < (Path.ofString q).parts)

theorem Precedes.cons (h : Precedes t cwd s directories p q)
    (hp : ¬ Accepts t cwd s directory p) (hq : ¬ Accepts t cwd s directory q) :
    Precedes t cwd s (directory :: directories) p q := by
  rcases h with ⟨front, first, rest, rfl, hfront, haccepts, horder⟩
  exact ⟨directory :: front, first, rest, rfl, List.forall_mem_cons.mpr ⟨⟨hp, hq⟩, hfront⟩,
    haccepts, horder⟩

theorem pairwise_find (ht : t.WellFormed) (directories : List String) :
    (find t cwd s directories).Pairwise (Precedes t cwd s directories) := by
  induction directories with
  | nil => exact .nil
  | cons directory directories ih =>
    rw [find_cons ht, List.pairwise_append]
    refine ⟨?_, ?_, ?_⟩
    . refine (pairwise_below ht).imp_of_mem fun {p q} hp _ hlt => ?_
      exact ⟨[], directory, directories, rfl, List.forall_mem_nil _, (mem_below_iff ht).mp hp,
        fun _ => hlt⟩
    . refine (ih.filter _).imp_of_mem fun {p q} hp hq hprecedes => ?_
      have hnot {path : String}
          (h : path ∈ (find t cwd s directories).filter
            fun path => path ∉ below t cwd s directory) : ¬ Accepts t cwd s directory path := by
        rw [← mem_below_iff ht]
        simpa using (List.mem_filter.mp h).2
      exact hprecedes.cons (hnot hp) (hnot hq)
    . intro p hp q hq
      have hnot : ¬ Accepts t cwd s directory q := by
        rw [← mem_below_iff ht]
        simpa using (List.mem_filter.mp hq).2
      exact ⟨[], directory, directories, rfl, List.forall_mem_nil _, (mem_below_iff ht).mp hp,
        fun haccepts => absurd haccepts hnot⟩

/-! One path for each file. -/

structure Uniform (directories : List String) : Prop where
  root : (∀ d ∈ directories, (Path.ofString d).root = "") ∨
    ∀ d ∈ directories, (Path.ofString d).root = "/"
  no_climb : ∀ d ∈ directories, ".." ∉ (Path.ofString d).parts

theorem Uniform.root_eq {d e : String} (h : Uniform directories) (hd : d ∈ directories)
    (he : e ∈ directories) : (Path.ofString d).root = (Path.ofString e).root := by
  rcases h.root with hroot | hroot <;> rw [hroot d hd, hroot e he]

theorem Accepts.exists_way (ht : t.WellFormed) (h : Accepts t cwd s directory path) :
    ∃ found way content, t.follow [] (FileTree.componentsFrom cwd directory) = .ok found ∧
      (∀ part ∈ way, IsPart part) ∧ path = pathBelow directory way ∧
      t.wayTo cwd path = .ok (found.reverse ++ way) ∧
      t.find? cwd path = some (.file content) := by
  rcases h with ⟨entries, between, name, content, hentries, hat, -, -, -, rfl⟩
  rcases exists_follow_of_find? hentries with ⟨found, hfound, hdirectory⟩
  have hnames := ((wellFormed_of_find? ht hentries).at? hat).2
  have hparts : ∀ part ∈ between ++ [name], IsPart part := fun part hpart =>
    (hnames part hpart).isPart
  have hfile : t.at? (found.reverse ++ (between ++ [name])) = some (.file content) := by
    rw [FileTree.at?_append, hdirectory]
    exact hat
  have hway : t.wayTo cwd (pathBelow directory (between ++ [name])) =
      .ok (found.reverse ++ (between ++ [name])) := by
    unfold FileTree.wayTo
    rw [componentsFrom_pathBelow cwd directory hparts, FileTree.follow_append, hfound]
    change (t.follow found (between ++ [name])).map List.reverse = _
    rw [FileTree.follow_of_at? hnames hfile]
    simp [Except.map]
  refine ⟨found, between ++ [name], content, hfound, hparts, rfl, hway, ?_⟩
  unfold FileTree.find?
  rw [hway]
  exact hfile

theorem exists_base (t : FileTree) (cwd : String) (isAbsolute : Bool) :
    ∃ base, ∀ {directory found}, (Path.ofString directory).isAbsolute = isAbsolute →
      ".." ∉ (Path.ofString directory).parts →
      t.follow [] (FileTree.componentsFrom cwd directory) = .ok found →
      found.reverse = base ++ (Path.ofString directory).parts := by
  have hdot (directory : String) : "." ∉ (Path.ofString directory).parts := fun hmem =>
    ((Path.plain_ofString directory).parts _ hmem).ne_dot rfl
  cases isAbsolute with
  | true =>
    refine ⟨[], fun {directory found} habsolute hclimb hfollow => ?_⟩
    rw [FileTree.componentsFrom, habsolute, if_pos rfl] at hfollow
    rw [FileTree.eq_of_follow hfollow (hdot _) hclimb]
    simp
  | false =>
    cases hbase : t.follow [] (Path.ofString cwd).parts with
    | error flaw =>
      refine ⟨[], fun {directory found} hrelative _ hfollow => ?_⟩
      rw [FileTree.componentsFrom, hrelative, if_neg (by simp), FileTree.follow_append,
        hbase] at hfollow
      cases hfollow
    | ok base =>
      refine ⟨base.reverse, fun {directory found} hrelative hclimb hfollow => ?_⟩
      rw [FileTree.componentsFrom, hrelative, if_neg (by simp), FileTree.follow_append,
        hbase] at hfollow
      rw [FileTree.eq_of_follow hfollow (hdot _) hclimb]
      simp

theorem eq_of_wayTo (ht : t.WellFormed) (hdirectories : Uniform directories)
    (hp : p ∈ find t cwd s directories) (hq : q ∈ find t cwd s directories)
    (h : t.wayTo cwd p = t.wayTo cwd q) : p = q := by
  rcases (mem_find_iff ht).mp hp with ⟨d, hd, hpd⟩
  rcases (mem_find_iff ht).mp hq with ⟨e, he, hqe⟩
  rcases hpd.exists_way ht with ⟨found, way, _, hfound, hway, rfl, hpath, -⟩
  rcases hqe.exists_way ht with ⟨found', way', _, hfound', hway', rfl, hpath', -⟩
  have hroot := hdirectories.root_eq hd he
  have habsolute : (Path.ofString e).isAbsolute = (Path.ofString d).isAbsolute := by
    rw [Path.isAbsolute, Path.isAbsolute, hroot]
  -- Both directories are reached from one base, so that the ways differ in the parts alone.
  rcases exists_base t cwd (Path.ofString d).isAbsolute with ⟨base, hbase⟩
  rw [hpath, hpath', Except.ok.injEq, hbase rfl (hdirectories.no_climb d hd) hfound,
    hbase habsolute (hdirectories.no_climb e he) hfound', List.append_assoc, List.append_assoc,
    List.append_cancel_left_eq] at h
  rw [← toString_ofString_pathBelow d hway, ← toString_ofString_pathBelow e hway',
    ofString_pathBelow d hway, ofString_pathBelow e hway', hroot, h]

theorem nodup_find (s : Search) (directories : List String) (t : FileTree) (cwd : String) :
    (find t cwd s directories).Nodup :=
  nodup_eraseDups _

theorem nodup_wayTo_find (ht : t.WellFormed) (hdirectories : Uniform directories) :
    ((find t cwd s directories).map (t.wayTo cwd)).Nodup :=
  (nodup_find s directories t cwd).map_on fun _ hp _ hq h => eq_of_wayTo ht hdirectories hp hq h

/-! Directories that cannot be asked for. -/

/--
It is not told whether a directory is there, as its path is too long, or a name in it that stands
behind a directory that is there.
-/
def Refused (t : FileTree) (cwd directory : String) : Prop :=
  '\x00' ∉ directory.toList ∧
    (FileTree.maxPathSize < (toString (Path.ofString directory)).utf8ByteSize ∨
      ∃ front name rest entries,
        FileTree.componentsFrom cwd directory = front ++ name :: rest ∧
        t.entriesAt? front = some entries ∧ FileTree.maxNameSize < name.utf8ByteSize)

theorem wayTo_eq_tooLong_iff : t.wayTo cwd directory = .error .tooLong ↔
    ∃ front name rest entries, FileTree.componentsFrom cwd directory = front ++ name :: rest ∧
      t.entriesAt? front = some entries ∧ FileTree.maxNameSize < name.utf8ByteSize := by
  have hmap : t.wayTo cwd directory = .error .tooLong ↔
      t.follow [] (FileTree.componentsFrom cwd directory) = .error .tooLong := by
    unfold FileTree.wayTo
    cases t.follow [] (FileTree.componentsFrom cwd directory) <;> simp [Except.map]
  rw [hmap, FileTree.follow_eq_tooLong_iff]
  simp only [FileTree.entriesAt?_eq_some_iff]
  constructor
  . rintro ⟨front, name, rest, found, entries, hnames, hfollow, hat, hsize⟩
    exact ⟨front, name, rest, entries, hnames, ⟨found, hfollow, hat⟩, hsize⟩
  . rintro ⟨front, name, rest, entries, hnames, ⟨found, hfollow, hat⟩, hsize⟩
    exact ⟨front, name, rest, found, entries, hnames, hfollow, hat, hsize⟩

theorem exists_isThere_error_iff :
    (∃ failure, t.isThere cwd directory = .error failure) ↔ Refused t cwd directory := by
  unfold Refused
  rw [← wayTo_eq_tooLong_iff]
  have hnull : directory.contains '\x00' = decide ('\x00' ∈ directory.toList) :=
    String.contains_char_eq
  unfold FileTree.isThere
  dsimp only
  rw [hnull]
  by_cases hin : '\x00' ∈ directory.toList
  . rw [decide_eq_true hin, Bool.not_true, Bool.and_false, if_neg (by simp)]
    split <;> simp [hin]
  . rw [decide_eq_false hin, Bool.not_false, Bool.and_true]
    by_cases hlong :
        FileTree.maxPathSize < (toString (Path.ofString directory)).utf8ByteSize
    . simp [hin, hlong]
    . rw [decide_eq_false hlong, if_neg (by simp)]
      split <;> simp_all

/-! Searches that are given up. -/

/-- The search of a directory ends at what is in it: at a path that is too long, or too deep. -/
def Blocked (t : FileTree) (cwd : String) (nesting : Nat) (directory : String) : Prop :=
  ∃ entries way u, t.find? cwd directory = some (.directory entries) ∧
    (FileTree.directory entries).at? way = some u ∧
    (FileTree.maxPathSize < (pathBelow directory way).utf8ByteSize ∨
      u.isDirectory ∧ nesting ≤ way.length)

theorem pathStop?_ne_none_iff :
    pathStop? directory way ≠ none ↔
      FileTree.maxPathSize < (pathBelow directory way).utf8ByteSize := by
  unfold pathStop?
  dsimp only
  split
  next hlong => simp [hlong]
  next hlong => simp [hlong]

theorem entriesStop?_ne_none_iff {nesting : Nat} :
    entriesStop? directory nesting way entries ≠ none ↔
      ∃ e ∈ entries, listingStop? directory nesting (way ++ [e.1]) e.2 ≠ none := by
  induction entries with
  | nil => simp [entriesStop?]
  | cons e entries ih =>
    rcases e with ⟨name, u⟩
    rw [entriesStop?, entryStop?, List.exists_mem_cons_iff, ← ih]
    cases listingStop? directory nesting (way ++ [name]) u <;> simp

theorem listingStop?_ne_none_iff {nesting : Nat} (ht : t.WellFormed) :
    listingStop? directory nesting way t ≠ none ↔
      ∃ names entries, t.at? names = some (.directory entries) ∧
        (FileTree.maxPathSize < (pathBelow directory (way ++ names)).utf8ByteSize ∨
          nesting ≤ (way ++ names).length) := by
  induction ht generalizing way with
  | file content =>
    refine ⟨fun h => absurd rfl h, ?_⟩
    rintro ⟨names, entries, hat, -⟩
    cases names with
    | nil => cases hat
    | cons name names => cases hat
  | @directory entries hnodup _ _ ih =>
    rw [listingStop?]
    split
    next hdepth =>
      rw [ne_eq, Option.or_eq_none_iff, not_and_or, ← ne_eq, ← ne_eq, pathStop?_ne_none_iff,
        entriesStop?_ne_none_iff]
      constructor
      . rintro (hlong | ⟨⟨name, u⟩, he, hstop⟩)
        . exact ⟨[], entries, rfl, .inl (by rwa [List.append_nil])⟩
        . rcases (ih _ he).mp hstop with ⟨names, inner, hat, hends⟩
          refine ⟨name :: names, inner, ?_, by rwa [List.append_cons]⟩
          rw [FileTree.at?_cons, FileTree.entry?, FileTree.entries,
            (lookup_eq_some_iff_mem hnodup).mpr he]
          exact hat
      . rintro ⟨names, inner, hat, hends⟩
        cases names with
        | nil =>
          rw [List.append_nil] at hends
          exact .inl (hends.resolve_right (Nat.not_le.mpr hdepth))
        | cons name names =>
          rw [FileTree.at?_cons] at hat
          rcases Option.bind_eq_some_iff.mp hat with ⟨u, hu, hinner⟩
          have he : (name, u) ∈ entries := (lookup_eq_some_iff_mem hnodup).mp hu
          refine .inr ⟨(name, u), he, (ih _ he).mpr ⟨names, inner, hinner, ?_⟩⟩
          rwa [List.append_cons] at hends
    next hdepth =>
      refine ⟨fun _ => ⟨[], entries, rfl, .inr ?_⟩, fun _ => Option.some_ne_none _⟩
      rw [List.append_nil]
      exact Nat.not_lt.mp hdepth

theorem fileStop?_ne_none_iff (h : FileTree.WellFormed (.directory entries)) :
    (waysIn entries).findSome? (pathStop? directory) ≠ none ↔
      ∃ way content, (FileTree.directory entries).at? way = some (.file content) ∧
        FileTree.maxPathSize < (pathBelow directory way).utf8ByteSize := by
  have hways (way : List String) : way ∈ waysIn entries ↔
      ∃ content, (FileTree.directory entries).at? way = some (.file content) :=
    mem_ways_iff h
  rw [ne_eq, List.findSome?_eq_none_iff]
  simp only [not_forall, hways, ← pathStop?_ne_none_iff]
  constructor
  . rintro ⟨way, ⟨content, hat⟩, hlong⟩
    exact ⟨way, content, hat, hlong⟩
  . rintro ⟨way, content, hat, hlong⟩
    exact ⟨way, ⟨content, hat⟩, hlong⟩

theorem directoryStop?_ne_none_iff (ht : t.WellFormed) {nesting : Nat} :
    directoryStop? t cwd nesting directory ≠ none ↔
      Refused t cwd directory ∨ Blocked t cwd nesting directory := by
  rw [← exists_isThere_error_iff]
  unfold directoryStop?
  cases hthere : t.isThere cwd directory with
  | error failure => exact ⟨fun _ => .inl ⟨failure, rfl⟩, fun _ => nofun⟩
  | ok isThere =>
    dsimp only
    split
    next entries hentries =>
      have hwellFormed := wellFormed_of_find? ht hentries
      rw [ne_eq, Option.or_eq_none_iff, not_and_or, ← ne_eq, ← ne_eq,
        listingStop?_ne_none_iff hwellFormed, fileStop?_ne_none_iff hwellFormed]
      constructor
      . rintro (⟨way, inner, hat, hends⟩ | ⟨way, content, hat, hlong⟩)
        . exact .inr ⟨entries, way, _, hentries, hat, hends.imp_right fun hdeep => ⟨rfl, hdeep⟩⟩
        . exact .inr ⟨entries, way, _, hentries, hat, .inl hlong⟩
      . rintro (⟨_, hthrow⟩ | ⟨own, way, u, hown, hat, hends⟩)
        . cases hthrow
        . cases hentries.symm.trans hown
          cases u with
          | directory inner =>
            exact .inl ⟨way, inner, hat, hends.imp_right And.right⟩
          | file content =>
            exact .inr ⟨way, content, hat, hends.resolve_right fun hdeep => nomatch hdeep.1⟩
    next hnone =>
      refine ⟨fun h => absurd rfl h, ?_⟩
      rintro (⟨_, hthrow⟩ | ⟨own, _, _, hown, _⟩)
      . cases hthrow
      . exact absurd hown (hnone own)

theorem search_eq (t : FileTree) (cwd : String) (s : Search) (directories : List String)
    (nesting : Nat) :
    search t cwd s directories nesting =
      match stop? t cwd directories nesting with
      | some stop => .error stop
      | none => .ok (find t cwd s directories) := by
  unfold search checkNames
  cases stop? t cwd directories nesting with
  | none => rfl
  | some stop => cases stop <;> rfl

theorem find_of_search {nesting : Nat} {paths : List String}
    (h : search t cwd s directories nesting = .ok paths) : find t cwd s directories = paths := by
  rw [search_eq] at h
  split at h
  . cases h
  . cases h
    rfl

theorem exists_search_error_iff (ht : t.WellFormed) {nesting : Nat} :
    (∃ stop, search t cwd s directories nesting = .error stop) ↔
      ∃ directory ∈ directories, Refused t cwd directory ∨ Blocked t cwd nesting directory := by
  have hstop : (∃ stop, search t cwd s directories nesting = .error stop) ↔
      stop? t cwd directories nesting ≠ none := by
    rw [search_eq]
    cases stop? t cwd directories nesting <;> simp
  rw [hstop, stop?, ne_eq, List.findSome?_eq_none_iff]
  simp only [← directoryStop?_ne_none_iff ht, not_forall, exists_prop, ne_eq]

/--
A search is given up iff a listed directory cannot be asked for, or a path below one that is there
is too long or too deep. Otherwise the paths are exactly those of what one of the directories
accepts, each file once, in the order of the directories and then of the components.
-/
theorem find_exact (ht : t.WellFormed) (hdirectories : Uniform directories) (cwd : String)
    (s : Search) (nesting : Nat) :
    ((∃ stop, search t cwd s directories nesting = .error stop) ↔
      ∃ directory ∈ directories, Refused t cwd directory ∨ Blocked t cwd nesting directory) ∧
    ∀ paths, search t cwd s directories nesting = .ok paths →
      (∀ path, path ∈ paths ↔ ∃ directory ∈ directories, Accepts t cwd s directory path) ∧
      (∀ path ∈ paths, ∃ content, t.find? cwd path = some (.file content)) ∧
      (paths.map (t.wayTo cwd)).Nodup ∧
      paths.Pairwise (Precedes t cwd s directories) := by
  refine ⟨exists_search_error_iff ht, fun paths hpaths => ?_⟩
  rw [← find_of_search hpaths]
  refine ⟨fun _ => mem_find_iff ht, fun path hpath => ?_, nodup_wayTo_find ht hdirectories,
    pairwise_find ht directories⟩
  rcases (mem_find_iff ht).mp hpath with ⟨directory, _, haccepts⟩
  rcases haccepts.exists_way ht with ⟨_, _, content, _, _, _, _, hfile⟩
  exact ⟨content, hfile⟩

namespace Sample

def generated : List (String × FileTree) :=
  [("q.gql", .file .empty)]

def source : List (String × FileTree) :=
  [("gen", .directory generated), ("a.gql", .file .empty)]

def tree : FileTree :=
  .directory [("src", .directory source)]

def search : Search where
  endings := [".gql"]
  excluded := ["gen"]

def nested : List String :=
  ["src", "src/gen"]

theorem wellFormed_file {name : String} (hname : FileTree.IsName name) :
    FileTree.WellFormed (.directory [(name, .file .empty)]) := by
  refine .directory (List.nodup_singleton _) ?_ ?_ <;> rw [List.forall_mem_singleton]
  . exact hname
  . exact .file _

theorem wellFormed_tree : tree.WellFormed := by
  have hsource : FileTree.WellFormed
      (.directory source) := by
    refine .directory (by decide) ?_ ?_ <;> simp only [source, List.forall_mem_cons]
    . exact ⟨⟨by decide, by decide, by decide⟩, ⟨by decide, by decide, by decide⟩, by simp⟩
    . exact ⟨wellFormed_file ⟨by decide, by decide, by decide⟩, .file _, by simp⟩
  refine .directory (List.nodup_singleton _) ?_ ?_ <;> rw [List.forall_mem_singleton]
  . exact ⟨by decide, by decide, by decide⟩
  . exact hsource

theorem directoryStop?_eq_none (hthere : (t.isThere cwd directory).toOption.isSome)
    (hentries : t.find? cwd directory = some (.directory entries)) {nesting : Nat}
    (hlisting : listingStop? directory nesting [] (.directory entries) = none)
    (hfiles : ∀ way ∈ (FileTree.entriesFiles entries).map (·.1), pathStop? directory way = none) :
    directoryStop? t cwd nesting directory = none := by
  unfold directoryStop?
  cases hask : t.isThere cwd directory with
  | error failure =>
    rw [hask] at hthere
    cases hthere
  | ok isThere =>
    dsimp only
    rw [hentries]
    dsimp only
    rw [hlisting, Option.none_or, List.findSome?_eq_none_iff]
    exact fun way hway => hfiles way ((List.mergeSort_perm _ _).mem_iff.mp hway)

theorem find?_nested : tree.find? "/" "src" = some (.directory source) ∧
    tree.find? "/" "src/gen" = some (.directory generated) := by
  have hcomponents : FileTree.componentsFrom "/" "src" = ["src"] ∧
      FileTree.componentsFrom "/" "src/gen" = ["src", "gen"] := by decide
  unfold FileTree.find? FileTree.wayTo
  rw [hcomponents.1, hcomponents.2]
  exact ⟨rfl, rfl⟩

theorem search_nested : Discovery.search tree "/" search nested usualNesting =
    .ok (find tree "/" search nested) := by
  have hstop : stop? tree "/" nested usualNesting = none := by
    rw [stop?, List.findSome?_eq_none_iff, nested, List.forall_mem_cons, List.forall_mem_singleton]
    exact ⟨directoryStop?_eq_none (by decide +kernel) find?_nested.1 (by decide +kernel)
        (by decide +kernel),
      directoryStop?_eq_none (by decide +kernel) find?_nested.2 (by decide +kernel)
        (by decide +kernel)⟩
  rw [search_eq, hstop]

theorem uniform_nested : Uniform nested where
  root := .inl (by decide)
  no_climb := by decide

theorem accepts_generated : Accepts tree "/" search "src/gen" "src/gen/q.gql" := by
  refine ⟨generated, [], "q.gql", .empty, find?_nested.2, rfl, ⟨".gql", by decide, by decide⟩,
    by decide, List.forall_mem_nil _, by decide⟩

def longName : String :=
  String.ofList (List.replicate 256 'a')

theorem toList_longName : longName.toList = List.replicate 256 'a' :=
  String.toList_ofList

theorem eq_of_mem_longName {c : Char} (h : c ∈ longName.toList) : c = 'a' :=
  List.eq_of_mem_replicate (toList_longName ▸ h)

theorem isPart_longName : IsPart longName := by
  have hlength : longName.toList.length = 256 := by
    rw [toList_longName, List.length_replicate]
  refine ⟨fun h => ?_, fun h => ?_, fun h => absurd (eq_of_mem_longName h) (by decide)⟩ <;>
  . rw [h] at hlength
    exact absurd hlength (by decide)

end Sample

theorem find_exact_nested : Sample.tree.WellFormed ∧ Uniform Sample.nested ∧
    ∃ paths, search Sample.tree "/" Sample.search Sample.nested usualNesting = .ok paths ∧
      "src/gen/q.gql" ∈ paths ∧ (paths.map (Sample.tree.wayTo "/")).Nodup := by
  rcases find_exact Sample.wellFormed_tree Sample.uniform_nested "/" Sample.search usualNesting with
    ⟨-, hfound⟩
  rcases hfound _ Sample.search_nested with ⟨hmem, -, hnodup, -⟩
  exact ⟨Sample.wellFormed_tree, Sample.uniform_nested, _, Sample.search_nested,
    (hmem _).mpr ⟨"src/gen", by decide, Sample.accepts_generated⟩, hnodup⟩

/-- A missing directory is not passed over if its name is too long. -/
theorem search_long_name : FileTree.WellFormed .empty ∧ Uniform [Sample.longName] ∧
    ∃ stop, search .empty "/" Sample.search [Sample.longName] usualNesting = .error stop := by
  have hpath : Path.ofString Sample.longName = ⟨"", [Sample.longName]⟩ :=
    Path.ofString_part Sample.isPart_longName
  have hnull : '\x00' ∉ Sample.longName.toList := fun h =>
    absurd (Sample.eq_of_mem_longName h) (by decide)
  have hcomponents : FileTree.componentsFrom "/" Sample.longName = [Sample.longName] := by
    rw [FileTree.componentsFrom, hpath]
    rfl
  have hclimb : ".." ∉ [Sample.longName] := fun h =>
    absurd (Sample.eq_of_mem_longName (c := '.') (by rw [← List.mem_singleton.mp h]; decide))
      (by decide)
  have hsize : FileTree.maxNameSize < Sample.longName.utf8ByteSize := by decide +kernel
  have hempty : FileTree.WellFormed .empty :=
    .directory List.nodup_nil (List.forall_mem_nil _) (List.forall_mem_nil _)
  refine ⟨hempty, ⟨.inl ?_, ?_⟩, ?_⟩
  . rw [List.forall_mem_singleton, hpath]
  . rw [List.forall_mem_singleton, hpath]
    exact hclimb
  . refine (exists_search_error_iff hempty).mpr
      ⟨Sample.longName, List.mem_singleton_self _, .inl ⟨hnull, .inr ?_⟩⟩
    exact ⟨[], Sample.longName, [], [], hcomponents, rfl, hsize⟩

end Discovery

end QueryLinker
