import QueryLinker.Proofs.Project.SchemaProfile

/-!
This module contains that the cached schemas stay true over a whole series of calls: a call that is
answered from the cache gives what the last fetch of the same endpoint gave, a call that fetches
keeps what it returns, and a call that fails leaves the cache as it was.
-/

namespace QueryLinker

structure SchemaCall where
  surroundings : Surroundings
  config : Config
  request : SchemaRequest
  outcome : Http.Outcome

structure SchemaVisit where
  call : SchemaCall
  before : FileTree
  after : FileTree
  requests : List Http.Request
  result : Except RunFailure SchemaProfile

namespace SchemaCall

def file? (c : SchemaCall) : Option String :=
  SchemaProfile.given? c.request.file?

def endpoint? (c : SchemaCall) : Option String :=
  match c.file? with
  | some _ => none
  | none => SchemaProfile.given? c.request.url?

def run (c : SchemaCall) (files : FileTree) : SchemaVisit :=
  let (result, session) :=
    (SchemaProfile.load c.surroundings c.config c.request).run { files, outcomes := [c.outcome] }
  ⟨c, files, session.files, session.requests, result⟩

def runAll (files : FileTree) : List SchemaCall → List SchemaVisit
  | [] => []
  | call :: calls => call.run files :: runAll (call.run files).after calls

end SchemaCall

namespace SchemaVisit

def isFetchOf (url : String) (v : SchemaVisit) : Bool :=
  v.call.endpoint? == some url && !v.requests.isEmpty && v.result.isOk

def lastFetch? (url : String) (earlier : List SchemaVisit) : Option SchemaVisit :=
  earlier.reverse.find? (isFetchOf url)

def now (v : SchemaVisit) : Timestamp :=
  v.call.surroundings.now

end SchemaVisit

namespace SchemaCache

/-- The cache directory has no files yet; where it is not there, it is clear which one will be. -/
structure IsFresh (cwd directory : String) (files : FileTree) : Prop where
  root : files.isDirectory
  empty : (files.entriesAt? (FileTree.componentsFrom cwd directory)).getD [] = []
  dots : (files.entriesAt? (FileTree.componentsFrom cwd directory)).isSome ∨
    ".." ∉ FileTree.componentsFrom cwd directory

/-- A call in some directory with some cache directory, on terms under which times are counted. -/
structure IsRegular (cwd directory : String) (nesting : Nat) (c : SchemaCall) : Prop where
  runsIn : c.surroundings.directory = cwd
  room : c.surroundings.nesting = nesting
  keepsIn : c.config.schemaCacheDirectory = directory
  now : c.surroundings.now.Utc
  hours : c.config.schemaCacheHours = .null ∨
    ∃ micros, Duration.microsOfHours c.config.schemaCacheHours = .ok micros
  named : ∀ {url}, c.endpoint? = some url → ∃ path, filePath directory url = .ok path

def Keeps (cwd : String) (nesting : Nat) (path : String) (files : FileTree)
    (profile : SchemaProfile) : Prop :=
  ∀ surroundings session, surroundings.directory = cwd → nesting ≤ surroundings.nesting →
    session.files = files →
    (SchemaProfile.kept? surroundings .null path).run session = (.ok (some profile), session)

/-- What a call of an endpoint may come to after earlier calls. -/
inductive Coherent (cwd directory : String) (earlier : List SchemaVisit) (v : SchemaVisit)
    (url : String) : Prop where
  | kept {fetch : SchemaVisit} {profile : SchemaProfile}
    (hfetch : SchemaVisit.lastFetch? url earlier = some fetch)
    (hprofile : fetch.result = .ok profile) (hresult : v.result = .ok profile)
    (hurl : profile.url = .str url)
    (hrequests : v.requests = []) (hfiles : v.after = v.before)
    (hrefresh : v.call.request.refresh = false)
    (hage : v.call.config.schemaCacheHours = .null ∨ ∃ micros,
      Duration.microsOfHours v.call.config.schemaCacheHours = .ok micros ∧
        v.now.clock - fetch.now.clock ≤ micros)
  | fetched {path : String} {data : Json} (hpath : filePath directory url = .ok path)
    (hrequests : ∃ token?, v.requests = [Introspection.request url token?])
    (hdata : Introspection.ofOutcome url (v.call.outcome.ofServer url) = .ok data)
    (hresult : v.result = .ok ⟨.str url, .str v.now.text, .str data.fingerprint, data⟩)
    (hkeeps : Keeps cwd v.call.surroundings.nesting path v.after
      ⟨.str url, .str v.now.text, .str data.fingerprint, data⟩)
    (hothers : ∀ {other otherPath}, filePath directory other = .ok otherPath →
      otherPath ≠ path → v.after.find? cwd otherPath = v.before.find? cwd otherPath)
  | failed {failure : RunFailure}
    (hrequests : ∃ token?, v.requests = [Introspection.request url token?])
    (hresult : v.result = .error failure)
    (hfiles : ∀ {other otherPath}, filePath directory other = .ok otherPath →
      v.after.find? cwd otherPath = v.before.find? cwd otherPath)

/--
What a call of an endpoint comes to whose file the file system cannot have: it is not told whether
there is one.
-/
structure Refused (cwd directory : String) (v : SchemaVisit) (url : String) : Prop where
  tooLong : ∃ path, filePath directory url = .ok path ∧ ¬ FileTree.Fits cwd path
  refresh : v.call.request.refresh = false
  requests : v.requests = []
  result : ∃ failure, v.result = .error failure
  files : v.after = v.before

variable {cwd directory url other path otherPath name : String} {nesting : Nat}
  {files later : FileTree} {earlier : List SchemaVisit} {v : SchemaVisit} {call : SchemaCall}

def entries (cwd directory : String) (files : FileTree) : List (String × FileTree) :=
  (files.entriesAt? (FileTree.componentsFrom cwd directory)).getD []

theorem find?_eq_lookup (files : FileTree) (hname : fileName url = .ok name) :
    files.find? cwd (Path.join [directory, name]) =
      if FileTree.maxNameSize < name.utf8ByteSize then none
      else (entries cwd directory files).lookup name := by
  rcases isPart_fileName hname with ⟨hpart, hdots⟩
  split
  next hsize => exact FileTree.find?_join_of_tooLong files cwd directory hpart hdots hsize
  next hsize =>
    rw [FileTree.find?_join files cwd directory ⟨hpart, hdots, Nat.le_of_not_lt hsize⟩, entries]
    cases files.entriesAt? (FileTree.componentsFrom cwd directory) <;> rfl

theorem find?_congr (hpath : filePath directory url = .ok path)
    (h : entries cwd directory later = entries cwd directory files) :
    later.find? cwd path = files.find? cwd path := by
  rcases filePath_eq_ok_iff.mp hpath with ⟨name, hname, rfl⟩
  rw [find?_eq_lookup later hname, find?_eq_lookup files hname, h]

theorem find?_of_put (hname : fileName url = .ok name) {file : FileTree}
    (h : entries cwd directory later = Keyed.put name file (entries cwd directory files))
    (hother : filePath directory other = .ok otherPath)
    (hne : otherPath ≠ Path.join [directory, name]) :
    later.find? cwd otherPath = files.find? cwd otherPath := by
  rcases filePath_eq_ok_iff.mp hother with ⟨otherName, hotherName, rfl⟩
  have hnames : otherName ≠ name := by
    rintro rfl
    exact hne rfl
  have hlookup : (entries cwd directory later).lookup otherName =
      (entries cwd directory files).lookup otherName := by
    rw [h, Keyed.lookup_put, if_neg (by simpa using hnames)]
  rw [find?_eq_lookup later hotherName, find?_eq_lookup files hotherName, hlookup]

/-- A file holds what the last fetch of its endpoint gave; without one there is no file. -/
inductive Matches (cwd : String) (nesting : Nat) (path : String) (files : FileTree) (url : String) :
    Option SchemaVisit → Prop where
  | absent (h : files.find? cwd path = none) : Matches cwd nesting path files url none
  | stored {v : SchemaVisit} {data : Json}
    (hresult : v.result = .ok (SchemaProfile.ofSchema url v.now data))
    (hreadable : Json.Readable data)
    (hroom : (SchemaProfile.ofSchema url v.now data).canCopy nesting) (hnow : v.now.Utc)
    (hflaw : FileTree.pathFlaw? path = none)
    (hfind : files.find? cwd path =
      some (.file (SchemaProfile.ofSchema url v.now data).toJson.pretty.toUTF8)) :
    Matches cwd nesting path files url (some v)

theorem Matches.congr {last? : Option SchemaVisit} (h : Matches cwd nesting path files url last?)
    (hfind : later.find? cwd path = files.find? cwd path) :
    Matches cwd nesting path later url last? := by
  cases h with
  | absent hnone => exact .absent (hfind.trans hnone)
  | stored hresult hreadable hroom hnow hflaw hstored =>
    exact .stored hresult hreadable hroom hnow hflaw (hfind.trans hstored)

structure Holds (cwd directory : String) (nesting : Nat) (known : String → Prop)
    (earlier : List SchemaVisit) (files : FileTree) : Prop where
  root : files.isDirectory
  dots : (files.entriesAt? (FileTree.componentsFrom cwd directory)).isSome ∨
    ".." ∉ FileTree.componentsFrom cwd directory
  files : ∀ {url path}, known url → filePath directory url = .ok path →
    Matches cwd nesting path files url (SchemaVisit.lastFetch? url earlier)

theorem holds_of_isFresh (known : String → Prop) (h : IsFresh cwd directory files) :
    Holds cwd directory nesting known [] files where
  root := h.root
  dots := h.dots
  files := by
    intro url path _ hpath
    rcases filePath_eq_ok_iff.mp hpath with ⟨name, hname, rfl⟩
    refine .absent ?_
    rw [find?_eq_lookup files hname, entries, h.empty]
    split <;> rfl

theorem run_kept?_matches {surroundings : Surroundings} {hours : Yaml.Value} {s : Session}
    {fetched : Timestamp}
    {data : Json} {expired : Bool} (hcwd : surroundings.directory = cwd)
    (hpath : filePath directory url = .ok path) (hreadable : Json.Readable data)
    (hroom : (SchemaProfile.ofSchema url fetched data).canCopy surroundings.nesting)
    (hflaw : FileTree.pathFlaw? path = none)
    (hfind : s.files.find? cwd path =
      some (.file (SchemaProfile.ofSchema url fetched data).toJson.pretty.toUTF8))
    (hexpired : (SchemaProfile.ofSchema url fetched data).isExpired surroundings.now hours =
      .ok expired) :
    (SchemaProfile.kept? surroundings hours path).run s =
      (.ok (if expired then none else some (SchemaProfile.ofSchema url fetched data)), s) := by
  subst hcwd
  rcases filePath_eq_ok_iff.mp hpath with ⟨name, hname, rfl⟩
  have hpart := (isPart_fileName hname).1
  exact SchemaProfile.run_kept?_stored (FileTree.isThere_of_find? hpart hflaw hfind)
    (FileTree.read_join hpart hflaw hfind)
    (SchemaProfile.readable_toJson url fetched hreadable) (SchemaProfile.levels_toJson_le hroom)
    hexpired

/-! One call. -/

open SchemaProfile (load kept? fetch given?)

theorem run_load_file {schemaFile : String} (h : call.file? = some schemaFile)
    (session : Session) :
    ∃ result, (load call.surroundings call.config call.request).run session =
      (result, session) := by
  have hfile : given? call.request.file? = some schemaFile := h
  rw [SchemaProfile.load_file hfile]
  exact SchemaProfile.isQuiet_ofFile call.surroundings schemaFile session

theorem run_load_nothing (hfile : call.file? = none) (h : call.endpoint? = none)
    (session : Session) :
    ∃ failure, (load call.surroundings call.config call.request).run session =
      (.error failure, session) := by
  unfold SchemaCall.endpoint? at h
  rw [hfile] at h
  have hnone : given? call.request.file? = none := hfile
  have hurl : given? call.request.url? = none := h
  unfold load
  rw [hnone, hurl]
  exact ⟨_, rfl⟩

theorem run_load_endpoint (h : call.endpoint? = some url) :
    load call.surroundings call.config call.request = (do
      let path ← (liftM (SchemaProfile.cacheFile call.config url) : Work String)
      let kept? ← if call.request.refresh then pure none
        else kept? call.surroundings call.config.schemaCacheHours path
      match kept? with
      | some profile => return profile
      | none =>
        fetch call.surroundings url ((given? call.request.token?).or call.surroundings.token?)
          path) := by
  unfold SchemaCall.endpoint? SchemaCall.file? at h
  split at h
  . cases h
  next hfile => exact SchemaProfile.load_url hfile h

theorem run_cacheFile (hpath : filePath call.config.schemaCacheDirectory url = .ok path)
    (session : Session) :
    (liftM (SchemaProfile.cacheFile call.config url) : Work String).run session =
      (.ok path, session) := by
  rw [Work.run_lift, SchemaProfile.cacheFile, hpath]
  rfl

theorem run_load_kept {session : Session} {profile : SchemaProfile}
    (h : call.endpoint? = some url)
    (hpath : filePath call.config.schemaCacheDirectory url = .ok path)
    (hrefresh : call.request.refresh = false)
    (hkept : (kept? call.surroundings call.config.schemaCacheHours path).run session =
      (.ok (some profile), session)) :
    (load call.surroundings call.config call.request).run session = (.ok profile, session) := by
  rw [run_load_endpoint h, Work.run_bind_ok (run_cacheFile hpath session), hrefresh,
    if_neg (by simp), Work.run_bind_ok hkept]
  rfl

theorem run_load_fetch {session : Session} (h : call.endpoint? = some url)
    (hpath : filePath call.config.schemaCacheDirectory url = .ok path)
    (hkept : call.request.refresh = false →
      (kept? call.surroundings call.config.schemaCacheHours path).run session =
        (.ok none, session)) :
    (load call.surroundings call.config call.request).run session =
      (fetch call.surroundings url ((given? call.request.token?).or call.surroundings.token?)
        path).run session := by
  rw [run_load_endpoint h, Work.run_bind_ok (run_cacheFile hpath session)]
  cases hrefresh : call.request.refresh with
  | true =>
    rw [if_pos rfl, Work.run_bind_ok (Work.run_pure none session)]
  | false =>
    rw [if_neg (by simp), Work.run_bind_ok (hkept hrefresh)]

theorem run_load_error {session : Session} {failure : RunFailure}
    (h : call.endpoint? = some url)
    (hpath : filePath call.config.schemaCacheDirectory url = .ok path)
    (hrefresh : call.request.refresh = false)
    (hkept : (kept? call.surroundings call.config.schemaCacheHours path).run session =
      (.error failure, session)) :
    (load call.surroundings call.config call.request).run session = (.error failure, session) := by
  rw [run_load_endpoint h, Work.run_bind_ok (run_cacheFile hpath session), hrefresh,
    if_neg (by simp), Work.run_bind_error hkept]

theorem run_eq {session : Session} {result : Except RunFailure SchemaProfile}
    (h : (load call.surroundings call.config call.request).run
      { files, outcomes := [call.outcome] } = (result, session)) :
    call.run files = ⟨call, files, session.files, session.requests, result⟩ := by
  unfold SchemaCall.run
  rw [h]

theorem lastFetch?_append (url : String) (earlier : List SchemaVisit) (v : SchemaVisit) :
    SchemaVisit.lastFetch? url (earlier ++ [v]) =
      if v.isFetchOf url then some v else SchemaVisit.lastFetch? url earlier := by
  unfold SchemaVisit.lastFetch?
  rw [List.reverse_append, List.reverse_singleton, List.singleton_append, List.find?_cons]
  cases v.isFetchOf url <;> rfl

variable {known : String → Prop}

theorem Holds.step_of_entries (h : Holds cwd directory nesting known earlier files)
    (hfetch : ∀ url, v.isFetchOf url = false) (hgrows : files.Grows later)
    (hentries : entries cwd directory later = entries cwd directory files)
    (hdots : (later.entriesAt? (FileTree.componentsFrom cwd directory)).isSome ∨
      ".." ∉ FileTree.componentsFrom cwd directory) :
    Holds cwd directory nesting known (earlier ++ [v]) later where
  root := hgrows.isDirectory h.root
  dots := hdots
  files := by
    intro url path hknown hpath
    rw [lastFetch?_append, hfetch, if_neg (by simp)]
    exact (h.files hknown hpath).congr (find?_congr hpath hentries)

theorem Holds.step_of_quiet (h : Holds cwd directory nesting known earlier files)
    (hfetch : ∀ url, v.isFetchOf url = false) :
    Holds cwd directory nesting known (earlier ++ [v]) files :=
  h.step_of_entries hfetch (FileTree.Grows.refl files) rfl h.dots

theorem Holds.makeDirectories (h : Holds cwd directory nesting known earlier files)
    (hname : fileName url = .ok name)
    (hmake : files.makeDirectories cwd
      (SchemaProfile.cacheParent (Path.join [directory, name])) = .ok later) :
    files.Grows later ∧ later.entriesAt? (FileTree.componentsFrom cwd directory) =
      some (entries cwd directory files) :=
  FileTree.makeDirectories_join (isPart_fileName hname).1 h.root h.dots hmake

theorem Holds.write (h : Holds cwd directory nesting known earlier files)
    (hname : fileName url = .ok name)
    {made : FileTree} {content : ByteArray}
    (hmade : files.makeDirectories cwd
      (SchemaProfile.cacheParent (Path.join [directory, name])) = .ok made)
    (hwritten : made.write cwd (Path.join [directory, name]) content = .ok later) :
    FileTree.pathFlaw? (Path.join [directory, name]) = none ∧ files.Grows later ∧
      later.entriesAt? (FileTree.componentsFrom cwd directory) =
        some (Keyed.put name (.file content) (entries cwd directory files)) ∧
      later.find? cwd (Path.join [directory, name]) = some (.file content) := by
  rcases isPart_fileName hname with ⟨hpart, hdotted⟩
  rcases h.makeDirectories hname hmade with ⟨hmakes, hentries⟩
  rcases FileTree.write_join content hpart hdotted hentries with
    ⟨failure, hfailure⟩ | ⟨hflaw, hsize, u, hu, hwrites, hput⟩
  . rw [hfailure] at hwritten
    cases hwritten
  . rw [hu] at hwritten
    cases hwritten
    refine ⟨hflaw, hmakes.trans hwrites, hput, ?_⟩
    rw [find?_eq_lookup later hname, if_neg (Nat.not_lt.mpr hsize), entries, hput,
      Option.getD_some, Keyed.lookup_put, if_pos (beq_self_eq_true name)]

theorem Holds.step_of_write (h : Holds cwd directory nesting known earlier files)
    (hname : fileName url = .ok name)
    (hapart : ∀ {other}, known other → other ≠ url →
      filePath directory other ≠ .ok (Path.join [directory, name]))
    (hend : v.call.endpoint? = some url) (hfetch : v.isFetchOf url) (hgrows : files.Grows later)
    {file : FileTree}
    (hput : later.entriesAt? (FileTree.componentsFrom cwd directory) =
      some (Keyed.put name file (entries cwd directory files)))
    (hmatches : Matches cwd nesting (Path.join [directory, name]) later url (some v)) :
    Holds cwd directory nesting known (earlier ++ [v]) later where
  root := hgrows.isDirectory h.root
  dots := .inl (by rw [hput]; rfl)
  files := by
    intro other otherPath hother hotherPath
    rw [lastFetch?_append]
    by_cases heq : other = url
    . subst heq
      rw [filePath_eq_ok_iff.mpr ⟨name, hname, rfl⟩] at hotherPath
      cases hotherPath
      rw [if_pos hfetch]
      exact hmatches
    . have hfile : entries cwd directory later =
          Keyed.put name file (entries cwd directory files) := by
        rw [entries, hput]
        rfl
      rw [if_neg (by simp [SchemaVisit.isFetchOf, hend, Ne.symm heq])]
      refine (h.files hother hotherPath).congr (find?_of_put hname hfile hotherPath ?_)
      rintro rfl
      exact hapart hother heq hotherPath

theorem keeps_of_find? {data : Json} (hpath : filePath directory url = .ok path)
    (hreadable : Json.Readable data)
    (hroom : (SchemaProfile.ofSchema url v.now data).canCopy nesting)
    (hflaw : FileTree.pathFlaw? path = none)
    (hfind : files.find? cwd path =
      some (.file (SchemaProfile.ofSchema url v.now data).toJson.pretty.toUTF8)) :
    Keeps cwd nesting path files (SchemaProfile.ofSchema url v.now data) := by
  rintro surroundings session hcwd hle rfl
  have hexpired : (SchemaProfile.ofSchema url v.now data).isExpired surroundings.now .null =
      .ok false := rfl
  exact run_kept?_matches hcwd hpath hreadable (SchemaProfile.canCopy_mono hroom hle) hflaw hfind
    hexpired

theorem step_of_fetch (hregular : IsRegular cwd directory nesting call)
    (hend : call.endpoint? = some url)
    (hname : fileName url = .ok name)
    (hapart : ∀ {other}, known other → other ≠ url →
      filePath directory other ≠ .ok (Path.join [directory, name]))
    (hholds : Holds cwd directory nesting known earlier files) (token? : Option String)
    (hload : (load call.surroundings call.config call.request).run
      { files, outcomes := [call.outcome] } =
        (fetch call.surroundings url token? (Path.join [directory, name])).run
          { files, outcomes := [call.outcome] }) :
    Coherent cwd directory earlier (call.run files) url ∧
      Holds cwd directory nesting known (earlier ++ [call.run files]) (call.run files).after := by
  have hpath : filePath directory url = .ok (Path.join [directory, name]) :=
    filePath_eq_ok_iff.mpr ⟨name, hname, rfl⟩
  rcases SchemaProfile.run_fetch call.surroundings url token? (Path.join [directory, name])
    call.outcome files with ⟨e, later, hrun, hrequests, hfiles⟩ |
      ⟨data, made, later, hrun, hrequests, hdata, hroom, hmade, hwritten⟩
  . have hv := run_eq (hload.trans hrun)
    rw [hregular.runsIn] at hfiles
    have hsame : files.Grows later.files ∧
        entries cwd directory later.files = entries cwd directory files ∧
        ((later.files.entriesAt? (FileTree.componentsFrom cwd directory)).isSome ∨
          ".." ∉ FileTree.componentsFrom cwd directory) := by
      rcases hfiles with heq | hmake
      . rw [heq]
        exact ⟨FileTree.Grows.refl files, rfl, hholds.dots⟩
      . rcases hholds.makeDirectories hname hmake with ⟨hgrows, hentries⟩
        exact ⟨hgrows, by rw [entries, hentries]; rfl, .inl (by rw [hentries]; rfl)⟩
    rw [hv]
    refine ⟨.failed ⟨token?, hrequests⟩ rfl fun hother => find?_congr hother hsame.2.1,
      hholds.step_of_entries (fun other => ?_) hsame.1 hsame.2.1 hsame.2.2⟩
    simp [SchemaVisit.isFetchOf, Except.isOk, Except.toBool]
  . have hv := run_eq (hload.trans hrun)
    rw [hregular.runsIn] at hmade hwritten
    have hreadable := SchemaProfile.readable_ofOutcome hdata
    rcases hholds.write hname hmade hwritten with ⟨hflaw, hgrows, hput, hfind⟩
    rw [hv]
    constructor
    . refine .fetched hpath ⟨token?, hrequests⟩ hdata rfl
        (keeps_of_find? hpath hreadable hroom hflaw hfind) fun hother hne => ?_
      exact find?_of_put hname (by rw [entries, hput]; rfl) hother hne
    . refine hholds.step_of_write hname hapart hend ?_ hgrows hput
        (.stored rfl hreadable (hregular.room ▸ hroom) hregular.now hflaw hfind)
      simp [SchemaVisit.isFetchOf, hend, hrequests, Except.isOk, Except.toBool]

theorem Holds.run_kept? (hholds : Holds cwd directory nesting known earlier files)
    (hregular : IsRegular cwd directory nesting call) (hname : fileName url = .ok name)
    (hknown : known url)
    (session : Session) (hfiles : session.files = files) :
    let kept := (kept? call.surroundings call.config.schemaCacheHours
      (Path.join [directory, name])).run session
    kept = (.ok none, session) ∨
    (∃ fetch profile, SchemaVisit.lastFetch? url earlier = some fetch ∧
      fetch.result = .ok profile ∧ profile.url = .str url ∧
      (call.config.schemaCacheHours = .null ∨ ∃ micros,
        Duration.microsOfHours call.config.schemaCacheHours = .ok micros ∧
          call.surroundings.now.clock - fetch.now.clock ≤ micros) ∧
      kept = (.ok (some profile), session)) ∨
    ¬ FileTree.Fits cwd (Path.join [directory, name]) ∧
      ∃ failure, kept = (.error failure, session) := by
  intro kept
  subst hfiles
  have hpath : filePath directory url = .ok (Path.join [directory, name]) :=
    filePath_eq_ok_iff.mpr ⟨name, hname, rfl⟩
  have hmatches := hholds.files hknown hpath
  cases hlast : SchemaVisit.lastFetch? url earlier with
  | none =>
    rw [hlast] at hmatches
    cases hmatches with
    | absent hnone =>
      rcases isPart_fileName hname with ⟨hpart, hdotted⟩
      have hthere := FileTree.isThere_join session.files cwd directory hpart hdotted
      rw [hnone, ← hregular.runsIn] at hthere
      rcases hthere with hthere | ⟨⟨failure, hfailure⟩, hlong⟩
      . exact .inl (SchemaProfile.run_kept?_absent hthere)
      . rw [hregular.runsIn] at hlong
        exact .inr (.inr ⟨hlong, _, SchemaProfile.run_kept?_error hfailure⟩)
  | some fetch =>
    rw [hlast] at hmatches
    cases hmatches with
    | @stored _ data hresult hreadable hroom hnow hflaw hstored =>
      rcases SchemaProfile.exists_isExpired url data hnow hregular.now hregular.hours with
        ⟨expired, hexpired, hage⟩
      have hkept := run_kept?_matches hregular.runsIn hpath hreadable (hregular.room ▸ hroom) hflaw
        hstored hexpired
      cases expired with
      | true => exact .inl hkept
      | false => exact .inr (.inl ⟨fetch, _, rfl, hresult, rfl, hage rfl, hkept⟩)

theorem step_of_endpoint (hregular : IsRegular cwd directory nesting call)
    (hend : call.endpoint? = some url) (hname : fileName url = .ok name) (hknown : known url)
    (hapart : ∀ {other}, known other → other ≠ url →
      filePath directory other ≠ .ok (Path.join [directory, name]))
    (hholds : Holds cwd directory nesting known earlier files) :
    (Coherent cwd directory earlier (call.run files) url ∨
      Refused cwd directory (call.run files) url) ∧
      Holds cwd directory nesting known (earlier ++ [call.run files]) (call.run files).after := by
  have hpath : filePath directory url = .ok (Path.join [directory, name]) :=
    filePath_eq_ok_iff.mpr ⟨name, hname, rfl⟩
  have hown : filePath call.config.schemaCacheDirectory url =
      .ok (Path.join [directory, name]) := by
    rw [hregular.keepsIn, hpath]
  have hfetch (hkept : call.request.refresh = false →
      (kept? call.surroundings call.config.schemaCacheHours (Path.join [directory, name])).run
        { files, outcomes := [call.outcome] } =
          (.ok none, { files, outcomes := [call.outcome] })) :
      (Coherent cwd directory earlier (call.run files) url ∨
        Refused cwd directory (call.run files) url) ∧
        Holds cwd directory nesting known (earlier ++ [call.run files]) (call.run files).after :=
    (step_of_fetch hregular hend hname hapart hholds _ (run_load_fetch hend hown hkept)).imp_left
      .inl
  cases hrefresh : call.request.refresh with
  | true => exact hfetch fun hfalse => by rw [hrefresh] at hfalse; cases hfalse
  | false =>
    rcases hholds.run_kept? hregular hname hknown { files, outcomes := [call.outcome] } rfl with
      hnone | ⟨fetch, profile, hlast, hresult, hurl, hage, hkept⟩ | ⟨hlong, failure, hfailure⟩
    . exact hfetch fun _ => hnone
    . rw [run_eq (run_load_kept hend hown hrefresh hkept)]
      refine ⟨.inl (.kept hlast hresult rfl hurl rfl rfl hrefresh hage),
        hholds.step_of_quiet fun other => ?_⟩
      simp [SchemaVisit.isFetchOf]
    . rw [run_eq (run_load_error hend hown hrefresh hfailure)]
      refine ⟨.inr ⟨⟨_, hpath, hlong⟩, hrefresh, rfl, ⟨_, rfl⟩, rfl⟩,
        hholds.step_of_quiet fun other => ?_⟩
      simp [SchemaVisit.isFetchOf]

theorem quiet_of_endpoint?_eq_none (h : call.endpoint? = none) (files : FileTree) :
    (call.run files).requests = [] ∧ (call.run files).after = files := by
  have hrun : ∃ result, (load call.surroundings call.config call.request).run
      { files, outcomes := [call.outcome] } =
        (result, { files, outcomes := [call.outcome] }) := by
    cases hfile : call.file? with
    | some schemaFile => exact run_load_file hfile _
    | none =>
      rcases run_load_nothing hfile h { files, outcomes := [call.outcome] } with ⟨failure, hrun⟩
      exact ⟨_, hrun⟩
  rcases hrun with ⟨result, hrun⟩
  rw [run_eq hrun]
  exact ⟨rfl, rfl⟩

def Apart (directory : String) (calls : List SchemaCall) : Prop :=
  ∀ call ∈ calls, ∀ other ∈ calls, ∀ {url otherUrl path}, call.endpoint? = some url →
    other.endpoint? = some otherUrl → filePath directory url = .ok path →
      filePath directory otherUrl = .ok path → url = otherUrl

def KnownApart (directory : String) (known : String → Prop) : Prop :=
  ∀ {url other path}, known url → known other → filePath directory url = .ok path →
    filePath directory other = .ok path → url = other

theorem step (hregular : IsRegular cwd directory nesting call) (hapart : KnownApart directory known)
    (hknown : ∀ {url}, call.endpoint? = some url → known url)
    (hholds : Holds cwd directory nesting known earlier files) :
    (∀ {url}, call.endpoint? = some url →
      Coherent cwd directory earlier (call.run files) url ∨
        Refused cwd directory (call.run files) url) ∧
      Holds cwd directory nesting known (earlier ++ [call.run files]) (call.run files).after := by
  cases hend : call.endpoint? with
  | none =>
    rcases quiet_of_endpoint?_eq_none hend files with ⟨hrequests, hafter⟩
    refine ⟨nofun, ?_⟩
    rw [hafter]
    exact hholds.step_of_quiet fun other => by simp [SchemaVisit.isFetchOf, hrequests]
  | some url =>
    rcases hregular.named hend with ⟨path, hpath⟩
    have hurl := hknown hend
    rcases filePath_eq_ok_iff.mp hpath with ⟨name, hname, rfl⟩
    rcases step_of_endpoint hregular hend hname hurl
      (fun hother hne heq => hne (hapart hother hurl heq hpath)) hholds with ⟨hcoherent, hlater⟩
    refine ⟨fun {other} hother => ?_, hlater⟩
    cases hother
    exact hcoherent

theorem coherent_of_holds {calls : List SchemaCall}
    (hregular : ∀ call ∈ calls, IsRegular cwd directory nesting call)
    (hapart : KnownApart directory known)
    (hknown : ∀ call ∈ calls, ∀ {url}, call.endpoint? = some url → known url)
    (hholds : Holds cwd directory nesting known earlier files)
    {before after : List SchemaVisit} (h : SchemaCall.runAll files calls = before ++ v :: after)
    (hend : v.call.endpoint? = some url) :
    Coherent cwd directory (earlier ++ before) v url ∨ Refused cwd directory v url := by
  induction calls generalizing earlier files before with
  | nil => cases before <;> cases h
  | cons call calls ih =>
    rcases step (hregular call (by simp)) hapart (hknown call (by simp)) hholds with
      ⟨hcoherent, hlater⟩
    rw [SchemaCall.runAll] at h
    cases before with
    | nil =>
      rcases List.cons_eq_cons.mp h with ⟨rfl, -⟩
      rw [List.append_nil]
      exact hcoherent hend
    | cons first before =>
      rcases List.cons_eq_cons.mp h with ⟨rfl, hrest⟩
      have hrest := ih (fun c hc => hregular c (List.mem_cons_of_mem _ hc))
        (fun c hc => hknown c (List.mem_cons_of_mem _ hc)) hlater hrest
      rwa [List.append_assoc, List.singleton_append] at hrest

theorem call_run (call : SchemaCall) (files : FileTree) : (call.run files).call = call := by
  rfl

theorem before_run (call : SchemaCall) (files : FileTree) : (call.run files).before = files := by
  rfl

theorem eq_run_of_mem {calls : List SchemaCall} (h : v ∈ SchemaCall.runAll files calls) :
    v.call ∈ calls ∧ v = v.call.run v.before := by
  induction calls generalizing files with
  | nil => cases h
  | cons call calls ih =>
    rw [SchemaCall.runAll] at h
    rcases List.mem_cons.mp h with rfl | hmem
    . exact ⟨by rw [call_run]; simp, by rw [call_run, before_run]⟩
    . rcases ih hmem with ⟨hcall, heq⟩
      exact ⟨List.mem_cons_of_mem _ hcall, heq⟩

theorem Coherent.url_eq {profile : SchemaProfile} (h : Coherent cwd directory earlier v url)
    (hresult : v.result = .ok profile) : profile.url = .str url := by
  cases h with
  | kept _ _ hresult' hurl =>
    rw [hresult] at hresult'
    cases hresult'
    exact hurl
  | fetched _ _ _ hresult' =>
    rw [hresult] at hresult'
    cases hresult'
    rfl
  | failed _ hresult' =>
    rw [hresult] at hresult'
    cases hresult'

/--
Over any series of calls that starts with a cache directory without files, a call of an endpoint is
coherent with the calls before it, unless the file system cannot have its file, and its profile is
that of its own endpoint; a call of a schema file asks nobody and changes no file.
-/
theorem runAll_coherent {calls : List SchemaCall} (hfresh : IsFresh cwd directory files)
    (hregular : ∀ call ∈ calls, IsRegular cwd directory nesting call)
    (hapart : Apart directory calls)
    {later : List SchemaVisit} (h : SchemaCall.runAll files calls = earlier ++ v :: later) :
    (∀ url, v.call.endpoint? = some url →
      (Coherent cwd directory earlier v url ∨ Refused cwd directory v url) ∧
        ∀ profile, v.result = .ok profile → profile.url = .str url) ∧
    ∀ schemaFile, v.call.file? = some schemaFile → v.requests = [] ∧ v.after = v.before := by
  -- The endpoints of the calls are those whose files the state of the cache is about.
  have hknown : KnownApart directory fun url => ∃ call ∈ calls, call.endpoint? = some url := by
    rintro url other path ⟨call, hcall, hend⟩ ⟨otherCall, hother, hotherEnd⟩ hpath hotherPath
    exact hapart call hcall otherCall hother hend hotherEnd hpath hotherPath
  refine ⟨fun url hend => ?_, fun schemaFile hfile => ?_⟩
  . have hcoherent := coherent_of_holds hregular hknown
      (fun call hcall _ hend => ⟨call, hcall, hend⟩) (holds_of_isFresh _ hfresh) h hend
    rw [List.nil_append] at hcoherent
    refine ⟨hcoherent, fun profile hprofile => ?_⟩
    rcases hcoherent with hcoherent | hrefused
    . exact hcoherent.url_eq hprofile
    . rcases hrefused.result with ⟨failure, hfailure⟩
      rw [hfailure] at hprofile
      cases hprofile
  . have hmem : v ∈ SchemaCall.runAll files calls := by
      rw [h]
      simp
    have hnone : v.call.endpoint? = none := by
      unfold SchemaCall.endpoint?
      rw [hfile]
    rw [(eq_run_of_mem hmem).2]
    exact quiet_of_endpoint?_eq_none hnone v.before

namespace Sample

def loading (url : String) (outcome : Http.Outcome) : SchemaCall where
  surroundings := {
    directory := "/"
    home := "/"
    now := { year := 2024, month := 1, day := 1, offset? := some 0 } }
  config := {
    projectRoot := "/"
    schemaCacheDirectory := "/cache"
    extensions := .texts Config.defaultExtensions
    excludedDirectories := .texts Config.defaultExcludedDirectories }
  request := { url? := some url }
  outcome

def endpoint : String := "http://example.org/graphql"

def answer : Http.Outcome :=
  .response { url := endpoint, body := "\x7b\"data\": null\x7d" }

def calls : List SchemaCall :=
  [loading endpoint answer, loading endpoint (.unreachable "no route")]

def emptyCache : FileTree :=
  .directory [("cache", .directory [])]

theorem isFresh_emptyCache : IsFresh "/" "/cache" emptyCache :=
  ⟨rfl, by decide +kernel, .inl (by decide +kernel)⟩

theorem endpoint?_loading (h : url.isEmpty = false) (outcome : Http.Outcome) :
    (loading url outcome).endpoint? = some url := by
  change SchemaProfile.given? (some url) = some url
  rw [SchemaProfile.given?, Option.filter_some, h]
  rfl

theorem isRegular_loading (h : url.isEmpty = false) (hpath : filePath "/cache" url = .ok path)
    (outcome : Http.Outcome) : IsRegular "/" "/cache" usualNesting (loading url outcome) where
  runsIn := rfl
  keepsIn := rfl
  room := rfl
  now := ⟨rfl, rfl, Nat.zero_lt_succ _, rfl⟩
  hours := .inr ⟨_, rfl⟩
  named := by
    intro other hother
    rw [endpoint?_loading h] at hother
    cases hother
    exact ⟨path, hpath⟩

theorem apart_of_one {calls : List SchemaCall} (h : ∀ call ∈ calls, call.endpoint? = some url) :
    Apart directory calls := by
  intro call hcall other hother own otherUrl path hown hotherUrl _ _
  rw [h call hcall] at hown
  rw [h other hother] at hotherUrl
  exact Option.some.inj (hown.symm.trans hotherUrl)

theorem filePath_endpoint :
    filePath "/cache" endpoint = .ok "/cache/example.org-05b54f17.json" := by
  decide +kernel

theorem endpoint?_calls : ∀ call ∈ calls, call.endpoint? = some endpoint := by
  have hempty : endpoint.isEmpty = false := by decide +kernel
  simp only [calls, List.forall_mem_cons]
  exact ⟨endpoint?_loading hempty _, endpoint?_loading hempty _, List.forall_mem_nil _⟩

theorem isRegular_calls : ∀ call ∈ calls, IsRegular "/" "/cache" usualNesting call := by
  have hempty : endpoint.isEmpty = false := by decide +kernel
  simp only [calls, List.forall_mem_cons]
  exact ⟨isRegular_loading hempty filePath_endpoint _,
    isRegular_loading hempty filePath_endpoint _, List.forall_mem_nil _⟩

end Sample

theorem runAll_coherent_twice : ∃ first second,
    SchemaCall.runAll Sample.emptyCache Sample.calls = [first, second] ∧
      Coherent "/" "/cache" [first] second Sample.endpoint := by
  let first := (Sample.loading Sample.endpoint Sample.answer).run Sample.emptyCache
  let second := (Sample.loading Sample.endpoint (.unreachable "no route")).run first.after
  have hruns : SchemaCall.runAll Sample.emptyCache Sample.calls = [first] ++ second :: [] := rfl
  refine ⟨first, second, hruns, ?_⟩
  have hsecond := (runAll_coherent Sample.isFresh_emptyCache Sample.isRegular_calls
    (Sample.apart_of_one Sample.endpoint?_calls) hruns).1 Sample.endpoint
      (Sample.endpoint?_calls _ (.tail _ (.head _)))
  refine hsecond.1.resolve_right fun hrefused => ?_
  rcases hrefused.tooLong with ⟨path, hpath, hlong⟩
  rw [Sample.filePath_endpoint] at hpath
  cases hpath
  exact hlong ⟨by decide +kernel, by decide +kernel⟩

theorem run_of_tooLong (hcwd : call.surroundings.directory = cwd)
    (hdirectory : call.config.schemaCacheDirectory = directory)
    (hend : call.endpoint? = some url) (hrefresh : call.request.refresh = false)
    (hname : fileName url = .ok name) (hsize : FileTree.maxNameSize < name.utf8ByteSize)
    (hnull : '\x00' ∉ (Path.join [directory, name]).toList)
    (hthere : (files.entriesAt? (FileTree.componentsFrom cwd directory)).isSome) :
    ∃ failure, call.run files = ⟨call, files, files, [], .error failure⟩ := by
  subst hcwd hdirectory
  rcases Option.isSome_iff_exists.mp hthere with ⟨entries, hentries⟩
  rcases isPart_fileName hname with ⟨hpart, hdots⟩
  have hthere := FileTree.isThere_join_of_tooLong hpart hdots hsize hnull hentries
  exact ⟨_, run_eq (run_load_error hend (filePath_eq_ok_iff.mpr ⟨name, hname, rfl⟩) hrefresh
    (SchemaProfile.run_kept?_error hthere))⟩

theorem not_coherent_of_quiet {failure : RunFailure} (hrequests : v.requests = [])
    (hresult : v.result = .error failure) : ¬ Coherent cwd directory earlier v url := by
  rintro (⟨-, -, hkept, -⟩ | ⟨-, ⟨token?, hfetched⟩, -⟩ | ⟨⟨token?, hfailed⟩, -⟩)
  . rw [hresult] at hkept
    cases hkept
  . rw [hrequests] at hfetched
    cases hfetched
  . rw [hrequests] at hfailed
    cases hfailed

namespace Sample

def longHost : List Char :=
  List.replicate 255 'a'

def longEndpoint : String :=
  "http://" ++ String.ofList longHost ++ "/graphql"

theorem hostName_longEndpoint : Url.hostName longEndpoint = .ok (String.ofList longHost) := by
  have hstarts : longEndpoint.startsWith "file://" = false := by decide +kernel
  -- The text is taken apart first, as a long text is slow to read character by character.
  have hchars : longEndpoint.toList = "http://".toList ++ longHost ++ "/graphql".toList := by
    simp only [longEndpoint, String.toList_append, String.toList_ofList]
  have hparts : Url.parts longEndpoint = .ok ⟨"http".toList, longHost, "/graphql".toList⟩ := by
    rw [Url.parts, hchars]
    decide +kernel
  rw [Url.hostName, hstarts, hparts]
  decide +kernel

theorem exists_fileName_longEndpoint :
    ∃ name, fileName longEndpoint = .ok name ∧ FileTree.maxNameSize < name.utf8ByteSize ∧
      '\x00' ∉ (Path.join ["/cache", name]).toList := by
  have hnamed : ∃ name, fileName longEndpoint = .ok name :=
    ⟨_, map_eq_ok_iff.mpr ⟨_, hostName_longEndpoint, rfl⟩⟩
  rcases hnamed with ⟨name, hname⟩
  refine ⟨name, hname, ?_, ?_⟩
  . have hhost : (String.ofList longHost).utf8ByteSize = 255 := by decide +kernel
    rw [FileTree.maxNameSize, ← hhost]
    exact utf8ByteSize_lt_fileName hostName_longEndpoint hname
  . have hhost : '\x00' ∉ (String.ofList longHost).toList := by
      rw [String.toList_ofList]
      exact fun hmem => absurd (List.eq_of_mem_replicate hmem) (by decide)
    have hnull := not_mem_fileName hostName_longEndpoint hname hhost (by decide) (by decide)
    have hdirectory : Path.ofString "/cache" = ⟨"/", ["cache"]⟩ := by decide
    rw [Path.join_part "/cache" (isPart_fileName hname).1, hdirectory,
      Path.toString_of_ne_nil _ (by simp)]
    simp [hnull]

end Sample

/-- The name of a file may be too long for a file system; a call then fails and asks nobody. -/
theorem run_incoherent_long :
    let call := Sample.loading Sample.longEndpoint Sample.answer
    IsFresh "/" "/cache" Sample.emptyCache ∧ IsRegular "/" "/cache" usualNesting call ∧
      Apart "/cache" [call] ∧ call.endpoint? = some Sample.longEndpoint ∧
      ¬ Coherent "/" "/cache" [] (call.run Sample.emptyCache) Sample.longEndpoint := by
  intro call
  rcases Sample.exists_fileName_longEndpoint with ⟨name, hname, hsize, hnull⟩
  have hempty : Sample.longEndpoint.isEmpty = false := by decide +kernel
  have hend : call.endpoint? = some Sample.longEndpoint := Sample.endpoint?_loading hempty _
  have hthere : (Sample.emptyCache.entriesAt?
      (FileTree.componentsFrom "/" "/cache")).isSome := by decide +kernel
  rcases run_of_tooLong rfl rfl hend rfl hname hsize hnull hthere with ⟨failure, hrun⟩
  refine ⟨Sample.isFresh_emptyCache,
    Sample.isRegular_loading hempty (filePath_eq_ok_iff.mpr ⟨name, hname, rfl⟩) _,
    Sample.apart_of_one (by simpa using hend), hend, ?_⟩
  rw [hrun]
  exact not_coherent_of_quiet rfl rfl

end SchemaCache

end QueryLinker
