import QueryLinker.Project.CachePath
import QueryLinker.Project.SchemaProfile
import QueryLinker.Proofs.Except
import QueryLinker.Proofs.Files.Directory
import QueryLinker.Proofs.Project.Session
import QueryLinker.Proofs.Time.Timestamp

/-!
This module contains that the file of an endpoint is a file of the cache directory itself: neither
its host nor its digest leads anywhere else. The profile of a schema that was fetched is read from
this file as it was written, with its age.
-/

namespace QueryLinker.SchemaCache

open QueryLinker.Path (IsPart)

def fileName (url : String) : Except Url.Flaw String :=
  (Url.hostName url).map fun host =>
    host ++ "-" ++ String.ofList ((Json.textFingerprint url).toList.take digestSize) ++ ".json"

variable {directory url name path : String}

theorem filePath_eq (directory url : String) :
    filePath directory url = (fileName url).map fun name => Path.join [directory, name] := by
  unfold filePath fileName
  cases Url.hostName url <;> rfl

def hexDigits : List Char :=
  "0123456789abcdef".toList

theorem mem_hexDigits_of_mem_toDigits {c : Char} {n : Nat} (h : c ∈ Nat.toDigits 16 n) :
    c ∈ hexDigits := by
  have hdigit : ∀ n < 16, n.digitChar ∈ hexDigits := by decide
  induction n using Nat.strongRecOn with
  | ind n ih =>
    rw [Nat.toDigits_eq_if (by omega)] at h
    split at h
    next hlt =>
      rw [List.mem_singleton.mp h]
      exact hdigit n hlt
    . rcases List.mem_append.mp h with hfront | hlast
      . exact ih _ (by omega) hfront
      . rw [List.mem_singleton.mp hlast]
        exact hdigit _ (Nat.mod_lt _ (by omega))

theorem mem_hexDigits_of_mem_sha256 {c : Char} {message : List UInt8}
    (h : c ∈ (Digest.sha256 message).toList) : c ∈ hexDigits := by
  rw [Digest.sha256, String.toList_ofList, List.mem_flatMap] at h
  rcases h with ⟨word, -, hmem⟩
  rw [Digest.wordText] at hmem
  rcases List.mem_append.mp hmem with hzero | hdigit
  . rw [List.eq_of_mem_replicate hzero]
    decide
  . exact mem_hexDigits_of_mem_toDigits hdigit

theorem mem_hexDigits_of_mem_textFingerprint {c : Char} {text : String}
    (h : c ∈ (Json.textFingerprint text).toList) : c ∈ hexDigits := by
  rw [Json.textFingerprint, Json.fingerprint, String.toList_ofList] at h
  exact mem_hexDigits_of_mem_sha256 (List.mem_of_mem_take h)

theorem no_slash_hostName {host : String} (h : Url.hostName url = .ok host) :
    '/' ∉ host.toList := by
  unfold Url.hostName at h
  split at h
  . cases h
    simp
  . rcases bind_eq_ok_iff.mp h with ⟨parts, -, hhost⟩
    cases hhost
    rw [String.toList_ofList, List.mem_map]
    rintro ⟨c, -, hc⟩
    split at hc
    . simp at hc
    next hne =>
      subst hc
      simp at hne

theorem not_mem_fileName {c : Char} {host : String} (hhost : Url.hostName url = .ok host)
    (hname : fileName url = .ok name) (hc : c ∉ host.toList) (hdigit : c ∉ hexDigits)
    (hrest : c ∉ "-.json".toList) : c ∉ name.toList := by
  rw [fileName, hhost] at hname
  cases hname
  have hdigest : c ∉ (Json.textFingerprint url).toList.take digestSize := fun hmem =>
    hdigit (mem_hexDigits_of_mem_textFingerprint (List.mem_of_mem_take hmem))
  simp at hrest
  simp [hc, hdigest, hrest]

theorem isPart_fileName (h : fileName url = .ok name) : IsPart name ∧ name ≠ ".." := by
  rcases map_eq_ok_iff.mp h with ⟨host, hhost, rfl⟩
  have hslash := not_mem_fileName hhost h (no_slash_hostName hhost) (by decide) (by decide)
  -- The dash keeps the name from being empty or one of the names of directories.
  have hdash {other : String} (hother : '-' ∉ other.toList) : host ++ "-" ++
      String.ofList ((Json.textFingerprint url).toList.take digestSize) ++ ".json" ≠ other := by
    rintro rfl
    simp at hother
  exact ⟨⟨hdash (by decide), hdash (by decide), hslash⟩, hdash (by decide)⟩

theorem utf8ByteSize_lt_fileName {host : String} (hhost : Url.hostName url = .ok host)
    (hname : fileName url = .ok name) : host.utf8ByteSize < name.utf8ByteSize := by
  rw [fileName, hhost] at hname
  cases hname
  have hdash : "-".utf8ByteSize = 1 := rfl
  simp only [String.utf8ByteSize_append]
  omega

theorem filePath_eq_ok_iff : filePath directory url = .ok path ↔
    ∃ name, fileName url = .ok name ∧ path = Path.join [directory, name] := by
  rw [filePath_eq, map_eq_ok_iff]
  simp only [eq_comm]

end QueryLinker.SchemaCache

namespace QueryLinker.SchemaProfile

theorem ofJson_toJson (p : SchemaProfile) : ofJson p.toJson = .ok p := by
  rfl

variable {url : String} {fetched now : Timestamp} {data : Json}

theorem schema_ofSchema (url : String) (now : Timestamp) (data : Json) :
    (ofSchema url now data).schema = data :=
  rfl

theorem readable_ofString (s : String) : Json.Readable (.str s) :=
  .str (LooseText.paired_ofString s)

theorem readable_toJson (url : String) (fetched : Timestamp) (h : Json.Readable data) :
    Json.Readable (ofSchema url fetched data).toJson := by
  unfold toJson Json.object ofSchema
  simp only [List.map_cons, List.map_nil]
  refine .obj (by simp only [List.map_cons, List.map_nil]; decide) ?_ ?_
  . simp only [List.forall_mem_cons]
    exact ⟨LooseText.paired_ofString _, LooseText.paired_ofString _, LooseText.paired_ofString _,
      LooseText.paired_ofString _, nofun⟩
  . simp only [List.forall_mem_cons]
    exact ⟨readable_ofString _, readable_ofString _, readable_ofString _, h, nofun⟩

theorem levels_toJson (url : String) (fetched : Timestamp) (data : Json) :
    (ofSchema url fetched data).toJson.levels = data.levels + 1 := by
  simp [ofSchema, toJson, Json.object, Json.levels, Json.membersLevels, Json.memberLevels]

/-! A profile that can be copied is written to its end and read again. -/

theorem canCopy_iff {p : SchemaProfile} {nesting : Nat} :
    p.canCopy nesting ↔ 2 * p.schema.levels + 2 ≤ nesting := by
  rw [canCopy, decide_eq_true_iff]

theorem canCopy_mono {p : SchemaProfile} {nesting more : Nat} (h : p.canCopy nesting)
    (hle : nesting ≤ more) : p.canCopy more :=
  canCopy_iff.mpr ((canCopy_iff.mp h).trans hle)

theorem text_toJson (hreadable : Json.Readable data) {nesting : Nat}
    (hroom : (ofSchema url fetched data).canCopy nesting) :
    (ofSchema url fetched data).toJson.text nesting =
      .ok (ofSchema url fetched data).toJson.pretty := by
  have hlevels := canCopy_iff.mp hroom
  have hcalls := Json.calls_le (ofSchema url fetched data).toJson
  rw [levels_toJson] at hcalls
  rw [Json.text_eq_ok_iff]
  refine ⟨rfl, (Json.readable_iff.mp (readable_toJson url fetched hreadable)).2, ?_⟩
  change 2 * data.levels + 2 ≤ nesting at hlevels
  omega

theorem text_schema (hreadable : Json.Readable data) {nesting : Nat}
    (hroom : (ofSchema url fetched data).canCopy nesting) :
    data.text nesting = .ok data.pretty := by
  have hlevels := canCopy_iff.mp hroom
  have hcalls := Json.calls_le data
  rw [Json.text_eq_ok_iff]
  refine ⟨rfl, (Json.readable_iff.mp hreadable).2, ?_⟩
  change 2 * data.levels + 2 ≤ nesting at hlevels
  omega

theorem levels_toJson_le {nesting : Nat} (hroom : (ofSchema url fetched data).canCopy nesting) :
    (ofSchema url fetched data).toJson.levels ≤ nesting - 1 := by
  have hlevels := canCopy_iff.mp hroom
  change 2 * data.levels + 2 ≤ nesting at hlevels
  rw [levels_toJson]
  omega

theorem levels_schema_le {nesting : Nat} (hroom : (ofSchema url fetched data).canCopy nesting) :
    data.levels ≤ nesting - 1 := by
  have hlevels := levels_toJson_le hroom
  rw [levels_toJson] at hlevels
  exact Nat.le_of_succ_le hlevels

theorem age_ofSchema (url : String) (data : Json) (hfetched : fetched.Utc) (hnow : now.Utc) :
    (ofSchema url fetched data).age now = .ok (now.clock - fetched.clock) := by
  have hread := Timestamp.ofText_text hfetched
  have hthen : fetched.instant? = some fetched.clock := by
    rw [Timestamp.instant?, hfetched.offset?, Option.map_some, Int.sub_zero]
  have hinstant : now.instant? = some now.clock := by
    rw [Timestamp.instant?, hnow.offset?, Option.map_some, Int.sub_zero]
  unfold age ofSchema
  dsimp only
  rw [hread]
  dsimp only [Except.mapError, bind, Except.bind]
  rewrite [hthen, hinstant]
  rfl

theorem isExpired_ofSchema (url : String) (data : Json) (hfetched : fetched.Utc) (hnow : now.Utc)
    {hours : Yaml.Value} {micros : Int} (hhours : Duration.microsOfHours hours = .ok micros) :
    (ofSchema url fetched data).isExpired now hours =
      .ok (decide (micros < now.clock - fetched.clock)) := by
  unfold isExpired
  split
  . cases hhours
  . rw [age_ofSchema url data hfetched hnow, hhours]
    rfl

theorem isExpired_of_le (url : String) (data : Json) (hfetched : fetched.Utc) (hnow : now.Utc)
    {hours : Yaml.Value}
    (hhours : hours = .null ∨ ∃ micros, Duration.microsOfHours hours = .ok micros ∧
      now.clock - fetched.clock ≤ micros) :
    (ofSchema url fetched data).isExpired now hours = .ok false := by
  rcases hhours with rfl | ⟨micros, hmicros, hage⟩
  . rfl
  . rw [isExpired_ofSchema url data hfetched hnow hmicros, decide_eq_false (Int.not_lt.mpr hage)]

theorem exists_isExpired (url : String) (data : Json) (hfetched : fetched.Utc) (hnow : now.Utc)
    {hours : Yaml.Value}
    (hhours : hours = .null ∨ ∃ micros, Duration.microsOfHours hours = .ok micros) :
    ∃ expired, (ofSchema url fetched data).isExpired now hours = .ok expired ∧
      (expired = false → hours = .null ∨ ∃ micros, Duration.microsOfHours hours = .ok micros ∧
        now.clock - fetched.clock ≤ micros) := by
  rcases hhours with rfl | ⟨micros, hmicros⟩
  . exact ⟨false, rfl, fun _ => .inl rfl⟩
  . refine ⟨_, isExpired_ofSchema url data hfetched hnow hmicros, fun hkept => .inr ?_⟩
    exact ⟨micros, hmicros, Int.not_lt.mp (of_decide_eq_false hkept)⟩

theorem readable_data {payload : Json} (hpayload : Json.Readable payload)
    (h : Introspection.data payload = .ok data) : Json.Readable data := by
  unfold Introspection.data at h
  split at h
  next members =>
    cases hpayload with
    | obj _ _ hvalues =>
      dsimp only at h
      split at h
      . rcases bind_eq_ok_iff.mp h with ⟨_, _, hrest⟩
        rcases bind_eq_ok_iff.mp hrest with ⟨_, _, hthrow⟩
        cases hthrow
      . split at h
        next found hfound =>
          cases h
          have hmem := List.lookup_eq_some_iff.mp hfound
          rcases hmem with ⟨before, after, rfl, -⟩
          exact hvalues (LooseText.ofString "data", _) (by simp)
        next => cases h
  next => cases h

theorem readable_ofOutcome {outcome : Http.Outcome}
    (h : Introspection.ofOutcome url outcome = .ok data) : Json.Readable data := by
  unfold Introspection.ofOutcome at h
  split at h
  . cases h
  next r =>
    dsimp only at h
    split at h
    . cases h
    . split at h
      next payload hpayload => exact readable_data (Json.readableIn_of_read hpayload).readable h
      next => split at h <;> cases h

variable {surroundings : Surroundings} {hours : Yaml.Value} {path : String} {s : Session}

theorem run_kept?_absent (h : s.files.isThere surroundings.directory path = .ok false) :
    (kept? surroundings hours path).run s = (.ok none, s) := by
  have hrun := Session.run_isThere surroundings.directory path s
  rw [h] at hrun
  unfold kept?
  rw [Work.run_bind_ok hrun]
  rfl

theorem run_kept?_error {failure : FileFailure}
    (h : s.files.isThere surroundings.directory path = .error failure) :
    (kept? surroundings hours path).run s = (.error (.file failure), s) := by
  have hrun := Session.run_isThere surroundings.directory path s
  rw [h] at hrun
  exact Work.run_bind_error hrun

theorem run_kept?_stored {p : SchemaProfile} {expired : Bool}
    (hthere : s.files.isThere surroundings.directory path = .ok true)
    (hread : s.files.read surroundings.directory path = .ok p.toJson.pretty.toUTF8)
    (hreadable : Json.Readable p.toJson) (hroom : p.toJson.levels ≤ surroundings.nesting - 1)
    (hexpired : p.isExpired surroundings.now hours = .ok expired) :
    (kept? surroundings hours path).run s = (.ok (if expired then none else some p), s) := by
  have hrun := Session.run_isThere surroundings.directory path s
  rw [hthere] at hrun
  have hjson := Session.run_readJson_pretty hreadable hread hroom
  have hstored : (liftM (ofStored p.toJson) : Work SchemaProfile).run s = (.ok p, s) := by
    rw [Work.run_lift, ofStored, ofJson_toJson]
    rfl
  have hage : (liftM (p.isExpired surroundings.now hours) : Work Bool).run s =
      (.ok expired, s) := by
    rw [Work.run_lift, hexpired]
  unfold kept?
  rw [Work.run_bind_ok hrun]
  change ((Session.readJson surroundings.nesting surroundings.directory path >>= fun v =>
    (liftM (ofStored v) : Work SchemaProfile) >>= _) : Work (Option SchemaProfile)).run s = _
  rw [Work.run_bind_ok hjson, Work.run_bind_ok hstored, Work.run_bind_ok hage]
  cases expired <;> rfl

theorem run_introspection (url : String) (token? : Option String) (outcome : Http.Outcome)
    (files : FileTree) :
    (Introspection.run url token?).run { files, outcomes := [outcome] } =
      (Introspection.ofOutcome url (outcome.ofServer url),
        { files, requests := [Introspection.request url token?] }) := by
  have hpost := Session.run_post (Introspection.request url token?) { files, outcomes := [outcome] }
  unfold Introspection.run
  rw [Work.run_bind_ok hpost]
  exact Work.run_lift _ _

def cacheParent (path : String) : String :=
  toString (Path.ofString path).parent

theorem keep_eq (surroundings : Surroundings) (path : String) (p : SchemaProfile) :
    keep surroundings path p = (do
      Session.makeDirectories surroundings.directory (cacheParent path)
      if p.canCopy surroundings.nesting then
        Session.writeJson surroundings.nesting surroundings.directory path p.toJson
      else throw .tooDeep) :=
  rfl

theorem run_keep (hreadable : Json.Readable data) (surroundings : Surroundings) (path : String)
    (s : Session) :
    (∃ e later, (keep surroundings path (ofSchema url fetched data)).run s = (.error e, later) ∧
      later.requests = s.requests ∧ (later.files = s.files ∨
        s.files.makeDirectories surroundings.directory (cacheParent path) = .ok later.files)) ∨
    ∃ made files, (keep surroundings path (ofSchema url fetched data)).run s =
        (.ok (), { s with files }) ∧
      (ofSchema url fetched data).canCopy surroundings.nesting ∧
      s.files.makeDirectories surroundings.directory (cacheParent path) = .ok made ∧
      made.write surroundings.directory path
        (ofSchema url fetched data).toJson.pretty.toUTF8 = .ok files := by
  have hmake := Session.run_makeDirectories surroundings.directory (cacheParent path) s
  rw [Session.run_change] at hmake
  rw [keep_eq]
  cases hmade : s.files.makeDirectories surroundings.directory (cacheParent path) with
  | error failure =>
    rw [hmade] at hmake
    exact .inl ⟨_, _, Work.run_bind_error hmake, rfl, .inl rfl⟩
  | ok made =>
    rw [hmade] at hmake
    rw [Work.run_bind_ok hmake]
    by_cases hroom : (ofSchema url fetched data).canCopy surroundings.nesting
    . have hwrite := Session.run_writeJson_of_text surroundings.directory path
        { s with files := made } (text_toJson hreadable hroom)
      rw [Session.run_change] at hwrite
      rw [if_pos hroom]
      cases hwritten : made.write surroundings.directory path
        (ofSchema url fetched data).toJson.pretty.toUTF8 with
      | error failure =>
        rw [hwritten] at hwrite
        exact .inl ⟨_, _, hwrite, rfl, .inr rfl⟩
      | ok files =>
        rw [hwritten] at hwrite
        exact .inr ⟨made, files, hwrite, hroom, rfl, hwritten⟩
    . rw [if_neg hroom]
      exact .inl ⟨_, _, rfl, rfl, .inr rfl⟩

theorem run_fetch (surroundings : Surroundings) (url : String) (token? : Option String)
    (path : String) (outcome : Http.Outcome) (files : FileTree) :
    (∃ e later, (fetch surroundings url token? path).run { files, outcomes := [outcome] } =
        (.error e, later) ∧ later.requests = [Introspection.request url token?] ∧
      (later.files = files ∨
        files.makeDirectories surroundings.directory (cacheParent path) = .ok later.files)) ∨
    ∃ data made later, (fetch surroundings url token? path).run { files, outcomes := [outcome] } =
        (.ok (ofSchema url surroundings.now data), later) ∧
      later.requests = [Introspection.request url token?] ∧
      Introspection.ofOutcome url (outcome.ofServer url) = .ok data ∧
      (ofSchema url surroundings.now data).canCopy surroundings.nesting ∧
      files.makeDirectories surroundings.directory (cacheParent path) = .ok made ∧
      made.write surroundings.directory path
        (ofSchema url surroundings.now data).toJson.pretty.toUTF8 = .ok later.files := by
  have hask := run_introspection url token? outcome files
  unfold fetch
  cases hdata : Introspection.ofOutcome url (outcome.ofServer url) with
  | error e =>
    rw [hdata] at hask
    exact .inl ⟨e, _, Work.run_bind_error hask, rfl, .inl rfl⟩
  | ok data =>
    rw [hdata] at hask
    rw [Work.run_bind_ok hask]
    dsimp only
    rcases run_keep (readable_ofOutcome hdata) surroundings path
      { files, requests := [Introspection.request url token?] } with
      ⟨e, later, hkeep, hrequests, hfiles⟩ | ⟨made, written, hkeep, hroom, hmade, hwritten⟩
    . exact .inl ⟨e, later, Work.run_bind_error hkeep, hrequests, hfiles⟩
    . exact .inr ⟨data, made, _, Work.run_bind_ok hkeep, rfl, rfl, hroom, hmade, hwritten⟩

theorem run_introspection_eq_ok {token? : Option String} {later : Session} :
    (Introspection.run url token?).run s = (.ok data, later) ↔
      ∃ first outcomes, s.outcomes = first :: outcomes ∧
        Introspection.ofOutcome url (first.ofServer url) = .ok data ∧
        { s with outcomes, requests := s.requests ++ [Introspection.request url token?] } =
          later := by
  unfold Introspection.run
  rw [Work.run_bind_eq_ok]
  simp only [Session.run_post_eq_ok, Work.run_lift_eq_ok]
  constructor
  . rintro ⟨_, _, ⟨first, outcomes, houtcomes, rfl, rfl⟩, hdata, rfl⟩
    exact ⟨first, outcomes, houtcomes, hdata, rfl⟩
  . rintro ⟨first, outcomes, houtcomes, hdata, rfl⟩
    exact ⟨_, _, ⟨first, outcomes, houtcomes, rfl, rfl⟩, hdata, rfl⟩

theorem run_fetch_eq_ok {token? : Option String} {profile : SchemaProfile} {later : Session} :
    (fetch surroundings url token? path).run s = (.ok profile, later) ↔
      ∃ first outcomes data made files, s.outcomes = first :: outcomes ∧
        Introspection.ofOutcome url (first.ofServer url) = .ok data ∧
        (ofSchema url surroundings.now data).canCopy surroundings.nesting ∧
        s.files.makeDirectories surroundings.directory (cacheParent path) = .ok made ∧
        made.write surroundings.directory path
          (ofSchema url surroundings.now data).toJson.pretty.toUTF8 = .ok files ∧
        ofSchema url surroundings.now data = profile ∧
        { s with files, outcomes, requests := s.requests ++ [Introspection.request url token?] } =
          later := by
  unfold fetch
  simp only [Work.run_bind_eq_ok, run_introspection_eq_ok, Work.run_pure_eq_ok]
  constructor
  . rintro ⟨data, _, ⟨first, outcomes, houtcomes, hdata, rfl⟩, _, _, hkept, hprofile, rfl⟩
    rcases run_keep (readable_ofOutcome hdata) surroundings path _ with
      ⟨e, later, hkeep, -⟩ | ⟨made, files, hkeep, hroom, hmade, hfiles⟩
    . rw [hkeep] at hkept
      cases hkept
    . rw [hkeep] at hkept
      cases hkept
      exact ⟨first, outcomes, data, made, files, houtcomes, hdata, hroom, hmade, hfiles, hprofile,
        rfl⟩
  . rintro ⟨first, outcomes, data, made, files, houtcomes, hdata, hroom, hmade, hfiles, hprofile,
      rfl⟩
    refine ⟨data, _, ⟨first, outcomes, houtcomes, hdata, rfl⟩, (), _, ?_, hprofile, rfl⟩
    rw [keep_eq, Work.run_bind_eq_ok]
    refine ⟨(), _, Session.run_makeDirectories_eq_ok.mpr ⟨made, hmade, rfl⟩, ?_⟩
    rw [if_pos hroom]
    exact Session.run_writeJson_eq_ok.mpr
      ⟨_, text_toJson (readable_ofOutcome hdata) hroom, files, hfiles, rfl⟩

theorem run_ofFile_definitions {text : String}
    (hending : definitionEndings.any fun ending => path.endsWith ending)
    (htext : s.files.readText surroundings.directory (toString (Path.ofString path)) = .ok text) :
    (ofFile surroundings path).run s =
      (.ok (ofSchema ("file://" ++ path) surroundings.now (Json.ofString text)), s) := by
  have hrun := Session.run_readText surroundings.directory (toString (Path.ofString path)) s
  rw [htext] at hrun
  unfold ofFile
  dsimp only
  rw [if_pos hending, Work.run_bind_ok hrun]
  rfl

theorem run_ofFile_description
    (hending : ¬ definitionEndings.any fun ending => path.endsWith ending)
    (hread : s.files.read surroundings.directory path = .ok data.pretty.toUTF8)
    (hreadable : Json.Readable data) (hroom : data.levels ≤ surroundings.nesting - 1) :
    (ofFile surroundings path).run s =
      (.ok (ofSchema ("file://" ++ path) surroundings.now data), s) := by
  have hrun := Session.run_readJson_pretty hreadable hread hroom
  unfold ofFile
  dsimp only
  rw [if_neg hending, Work.run_bind_ok hrun]
  rfl

theorem load_file {c : Config} {r : SchemaRequest} (h : given? r.file? = some path) :
    load surroundings c r = ofFile surroundings path := by
  unfold load
  rw [h]

theorem given?_eq_some_iff {text? : Option String} {text : String} :
    given? text? = some text ↔ text? = some text ∧ text ≠ "" := by
  unfold given?
  rw [Option.filter_eq_some_iff]
  simp

theorem load_url {c : Config} {r : SchemaRequest} (hfile : given? r.file? = none)
    (hurl : given? r.url? = some url) : load surroundings c r = (do
      let path ← (liftM (cacheFile c url) : Work String)
      let kept? ← if r.refresh then pure none else kept? surroundings c.schemaCacheHours path
      match kept? with
      | some profile => return profile
      | none => fetch surroundings url ((given? r.token?).or surroundings.token?) path) := by
  unfold load
  rewrite [hfile, hurl]
  rfl

theorem isQuiet_ofFile (surroundings : Surroundings) (path : String) :
    Work.IsQuiet (ofFile surroundings path) := by
  unfold ofFile
  dsimp only
  split
  . exact (Session.isQuiet_readText _ _).bind fun _ => (Work.isQuiet_pure _).bind fun _ =>
      Work.isQuiet_pure _
  . exact (Session.isQuiet_readJson _ _ _).bind fun _ => Work.isQuiet_pure _

end QueryLinker.SchemaProfile
