import QueryLinker.Proofs.Console.Block
import QueryLinker.Proofs.Project.Gate
import QueryLinker.Proofs.Project.SchemaCache
import QueryLinker.Proofs.Url.Endpoint

/-!
This module contains that all routes to a schema that was pulled agree: a compile command that is
told the endpoint asks nobody, and comes to the same as one that is told the file that was written.
-/

namespace QueryLinker.Command

open Console.Markup (exists_lines_tagged)
open SchemaProfile (given?)

section

variable {s : Surroundings} {p : PullCommand} {config : Config} {base out : String}
  {before after : Session}

def fetchingBlocks (url : String) : List Console.Block :=
  [.tagged ("[cyan]Fetching schema from " ++ url ++ "...[/cyan]")]

def pulledBlocks (profile : SchemaProfile) (path : String) : List Console.Block :=
  valueBlocks "Schema pulled" [("url", profile.url), ("hash", profile.hash), ("path", .str path)]

def pullRequest (p : PullCommand) (base : String) : SchemaRequest :=
  { url? := some (Url.endpoint base), refresh := true, token? := p.token? }

theorem runPull_eq (hbase : given? p.url? = some base) (hout : given? p.out? = some out) :
    runPull s p = do
      let config ← Command.config s p.configFile?
      Session.print s.lineWidth (fetchingBlocks (Url.endpoint base))
      let profile ← SchemaProfile.load s config (pullRequest p base)
      Session.writeJson s.nesting s.directory out profile.schema
      Session.print s.lineWidth (pulledBlocks profile out)
      return success := by
  unfold runPull
  refine bind_congr fun config => ?_
  rewrite [hbase, hout]
  dsimp only
  rewrite [pure_bind]
  dsimp only
  refine bind_congr fun _ => bind_congr fun profile => bind_congr fun _ => ?_
  rewrite [pure_bind]
  rfl

/-- What a pull that is carried out has done: `files` are the files behind it. -/
structure Pulled (s : Surroundings) (p : PullCommand) (config : Config) (base out path : String)
    (data : Json) (before : Session) (files : FileTree) : Prop where
  loads : Config.load s before.files p.configFile? = .ok config
  keepsIn : SchemaProfile.cacheFile config (Url.endpoint base) = .ok path
  answers : ∃ first outcomes, before.outcomes = first :: outcomes ∧
    Introspection.ofOutcome (Url.endpoint base) (first.ofServer (Url.endpoint base)) = .ok data
  copies : (SchemaProfile.ofSchema (Url.endpoint base) s.now data).canCopy s.nesting
  writes : ∃ made kept,
    before.files.makeDirectories s.directory (SchemaProfile.cacheParent path) = .ok made ∧
    made.write s.directory path
      (SchemaProfile.ofSchema (Url.endpoint base) s.now data).toJson.pretty.toUTF8 = .ok kept ∧
    kept.write s.directory out data.pretty.toUTF8 = .ok files
  shows : (Console.print (fetchingBlocks (Url.endpoint base)) s.lineWidth).2 = none ∧
    (Console.print (pulledBlocks (SchemaProfile.ofSchema (Url.endpoint base) s.now data) out)
      s.lineWidth).2 = none

theorem load_pullRequest : SchemaProfile.load s config (pullRequest p base) = (do
    let path ← (liftM (SchemaProfile.cacheFile config (Url.endpoint base)) : Work String)
    SchemaProfile.fetch s (Url.endpoint base) ((given? p.token?).or s.token?) path) := by
  have hurl : given? (pullRequest p base).url? = some (Url.endpoint base) :=
    SchemaProfile.given?_eq_some_iff.mpr ⟨rfl, Url.endpoint_ne_empty base⟩
  rw [SchemaProfile.load_url rfl hurl]
  have hrefresh : (pullRequest p base).refresh = true := rfl
  refine bind_congr fun path => ?_
  dsimp only
  rewrite [if_pos hrefresh, pure_bind]
  rfl

theorem exists_runPull_iff (hbase : given? p.url? = some base) (hout : given? p.out? = some out)
    {files : FileTree} :
    (∃ after, (runPull s p).run before = (.ok success, after) ∧ after.files = files) ↔
      ∃ config path data, Pulled s p config base out path data before files := by
  rw [runPull_eq hbase hout]
  simp only [load_pullRequest, Work.run_bind_eq_ok, Work.run_lift_eq_ok, run_config_eq_ok,
    Session.run_print_eq_ok, SchemaProfile.run_fetch_eq_ok, Session.run_writeJson_eq_ok,
    Work.run_pure_eq_ok]
  constructor
  . rintro ⟨after, ⟨config, _, ⟨hconfig, rfl⟩, _, _, ⟨hfetching, rfl⟩, profile, _, ⟨path, _,
      ⟨hpath, rfl⟩, first, outcomes, data, made, kept, houtcomes, hdata, hroom, hmade, hkept, rfl,
      rfl⟩, _, _, ⟨text, htext, written, hwritten, rfl⟩, _, _, ⟨hshown, rfl⟩, _, rfl⟩, rfl⟩
    cases (Json.text_eq_ok_iff.mp htext).1
    exact ⟨config, path, data, hconfig, hpath, ⟨first, outcomes, houtcomes, hdata⟩, hroom,
      ⟨made, kept, hmade, hkept, hwritten⟩, hfetching, hshown⟩
  . rintro ⟨config, path, data, hconfig, hpath, ⟨first, outcomes, houtcomes, hdata⟩, hroom,
      ⟨made, kept, hmade, hkept, hwritten⟩, hfetching, hshown⟩
    have htext := SchemaProfile.text_schema (SchemaProfile.readable_ofOutcome hdata) hroom
    exact ⟨_, ⟨config, _, ⟨hconfig, rfl⟩, (), _, ⟨hfetching, rfl⟩, _, _, ⟨path, _,
      ⟨hpath, rfl⟩, first, outcomes, data, made, kept, houtcomes, hdata, hroom, hmade, hkept, rfl,
      rfl⟩, (), _, ⟨_, htext, files, hwritten, rfl⟩, (), _, ⟨hshown, rfl⟩, trivial, rfl⟩, rfl⟩

namespace Pulled

variable {path : String} {data : Json} {files : FileTree} {later : Surroundings}
  {session : Session}

theorem readable (h : Pulled s p config base out path data before files) : Json.Readable data := by
  rcases h.answers with ⟨first, outcomes, _, hdata⟩
  exact SchemaProfile.readable_ofOutcome hdata

theorem read (h : Pulled s p config base out path data before files) :
    files.read s.directory out = .ok data.pretty.toUTF8 := by
  rcases h.writes with ⟨made, kept, _, _, hwrite⟩
  rcases FileTree.exists_written hwrite with ⟨way, name, hwritten⟩
  exact hwritten.read

theorem find? (h : Pulled s p config base out path data before files)
    (hne : files.wayTo s.directory out ≠ files.wayTo s.directory path) :
    FileTree.pathFlaw? path = none ∧ files.find? s.directory path =
      some (.file
          (SchemaProfile.ofSchema (Url.endpoint base) s.now data).toJson.pretty.toUTF8) := by
  rcases h.writes with ⟨made, kept, _, hkeep, hwrite⟩
  rcases FileTree.exists_written hkeep with ⟨way, name, hkept⟩
  rcases FileTree.exists_written hwrite with ⟨way', name', hwritten⟩
  exact ⟨hkept.flaw, hwritten.find?_of_ne hne hkept.find?⟩

theorem run_load_url (h : Pulled s p config base out path data before files)
    (hne : files.wayTo s.directory out ≠ files.wayTo s.directory path)
    (hfiles : session.files = files) (hdirectory : later.directory = s.directory)
    (hnesting : later.nesting = s.nesting)
    (hexpired : (SchemaProfile.ofSchema (Url.endpoint base) s.now data).isExpired later.now
      config.schemaCacheHours = .ok false) :
    (SchemaProfile.load later config { url? := some (Url.endpoint base) }).run session =
      (.ok (SchemaProfile.ofSchema (Url.endpoint base) s.now data), session) := by
  let request : SchemaRequest := { url? := some (Url.endpoint base) }
  have hfile : given? request.file? = none := rfl
  have hurl : given? request.url? = some (Url.endpoint base) :=
    SchemaProfile.given?_eq_some_iff.mpr ⟨rfl, Url.endpoint_ne_empty base⟩
  have hrefresh : ¬ request.refresh = true := by simp [request]
  rcases h.find? hne with ⟨hflaw, hfind⟩
  rw [← hfiles] at hfind
  have hcopies := h.copies
  rw [← hnesting] at hcopies
  have hkept := SchemaCache.run_kept?_matches hdirectory
    (mapError_eq_ok_iff.mp h.keepsIn) h.readable hcopies hflaw hfind hexpired
  have hpath : (liftM (SchemaProfile.cacheFile config (Url.endpoint base)) : Work String).run
      session = (.ok path, session) := by
    rw [Work.run_lift, h.keepsIn]
  change (SchemaProfile.load later config request).run session = _
  rw [SchemaProfile.load_url hfile hurl, Work.run_bind_ok hpath, if_neg hrefresh,
    Work.run_bind_ok hkept]
  rfl

theorem run_load_file (h : Pulled s p config base out path data before files)
    (hout : out ≠ "")
    (hending : ¬ SchemaProfile.definitionEndings.any fun ending => out.endsWith ending)
    (hfiles : session.files = files) (hdirectory : later.directory = s.directory)
    (hnesting : later.nesting = s.nesting) (url? : Option String) :
    (SchemaProfile.load later config { url?, file? := some out }).run session =
      (.ok (SchemaProfile.ofSchema ("file://" ++ out) later.now data), session) := by
  let request : SchemaRequest := { url?, file? := some out }
  have hfile : given? request.file? = some out :=
    SchemaProfile.given?_eq_some_iff.mpr ⟨rfl, hout⟩
  have hread := h.read
  rw [← hfiles, ← hdirectory] at hread
  change (SchemaProfile.load later config request).run session = _
  rw [SchemaProfile.load_file hfile]
  refine SchemaProfile.run_ofFile_description hending hread h.readable ?_
  rw [hnesting]
  exact SchemaProfile.levels_schema_le h.copies

theorem exists_run (h : Pulled s p config base out path data before files)
    (hbase : given? p.url? = some base) (hout : given? p.out? = some out) : ∃ pulled,
      Command.run s (.pullSchema p) before = (.ok success, pulled) ∧ pulled.files = files := by
  rcases (exists_runPull_iff hbase hout).mpr ⟨config, path, data, h⟩ with ⟨pulled, hpull, hfiles⟩
  refine ⟨pulled, ?_, hfiles⟩
  change (reporting s (runPull s p)).run before = _
  unfold reporting
  rw [Work.run_tryCatch, hpull]

end Pulled

/-! Compile commands that differ in the schema that they are told. -/

def against (k : CompileCommand) (url? schemaFile? : Option String) : CompileCommand :=
  { k with options := { k.options with url?, schemaFile?, refreshSchema := false } }

variable {k : CompileCommand} {v : String} {session : Session} {url? : Option String}

theorem schemaRequest_url (hv : v ≠ "")
    (hfile : CompileRun.textSetting "endswith" config.schemaFile = .ok none) :
    CompileRun.schemaRequest config (against k (some v) none).options =
      .ok { url? := some (Url.endpoint v) } := by
  have hgiven : given? (against k (some v) none).options.url? = some v :=
    SchemaProfile.given?_eq_some_iff.mpr ⟨rfl, hv⟩
  have hnone : given? (against k (some v) none).options.schemaFile? = none := rfl
  unfold CompileRun.schemaRequest
  rw [hgiven, hnone, hfile]
  rfl

theorem schemaRequest_file (hout : out ≠ "")
    (hdefault : CompileRun.textSetting "rstrip" config.defaultUrl = .ok url?) :
    CompileRun.schemaRequest config (against k none (some out)).options =
      .ok { url? := url?.map Url.endpoint, file? := some out } := by
  have hgiven : given? (against k none (some out)).options.schemaFile? = some out :=
    SchemaProfile.given?_eq_some_iff.mpr ⟨rfl, hout⟩
  have hnone : given? (against k none (some out)).options.url? = none := rfl
  unfold CompileRun.schemaRequest
  rw [hgiven, hnone, hdefault]
  cases url? <;> rfl

theorem compileDescribed_against (url? schemaFile? : Option String) (description : Json)
    (tree : FileTree) :
    CompileRun.compileDescribed s config (against k url? schemaFile?).options description tree =
      CompileRun.compileDescribed s config k.options description tree := by
  unfold CompileRun.compileDescribed
  rfl

theorem run_against_of_load {schemaFile? : Option String} {request : SchemaRequest}
    {profile : SchemaProfile} {data : Json} (hdata : profile.schema = data)
    (hrequest : CompileRun.schemaRequest config (against k url? schemaFile?).options = .ok request)
    (hload : (SchemaProfile.load s config request).run session = (.ok profile, session)) :
    (CompileRun.run s config (against k url? schemaFile?).options).run session =
      (CompileRun.compileDescribed s config k.options data session.files, session) := by
  rw [CompileRun.run_of_load hrequest hload, hdata, compileDescribed_against]

theorem run_against_of_default_error {failure : RunFailure}
    (hdefault : CompileRun.textSetting "rstrip" config.defaultUrl = .error failure) :
    (CompileRun.run s config (against k none (some out)).options).run session =
      (.error failure, session) := by
  have hnone : given? (against k none (some out)).options.url? = none := rfl
  refine CompileRun.run_of_request_error ?_
  unfold CompileRun.schemaRequest
  rw [hnone, hdefault]
  rfl

theorem runCompile_congr {k' : CompileCommand} (hsame : { k with options := k'.options } = k')
    (hload : Config.load s session.files k.configFile? = .ok config)
    (h : (CompileRun.run s config k.options).run session =
      (CompileRun.run s config k'.options).run session) :
    (runCompile s k).run session = (runCompile s k').run session := by
  have hconfig := run_config_eq_ok.mpr ⟨hload, rfl⟩
  rw [← hsame] at h ⊢
  have hlevel : logLevel { k with options := k'.options } config = logLevel k config := rfl
  rw [runCompile_eq, runCompile_eq, Work.run_bind_ok hconfig, Work.run_bind_ok hconfig,
    Work.run_bind_lift, Work.run_bind_lift, hlevel]
  cases logLevel k config with
  | error failure => rfl
  | ok level =>
    dsimp only at h ⊢
    rw [Work.run_bind, Work.run_bind, h]
    rfl

theorem run_compile_congr {k' : CompileCommand} (hsame : { k with options := k'.options } = k')
    (hload : Config.load s session.files k.configFile? = .ok config)
    (h : (CompileRun.run s config k.options).run session =
      (CompileRun.run s config k'.options).run session) :
    Command.run s (.compile k) session = Command.run s (.compile k') session := by
  change (reporting s (runCompile s k)).run session = (reporting s (runCompile s k')).run session
  unfold reporting
  rw [Work.run_tryCatch, Work.run_tryCatch, runCompile_congr hsame hload h]

theorem reporting_requests {work : Work UInt32}
    (h : (work.run session).2.requests = session.requests) :
    ((reporting s work).run session).2.requests = session.requests := by
  unfold reporting
  rw [Work.run_tryCatch]
  rcases hrun : work.run session with ⟨f | status, later⟩
  . rw [hrun] at h
    rw [← h]
    dsimp only
    cases f.message? with
    | none => rfl
    | some message =>
      exact (Session.asksNobody_print _ _).bind (fun _ => Work.asksNobody_pure _) later
  . rw [hrun] at h
    exact h

theorem run_compile_requests {result : Except RunFailure Summary}
    (hload : Config.load s session.files k.configFile? = .ok config)
    (h : (CompileRun.run s config k.options).run session = (result, session)) :
    (Command.run s (.compile k) session).2.requests = session.requests := by
  apply reporting_requests
  rw [runCompile_eq, Work.run_bind_ok (run_config_eq_ok.mpr ⟨hload, rfl⟩), Work.run_bind_lift]
  cases logLevel k config with
  | error failure => rfl
  | ok level =>
    dsimp only
    rw [Work.run_bind, h]
    cases result with
    | error failure => rfl
    | ok summary =>
      refine ((Session.asksNobody_print _ _).bind fun _ => Work.AsksNobody.bind ?_ fun _ =>
        Work.asksNobody_pure _) session
      unfold writeReport
      cases given? k.out? with
      | none => exact Work.asksNobody_pure _
      | some path => exact Session.asksNobody_writeJson _ _ _ _

/-- A pull of an endpoint that succeeds and writes the schema to a file of its own. -/
structure Succeeds (s : Surroundings) (p : PullCommand) (config : Config) (base out : String)
    (before pulled : Session) : Prop where
  asks : given? p.url? = some base
  writes : given? p.out? = some out
  loads : Config.load s before.files p.configFile? = .ok config
  run : Command.run s (.pullSchema p) before = (.ok success, pulled)
  now : s.now.Utc
  apart : ∀ path, SchemaProfile.cacheFile config (Url.endpoint base) = .ok path →
    pulled.files.wayTo s.directory out ≠ pulled.files.wayTo s.directory path
  ending : ¬ SchemaProfile.definitionEndings.any fun ending => out.endsWith ending

/-- A later command on the files of a pull, whose settings name no schema file. -/
structure Follows (s later : Surroundings) (config : Config) (pulled session : Session) :
    Prop where
  files : session.files = pulled.files
  directory : later.directory = s.directory
  nesting : later.nesting = s.nesting
  noFile : CompileRun.textSetting "endswith" config.schemaFile = .ok none
  now : later.now.Utc
  recent : config.schemaCacheHours = .null ∨ ∃ micros,
    Duration.microsOfHours config.schemaCacheHours = .ok micros ∧
      later.now.clock - s.now.clock ≤ micros

/--
A command that is told an endpoint asks nobody. It comes to the same as one that is told a file, the
same queries and errors or the same failure, unless the default endpoint stops the latter.
-/
structure Agrees (s : Surroundings) (k : CompileCommand) (config : Config) (session : Session)
    (v out : String) : Prop where
  requests : (Command.run s (.compile (against k (some v) none)) session).2.requests =
    session.requests
  summary : ∀ url?, CompileRun.textSetting "rstrip" config.defaultUrl = .ok url? →
    (CompileRun.run s config (against k (some v) none).options).run session =
      (CompileRun.run s config (against k none (some out)).options).run session
  command : ∀ url?, CompileRun.textSetting "rstrip" config.defaultUrl = .ok url? →
    Command.run s (.compile (against k (some v) none)) session =
      Command.run s (.compile (against k none (some out))) session
  stops : ∀ failure, CompileRun.textSetting "rstrip" config.defaultUrl = .error failure →
    (CompileRun.run s config (against k none (some out)).options).run session =
      (.error failure, session)

theorem Succeeds.exists_pulled {pulled : Session}
    (h : Succeeds s p config base out before pulled) :
    ∃ path data, Pulled s p config base out path data before pulled.files := by
  have hrun := h.run
  change (reporting s (runPull s p)).run before = _ at hrun
  unfold reporting at hrun
  rw [Work.run_tryCatch] at hrun
  rcases hpull : (runPull s p).run before with ⟨f | status, stopped⟩
  . -- A failure that is reported has another status.
    rw [hpull] at hrun
    dsimp only at hrun
    cases hmessage : f.message? with
    | none =>
      rw [hmessage] at hrun
      cases hrun
    | some message =>
      rw [hmessage] at hrun
      rcases Work.run_bind_eq_ok.mp hrun with ⟨_, _, _, hstatus⟩
      cases hstatus
  . rw [hpull] at hrun
    cases hrun
    rcases (exists_runPull_iff h.asks h.writes).mp ⟨_, hpull, rfl⟩ with
      ⟨config', path, data, hpulled⟩
    cases h.loads.symm.trans hpulled.loads
    exact ⟨path, data, hpulled⟩

/--
Behind a pull that succeeds, while the schema that it fetched is not too old and its settings are
still there, a compile command that is told the endpoint agrees with one that is told the file that
was written, as far as the settings let the latter run. The endpoint may be told by any text that
stands for its address, such as the one of the pull, the same with further slashes at its end, and
the address itself.
-/
theorem compile_agrees_of_pull {later : Surroundings} {pulled : Session}
    (hpull : Succeeds s p config base out before pulled)
    (hlater : Follows s later config pulled session)
    (hloads : Config.load later session.files k.configFile? = .ok config) :
    (∀ v, v ≠ "" → Url.endpoint v = Url.endpoint base → Agrees later k config session v out) ∧
    (∀ n, Agrees later k config session (base ++ Url.slashes n) out) ∧
      Agrees later k config session (Url.endpoint base) out := by
  have hagrees (v : String) (hv : v ≠ "") (heq : Url.endpoint v = Url.endpoint base) :
      Agrees later k config session v out := by
    rcases hpull.exists_pulled with ⟨path, data, hpulled⟩
    have hexpired := SchemaProfile.isExpired_of_le (Url.endpoint base) data hpull.now hlater.now
      hlater.recent
    have hout := (SchemaProfile.given?_eq_some_iff.mp hpull.writes).2
    have hurl := schemaRequest_url (k := k) hv hlater.noFile
    rw [heq] at hurl
    have hkept := hpulled.run_load_url (hpull.apart path hpulled.keepsIn) hlater.files
      hlater.directory hlater.nesting hexpired
    have hbyUrl := run_against_of_load (SchemaProfile.schema_ofSchema _ _ data) hurl hkept
    have hload : Config.load later session.files (against k (some v) none).configFile? =
        .ok config := hloads
    have hsummary (url? : Option String)
        (hdefault : CompileRun.textSetting "rstrip" config.defaultUrl = .ok url?) :
        (CompileRun.run later config (against k (some v) none).options).run session =
          (CompileRun.run later config (against k none (some out)).options).run session := by
      have hwritten := hpulled.run_load_file hout hpull.ending hlater.files hlater.directory
        hlater.nesting (url?.map Url.endpoint)
      exact hbyUrl.trans (run_against_of_load (SchemaProfile.schema_ofSchema _ _ data)
        (schemaRequest_file hout hdefault) hwritten).symm
    exact ⟨run_compile_requests hload hbyUrl, hsummary,
      fun url? hdefault => run_compile_congr rfl hload (hsummary url? hdefault),
      fun failure hdefault => run_against_of_default_error hdefault⟩
  have hbase := (SchemaProfile.given?_eq_some_iff.mp hpull.asks).2
  refine ⟨hagrees, fun n => hagrees _ ?_ (Url.endpoint_append_slashes base n),
    hagrees _ (Url.endpoint_ne_empty base) (Url.endpoint_endpoint base)⟩
  simp [hbase]

end

namespace Sample

/-! What is printed. -/

def base : String :=
  "http://e"

def address : String :=
  "http://e/graphql/"

theorem endpoint_base : Url.endpoint base = address := by
  decide +kernel

theorem shows_fetching : (Console.print (fetchingBlocks address)).2 = none := by
  let span : Console.Markup.Span := .ofPlain "" "cyan" "Fetching schema from http://e/graphql/..."
    (by decide +kernel) .cyan (by decide) (by decide)
  have htext : "[cyan]Fetching schema from http://e/graphql/...[/cyan]".toList =
      [span].foldr Console.Markup.Span.followedBy [] := by
    simp [span, Console.Markup.Span.ofPlain, Console.Markup.Span.followedBy]
  rw [Console.print_eq_none_iff]
  simp only [fetchingBlocks, List.forall_mem_singleton]
  exact exists_lines_tagged [span] htext (by decide)

theorem lines_pulled : ∃ lines, (Console.Block.tagged
    ("\n[bold cyan]" ++ "Schema pulled" ++ "[/bold cyan]\n")).lines usualWidth = .ok lines := by
  let span : Console.Markup.Span := .ofPlain "\n" "bold cyan" "Schema pulled" (by decide +kernel)
    .boldCyan (by decide) (by decide)
  have htext : ("\n[bold cyan]" ++ "Schema pulled" ++ "[/bold cyan]\n").toList =
      [span].foldr Console.Markup.Span.followedBy ['\n'] := by
    simp [span, Console.Markup.Span.ofPlain, Console.Markup.Span.followedBy]
  exact exists_lines_tagged [span] htext (by decide)

/-! The settings and the files. -/

def surroundings (hour : Nat) : Surroundings where
  directory := "/"
  home := "/"
  now := { year := 2024, month := 1, day := 1, hour, offset? := some 0 }

def settings (url : Yaml.Value) : Config :=
  { CompileRun.Sample.config with defaultUrl := url }

def settingsText : String :=
  "default_url: 8000"

def tree (kept others : List (String × FileTree)) : FileTree :=
  .directory ((".gqc", .directory [("schemas", .directory kept)]) ::
    ("config.yaml", .file settingsText.toUTF8) :: others)

def LoadsFrom (file? : Option String) (url : Yaml.Value) : Prop :=
  ∀ hour kept others, Config.load (surroundings hour) (tree kept others) file? = .ok (settings url)

theorem loadsFrom_none : LoadsFrom none .null := by
  intro hour kept others
  refine CompileRun.Sample.load_config rfl rfl ?_
  have hsteps : FileTree.componentsFrom "/" "/.gqc/config.yaml" = [".gqc", "config.yaml"] := by
    decide
  unfold FileTree.wayTo
  rw [hsteps]
  rfl

def settingsValue : Yaml.Value :=
  .map [(.text (.ofString "default_url"), .int 8000)]

theorem read_settingsText : Yaml.read (.ofBytes settingsText.toUTF8) = .ok settingsValue := by
  cbv

theorem setting_of_ne (key : String) (usual : Yaml.Value) (h : key ≠ "default_url") :
    Config.setting settingsValue key usual = usual := by
  have hne : LooseText.ofString "default_url" ≠ LooseText.ofString key := fun heq =>
    h (Json.ofString_inj heq).symm
  have hkey : settingsValue.get? key = none := by
    unfold settingsValue Yaml.Value.get?
    simp [Yaml.Value.sameKey, hne]
  rw [Config.setting, hkey]

theorem loadsFrom_config : LoadsFrom (some "config.yaml") (.int 8000) := by
  intro hour kept others
  have hplain : toString (Path.ofString "config.yaml") = "config.yaml" := by decide
  have hway : (tree kept others).wayTo "/" "config.yaml" = .ok ["config.yaml"] := by
    have hsteps : FileTree.componentsFrom "/" "config.yaml" = ["config.yaml"] := by decide
    unfold FileTree.wayTo
    rw [hsteps]
    rfl
  have hthere : (tree kept others).isThere "/" "config.yaml" = .ok true := by
    unfold FileTree.isThere
    dsimp only
    rw [hplain, hway]
    rfl
  have hopens : FileTree.Opens "/" "config.yaml" ["config.yaml"] :=
    ⟨by decide, by decide, by decide, by decide, by decide⟩
  have hread : (tree kept others).read "/" "config.yaml" = .ok settingsText.toUTF8 :=
    hopens.read rfl rfl
  have hvalue : Config.ofValue (surroundings hour) settingsValue = .ok (settings (.int 8000)) :=
    CompileRun.Sample.ofValue_eq rfl rfl rfl setting_of_ne
  unfold Config.load
  change (((tree kept others).isThere "/" "config.yaml").mapError _ >>= _) = _
  rw [hthere]
  change (((tree kept others).read "/" "config.yaml").mapError _ >>= _) = _
  rw [hread]
  simp only [Except.mapError, bind, Except.bind, read_settingsText]
  exact hvalue

def keptPath : String :=
  "/.gqc/schemas/e-5eb3cdb9.json"

theorem makeDirectories_tree (kept others : List (String × FileTree)) :
    (tree kept others).makeDirectories "/" (SchemaProfile.cacheParent keptPath) =
      .ok (tree kept others) := by
  have hparent : SchemaProfile.cacheParent keptPath = "/.gqc/schemas" := by decide
  have hcontains : "/.gqc/schemas".contains '\x00' = false := by
    rw [String.contains_char_eq]
    decide
  have hsteps : FileTree.componentsFrom "/" "/.gqc/schemas" = [".gqc", "schemas"] := by decide
  rw [hparent, FileTree.makeDirectories, hcontains, if_neg (by simp), if_neg (by decide), hsteps]
  rfl

theorem written_kept (content : ByteArray) :
    FileTree.Written (tree [] []) "/" keptPath content
      (tree [("e-5eb3cdb9.json", .file content)] []) ["schemas", ".gqc"] "e-5eb3cdb9.json" where
  flaw := FileTree.pathFlaw?_eq_none (by decide) (by decide) (by decide)
  slash := FileTree.endsWith_slash_eq_false (by decide)
  components := by
    refine ⟨[".gqc", "schemas"], ?_, rfl⟩
    rw [FileTree.openedComponents_eq]
    decide
  directory := ⟨[], rfl, nofun⟩
  ne_dot := by decide
  ne_dots := by decide
  size_le := by decide
  result := rfl

theorem written_out (kept : List (String × FileTree)) (content : ByteArray) :
    FileTree.Written (tree kept []) "/" "f.json" content (tree kept [("f.json", .file content)]) []
      "f.json" where
  flaw := FileTree.pathFlaw?_eq_none (by decide) (by decide) (by decide)
  slash := FileTree.endsWith_slash_eq_false (by decide)
  components := by
    refine ⟨[], ?_, rfl⟩
    rw [FileTree.openedComponents_eq]
    decide
  directory := ⟨_, rfl, nofun⟩
  ne_dot := by decide
  ne_dots := by decide
  size_le := by decide
  result := rfl

/-! The pull. -/

def pull (file? : Option String) : PullCommand :=
  { url? := some base, out? := some "f.json", configFile? := file? }

def data : Json :=
  .ofString CompileRun.Sample.definitions

def answer : Http.Outcome :=
  .response { url := base, body := "\x7b\"data\": \"type Query \x7b a: Int \x7d\"\x7d" }

theorem ofOutcome_answer :
    Introspection.ofOutcome address (answer.ofServer address) = .ok data := by
  cbv

def profile : SchemaProfile :=
  .ofSchema address (surroundings 0).now data

theorem shows_pulled : (Console.print (pulledBlocks profile "f.json")).2 = none := by
  have htable : ((Console.Block.table [["url", profile.url.plainText],
      ["hash", profile.hash.plainText], ["path", "f.json"]]).lines usualWidth).toOption.isSome := by
    decide +kernel
  rcases Option.isSome_iff_exists.mp htable with ⟨lines, hlines⟩
  rw [Console.print_eq_none_iff]
  simp only [pulledBlocks, valueBlocks, List.forall_mem_cons]
  exact ⟨lines_pulled, ⟨lines, toOption_eq_some_iff.mp hlines⟩, ⟨_, rfl⟩, List.forall_mem_nil _⟩

theorem cacheFile_address (url : Yaml.Value) :
    SchemaProfile.cacheFile (settings url) address = .ok keptPath := by
  have hpath : SchemaCache.filePath "/.gqc/schemas" address = .ok keptPath := by decide +kernel
  exact mapError_eq_ok_iff.mpr hpath

def session : Session where
  files := tree [] []
  outcomes := [answer]

def files : FileTree :=
  tree [("e-5eb3cdb9.json", .file profile.toJson.pretty.toUTF8)]
    [("f.json", .file data.pretty.toUTF8)]

variable {file? : Option String} {url : Yaml.Value}

theorem pulled (h : LoadsFrom file? url) :
    Pulled (surroundings 0) (pull file?) (settings url) base "f.json" keptPath data session
      files := by
  refine ⟨h _ _ _, ?_, ?_, ?_, ?_, ?_⟩ <;> rw [endpoint_base]
  . exact cacheFile_address url
  . exact ⟨answer, [], rfl, ofOutcome_answer⟩
  . decide
  . exact ⟨_, _, makeDirectories_tree _ _, (written_kept _).write, (written_out _ _).write⟩
  . exact ⟨shows_fetching, shows_pulled⟩

theorem exists_succeeds (h : LoadsFrom file? url) : ∃ pulled,
    Succeeds (surroundings 0) (pull file?) (settings url) base "f.json" session pulled ∧
      pulled.files = files := by
  rcases (pulled h).exists_run rfl rfl with ⟨pulled, hrun, hfiles⟩
  have hnow : (surroundings 0).now.Utc := ⟨rfl, rfl, by decide, rfl⟩
  refine ⟨pulled, ⟨rfl, rfl, h _ _ _, hrun, hnow, ?_, ?_⟩, hfiles⟩
  . intro path hpath
    rw [endpoint_base, cacheFile_address] at hpath
    cases hpath
    have hout : files.wayTo "/" "f.json" = .ok ["f.json"] := (written_out _ _).wayTo
    have hkept : files.wayTo "/" keptPath = .ok [".gqc", "schemas", "e-5eb3cdb9.json"] := by
      have hsteps : FileTree.componentsFrom "/" keptPath =
          [".gqc", "schemas", "e-5eb3cdb9.json"] := by
        decide
      unfold FileTree.wayTo
      rw [hsteps]
      rfl
    rw [hfiles]
    dsimp only [surroundings]
    rw [hout, hkept]
    decide
  . simp only [SchemaProfile.definitionEndings, List.any_cons, List.any_nil, Bool.or_eq_true,
      Text.endsWith_iff]
    decide

theorem follows (pulled : Session) (url : Yaml.Value) : Follows (surroundings 0) (surroundings 1)
    (settings url) pulled { files := pulled.files } where
  files := rfl
  directory := rfl
  nesting := rfl
  noFile := rfl
  now := ⟨rfl, rfl, by decide, rfl⟩
  recent := .inr ⟨_, rfl, by decide +kernel⟩

def command : CompileCommand :=
  { configFile? := some "config.yaml", format := Summary.jsonFormat }

theorem compileDescribed_data :
    CompileRun.compileDescribed (surroundings 1) (settings (.int 8000)) command.options data
      files = .ok ⟨[], [], 0⟩ := by
  have hdirectories : CompileRun.searchedDirectories
      (CompileRun.projectRoot (surroundings 1) (settings (.int 8000)) command.options)
      (settings (.int 8000)) command.options = .ok ["/src"] :=
    toOption_eq_some_iff.mp (by decide +kernel)
  have hpaths : CompileRun.sourceFiles (surroundings 1) files (settings (.int 8000)) ["/src"] =
      .ok [] :=
    toOption_eq_some_iff.mp (by decide +kernel)
  unfold CompileRun.compileDescribed data
  rw [CompileRun.Sample.ofJson_definitions, hdirectories]
  simp only [Except.mapError, bind, Except.bind, hpaths]
  rfl

end Sample

theorem compile_agrees_of_pull_slashes : ∃ pulled,
    Succeeds (Sample.surroundings 0) (Sample.pull none) (Sample.settings .null) Sample.base "f.json"
      Sample.session pulled ∧
    Follows (Sample.surroundings 0) (Sample.surroundings 1) (Sample.settings .null) pulled
      { files := pulled.files } ∧
    Config.load (Sample.surroundings 1) pulled.files none = .ok (Sample.settings .null) ∧
    CompileRun.textSetting "rstrip" (Sample.settings .null).defaultUrl = .ok none ∧
    Agrees (Sample.surroundings 1) {} (Sample.settings .null) { files := pulled.files }
      (Sample.base ++ Url.slashes 2) "f.json" := by
  rcases Sample.exists_succeeds Sample.loadsFrom_none with ⟨pulled, hpull, hfiles⟩
  have hlater := Sample.follows pulled .null
  have hload : Config.load (Sample.surroundings 1) pulled.files none =
      .ok (Sample.settings .null) := by
    rw [hfiles]
    exact Sample.loadsFrom_none _ _ _
  exact ⟨pulled, hpull, hlater, hload, rfl,
    (compile_agrees_of_pull (k := {}) hpull hlater hload).2.1 2⟩

/--
A default endpoint that is no text stops a command that is told the file, although it does not
matter to one that is told the endpoint.
-/
theorem compile_disagrees_number : ∃ pulled : Session,
    let config := Sample.settings (.int 8000)
    let later := Sample.surroundings 1
    let session : Session := { files := pulled.files }
    let byUrl := against Sample.command (some Sample.base) none
    let byFile := against Sample.command none (some "f.json")
    Succeeds (Sample.surroundings 0) (Sample.pull (some "config.yaml")) config Sample.base "f.json"
      Sample.session pulled ∧
    Follows (Sample.surroundings 0) later config pulled session ∧
    Config.load later session.files Sample.command.configFile? = .ok config ∧
    (CompileRun.run later config byUrl.options).run session = (.ok ⟨[], [], 0⟩, session) ∧
    (CompileRun.run later config byFile.options).run session =
      (.error (.noAttribute "int" "rstrip"), session) ∧
    exitStatus (Command.run later (.compile byUrl) session).1 = success ∧
    exitStatus (Command.run later (.compile byFile) session).1 = failed := by
  rcases Sample.exists_succeeds Sample.loadsFrom_config with ⟨pulled, hpull, hfiles⟩
  have hlater := Sample.follows pulled (.int 8000)
  have hload : Config.load (Sample.surroundings 1) pulled.files (some "config.yaml") =
      .ok (Sample.settings (.int 8000)) := by
    rw [hfiles]
    exact Sample.loadsFrom_config _ _ _
  have hpulled := Sample.pulled Sample.loadsFrom_config
  rw [← hfiles] at hpulled
  have hexpired := SchemaProfile.isExpired_of_le (Url.endpoint Sample.base) Sample.data hpull.now
    hlater.now hlater.recent
  have hkept := hpulled.run_load_url (hpull.apart _ hpulled.keepsIn) hlater.files hlater.directory
    hlater.nesting hexpired
  have hurl := schemaRequest_url (k := Sample.command) (v := Sample.base) (by decide) hlater.noFile
  have hbyUrl := run_against_of_load (SchemaProfile.schema_ofSchema _ _ Sample.data) hurl hkept
  dsimp only at hbyUrl
  rw [hfiles, Sample.compileDescribed_data] at hbyUrl
  have hbyFile (session : Session) : (CompileRun.run (Sample.surroundings 1)
      (Sample.settings (.int 8000)) (against Sample.command none (some "f.json")).options).run
        session = (.error (.noAttribute "int" "rstrip"), session) :=
    run_against_of_default_error rfl
  rw [hfiles] at hload
  have hcarried : CarriedOut (Sample.surroundings 1)
      (against Sample.command (some Sample.base) none) (Sample.settings (.int 8000)) ⟨[], [], 0⟩
      { files := Sample.files } { files := Sample.files } _ :=
    ⟨hload, ⟨_, rfl⟩, hbyUrl, _,
      Session.run_print_eq_ok.mpr ⟨Summary.print_report_json _ _, rfl⟩, rfl⟩
  refine ⟨pulled, hpull, hlater, ?_⟩
  rw [hfiles]
  refine ⟨hload, hbyUrl, hbyFile _, ?_,
    exitStatus_of_error (runCompile_of_error hload ⟨_, rfl⟩ (hbyFile _))⟩
  rw [hcarried.run_compile]
  rfl

end QueryLinker.Command
