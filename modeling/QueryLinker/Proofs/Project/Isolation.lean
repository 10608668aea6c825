import QueryLinker.Proofs.Files.Written
import QueryLinker.Proofs.Project.CompileRun
import QueryLinker.Proofs.Project.SchemaProfile

/-!
This module contains what a file without a document does to a compile run: nothing but its own
error. A run comes to a summary iff no file keeps the others from being read and all rules can be
carried out.
-/

namespace QueryLinker

open DefinitionTable Graphql Validation

section

variable {s : Schema} {docs : List SourceDocument} {settings : PassSettings} {c : Compilation}

theorem file_mem_of_compile (hnodup : (docs.map (·.path)).Nodup)
    (hc : compile s docs settings = .ok c) {p : Problem} (hp : p ∈ c.problems) :
    p.file ∈ docs.map (·.path) := by
  rcases compile_spec hnodup hc with ⟨collected, found, hcollected, hfound, _, hproblems⟩
  rw [hproblems] at hp
  rcases List.mem_append.mp hp with hp | hp
  . exact collectDocuments_file hcollected hp
  . rcases List.mem_flatMap.mp hp with ⟨x, hx, hp⟩
    rcases exists_of_mem_right hfound hx with ⟨d, hd, houtcome⟩
    rw [(SourceDocument.outcome_problem houtcome hp).1]
    exact List.mem_map_of_mem (List.mem_filter.mp hd).1

end

namespace CompileRun

section

variable {s : Surroundings} {c : Config} {o : CompileOptions}
  {before after before' after' : Session} {schema : Schema} {paths : List String}
  {keep : String → Bool} {root : String}

/-- Whether all rules can be carried out for the documents in files. -/
def Decides (s : Surroundings) (c : Config) (root : String) (schema : Schema) (tree : FileTree)
    (paths : List String) : Prop :=
  ∀ docs unparsable, SourceFile.readAll tree s.directory paths = .ok (docs, unparsable) →
    ∀ d ∈ docs, d.Decided schema (ofDocuments schema docs) (passSettings s c root)

theorem exists_run_iff (h : Prepared s c o before after schema paths) (hschema : schema.flaws = [])
    (hsettings : (passSettings s c (projectRoot s c o)).Sound) :
    (∃ summary, (run s c o).run before = (.ok summary, after)) ↔
      (∀ path ∈ paths, after.files.Tells s.directory path) ∧
        Decides s c (projectRoot s c o) schema after.files paths := by
  simp only [run_prepared h, true_and, compileFiles_eq_ok_iff]
  rw [← SourceFile.exists_readAll_iff]
  constructor
  . rintro ⟨_, docs, unparsable, compilation, hread, hcompile, _⟩
    refine ⟨⟨_, hread⟩, ?_⟩
    intro docs' unparsable' hread'
    cases hread.symm.trans hread'
    exact ((exists_compile_iff_decided (h.nodup_docs hread)
      (SourceFile.path_ne_empty_of_readAll hread) hsettings).mp ⟨_, hcompile⟩).2
  . rintro ⟨⟨⟨docs, unparsable⟩, hread⟩, hdecides⟩
    rcases (exists_compile_iff_decided (h.nodup_docs hread)
      (SourceFile.path_ne_empty_of_readAll hread) hsettings).mpr
      ⟨.inr hschema, hdecides docs unparsable hread⟩ with ⟨compilation, hcompile⟩
    exact ⟨_, docs, unparsable, compilation, hread, hcompile, rfl⟩

theorem keep_of_mem_readAll {tree : FileTree} {cwd : String} {docs : List SourceDocument}
    {unparsable : List Problem} (hread : SourceFile.readAll tree cwd paths = .ok (docs, unparsable))
    (hleft : ∀ path ∈ paths, ¬ keep path →
      ∃ own, SourceFile.readOne tree cwd path = .ok (none, own))
    {d : SourceDocument} (hd : d ∈ docs) : keep d.path := by
  rcases (SourceFile.mem_readAll hread).mp hd with ⟨path, hpath, own, hone⟩
  rw [SourceFile.readOne_path hone]
  by_contra hkeep
  rcases hleft path hpath hkeep with ⟨own', hnone⟩
  cases hone.symm.trans hnone

theorem compileFiles_filter {tree tree' : FileTree} (hnodup : paths.Nodup)
    (hsame : ∀ path ∈ paths.filter keep,
      SourceFile.text tree' s.directory path = SourceFile.text tree s.directory path)
    (hleft : ∀ path ∈ paths, ¬ keep path →
      ∃ own, SourceFile.readOne tree s.directory path = .ok (none, own)) :
    compileFiles s c root schema tree' (paths.filter keep) =
      (compileFiles s c root schema tree paths).map fun summary =>
        { queries := summary.queries
          errors := summary.errors.filter fun e => keep e.file
          fileCount := (paths.filter keep).length } := by
  unfold compileFiles
  rw [SourceFile.readAll_filter hsame hleft]
  cases hread : SourceFile.readAll tree s.directory paths with
  | error failure => rfl
  | ok read =>
    rcases read with ⟨docs, unparsable⟩
    have hdocs : (docs.map (·.path)).Nodup :=
      hnodup.sublist (SourceFile.paths_sublist_of_readAll hread)
    cases hcompile : compile schema docs (passSettings s c root) with
    | error failure =>
      simp only [Except.map, Except.mapError, bind, Except.bind, hcompile]
    | ok compilation =>
      have hown : compilation.errors.filter (fun e => keep e.file) = compilation.errors := by
        rw [List.filter_eq_self]
        intro e he
        rcases List.mem_map.mp he with ⟨p, hp, rfl⟩
        rcases List.mem_map.mp (file_mem_of_compile hdocs hcompile hp) with ⟨d, hd, hfile⟩
        change keep p.file
        rw [← hfile]
        exact keep_of_mem_readAll hread hleft hd
      have hunparsable : (unparsable.filter fun p => keep p.file).map (·.report) =
          (unparsable.map (·.report)).filter fun e => keep e.file := by
        rw [List.filter_map]
        rfl
      simp only [Except.map, Except.mapError, bind, Except.bind, hcompile, pure, Except.pure,
        List.filter_append, hown, hunparsable]

/--
A run that is prepared over a right schema, with settings of the sorts that they are declared with,
comes to a summary iff every file that is found is a text none of whose templates ends inside an
escape, and all rules can be carried out for the documents. Files that can be told but have no
document make no difference to the others: the run without them comes to a summary whenever this one
does, with the same queries, and with all errors but those of these files. The stack of the parser
is taken as unlimited: a text that is nested too deep for it would stop the run.
-/
theorem run_isolates (h : Prepared s c o before after schema paths) (hschema : schema.flaws = [])
    (hsettings : (passSettings s c (projectRoot s c o)).Sound) :
    ((∃ summary, (run s c o).run before = (.ok summary, after)) ↔
      (∀ path ∈ paths, after.files.Tells s.directory path) ∧
        Decides s c (projectRoot s c o) schema after.files paths) ∧
    ∀ keep before' after', Prepared s c o before' after' schema (paths.filter keep) →
      (∀ path ∈ paths.filter keep, SourceFile.text after'.files s.directory path =
        SourceFile.text after.files s.directory path) →
      (∀ path ∈ paths, ¬ keep path →
        ∃ own, SourceFile.readOne after.files s.directory path = .ok (none, own)) →
      ((∃ summary, (run s c o).run before' = (.ok summary, after')) ↔
        ∃ summary, (run s c o).run before = (.ok summary, after)) ∧
      ∀ summary summary', (run s c o).run before = (.ok summary, after) →
        (run s c o).run before' = (.ok summary', after') →
        summary'.queries = summary.queries ∧
          summary'.errors = summary.errors.filter fun e => keep e.file := by
  refine ⟨exists_run_iff h hschema hsettings, ?_⟩
  intro keep before' after' h' hsame hleft
  have hfiles : compileFiles s c (projectRoot s c o) schema after'.files (paths.filter keep) = _ :=
    compileFiles_filter h.nodup hsame hleft
  simp only [run_prepared h, run_prepared h', true_and, hfiles, map_eq_ok_iff]
  constructor
  . constructor
    . rintro ⟨_, summary, hsummary, _⟩
      exact ⟨summary, hsummary⟩
    . rintro ⟨summary, hsummary⟩
      exact ⟨_, summary, hsummary, rfl⟩
  . rintro summary _ hsummary ⟨summary', hsummary', rfl⟩
    cases hsummary.symm.trans hsummary'
    exact ⟨rfl, rfl⟩

end

/-!
A project with a schema and a page, whose library has no files or one that has no document.
-/

namespace Sample

def definitions : String :=
  "type Query \x7b a: Int \x7d"

def query : String :=
  "query Q \x7b a \x7d"

def project (library : List (String × FileTree)) : FileTree :=
  .directory [("schema.graphql", .file definitions.toUTF8), ("lib", .directory library),
    ("src", .directory [("q.gql", .file query.toUTF8)])]

def library (content : ByteArray) : List (String × FileTree) :=
  [("f.gql", .file content)]

def surroundings : Surroundings where
  directory := "/"
  home := "/"
  now := { year := 2024, month := 1, day := 1, offset? := some 0 }

def config : Config where
  projectRoot := Path.absolute "/" "."
  schemaCacheDirectory := "/.gqc/schemas"
  extensions := .texts Config.defaultExtensions
  excludedDirectories := .texts Config.defaultExcludedDirectories

def options : CompileOptions where
  directories := ["src", "lib"]
  schemaFile? := some "schema.graphql"

def session (files : List (String × FileTree)) : Session where
  files := project files

def schema : Schema where
  types := ⟨"Query", .object [] [⟨"a", [], .named "Int"⟩]⟩ ::
    ["Int", "Boolean", "String", "__Schema", "__Type", "__TypeKind", "__Field", "__InputValue",
      "__EnumValue", "__Directive", "__DirectiveLocation"].filterMap Schema.standardType?
  directives := Schema.standardDirectives
  query? := some "Query"

variable {files : List (String × FileTree)} {content : ByteArray} {paths : List String}

theorem schema_flaws : schema.flaws = [] := by
  decide +kernel

theorem settings_sound : (passSettings surroundings config
    (projectRoot surroundings config options)).Sound :=
  ⟨rfl, rfl⟩

theorem pathSetting_text {s : Surroundings} {text : LooseText} {path : String}
    (hhome : s.home = "/") (h : Path.expandHome? "/" text.text = some path) :
    Config.pathSetting s (.text text) = .ok path := by
  unfold Config.pathSetting
  dsimp only
  rw [hhome, h]

theorem ofValue_eq {s : Surroundings} (hhome : s.home = "/") (hdirectory : s.directory = "/")
    {v url : Yaml.Value} (hurl : Config.setting v "default_url" .null = url)
    (hother : ∀ key usual, key ≠ "default_url" → Config.setting v key usual = usual) :
    Config.ofValue s v = .ok { config with defaultUrl := url } := by
  have hcache : Config.pathSetting s (.text Config.defaultCacheDirectory) = .ok "/.gqc/schemas" :=
    pathSetting_text hhome (by decide)
  have hroot : Config.pathSetting s (.text ".") = .ok "." := pathSetting_text hhome (by decide)
  unfold Config.ofValue
  simp (disch := decide) only [hother, hurl]
  rw [hcache, hroot, hdirectory]
  rfl

theorem load_config {s : Surroundings} {tree : FileTree} (hhome : s.home = "/")
    (hdirectory : s.directory = "/")
    (hway : tree.wayTo "/" "/.gqc/config.yaml" = .error .notFound) :
    Config.load s tree none = .ok config := by
  have hfile : Config.defaultFile s = "/.gqc/config.yaml" := by
    change toString (Path.ofString s.home ++ Path.ofString ".gqc/config.yaml") = _
    rw [hhome]
    decide
  have hthere : tree.isThere "/" "/.gqc/config.yaml" = .ok false := by
    have hplain : toString (Path.ofString "/.gqc/config.yaml") = "/.gqc/config.yaml" := by decide
    unfold FileTree.isThere
    dsimp only
    rw [hplain, hway]
    rfl
  have hvalue : Config.ofValue s (.map []) = .ok { config with defaultUrl := .null } :=
    ofValue_eq hhome hdirectory rfl fun _ _ _ => rfl
  unfold Config.load
  change ((tree.isThere s.directory (Config.defaultFile s)).mapError _ >>= _) = _
  rw [hfile, hdirectory, hthere]
  exact hvalue

theorem ofJson_definitions : Schema.ofJson (.ofString definitions) = .ok schema := by
  apply toOption_eq_some_iff.mp
  decide +kernel

theorem text_definitions (files : List (String × FileTree)) :
    SourceFile.text (project files) "/" "schema.graphql" = .ok definitions := by
  have hopens : FileTree.Opens "/" "schema.graphql" ["schema.graphql"] :=
    ⟨by decide, by decide, by decide, by decide, by decide⟩
  exact SourceFile.text_of_read (by decide) (hopens.read rfl rfl) (by decide) (by decide)

theorem text_query (files : List (String × FileTree)) :
    SourceFile.text (project files) "/" "src/q.gql" = .ok query := by
  have hopens : FileTree.Opens "/" "src/q.gql" ["src", "q.gql"] :=
    ⟨by decide, by decide, by decide, by decide, by decide⟩
  exact SourceFile.text_of_read (by decide) (hopens.read rfl rfl) (by decide) (by decide)

theorem read_library (content : ByteArray) :
    (project (library content)).read "/" "lib/f.gql" = .ok content := by
  have hopens : FileTree.Opens "/" "lib/f.gql" ["lib", "f.gql"] :=
    ⟨by decide, by decide, by decide, by decide, by decide⟩
  exact hopens.read rfl rfl

theorem prepared (h : (sourceFiles surroundings (project files) config ["src", "lib"]).toOption =
    some paths) :
    Prepared surroundings config options (session files) (session files) schema paths where
  loads := by
    have hgraphql : "schema.graphql".endsWith ".graphql" := by cbv
    have hending : SchemaProfile.definitionEndings.any fun ending =>
        "schema.graphql".endsWith ending :=
      List.any_eq_true.mpr ⟨".graphql", by decide, hgraphql⟩
    have hgiven : SchemaProfile.given? (some "schema.graphql") = some "schema.graphql" := rfl
    have hload : (SchemaProfile.load surroundings config { file? := some "schema.graphql" }).run
        (session files) = (.ok (SchemaProfile.ofSchema ("file://" ++ "schema.graphql")
          surroundings.now (Json.ofString definitions)), session files) := by
      rw [SchemaProfile.load_file hgiven]
      exact SchemaProfile.run_ofFile_definitions hending (text_definitions files)
    refine ⟨{ file? := some "schema.graphql" }, _, rfl, hload, ?_⟩
    unfold SchemaProfile.build SchemaProfile.ofSchema
    rw [ofJson_definitions]
    rfl
  finds := ⟨["src", "lib"], rfl, toOption_eq_some_iff.mp h⟩

/-- This is `query Q { a }`. -/
def operation (stretch : Nat → Nat → Option Loc) : OperationDefinition :=
  ⟨.query, some ⟨"Q", stretch 6 7⟩, [], [],
    .braces [.field ⟨none, ⟨"a", stretch 10 11⟩, [], [], stretch 10 11⟩ .absent] (stretch 8 13),
    stretch 0 13⟩

def stretch (start stop : Nat) : Option Loc :=
  some ⟨⟨⟨"src/q.gql", 0⟩, query, []⟩, start, stop⟩

def page : SourceDocument where
  path := "src/q.gql"
  document := ⟨[.operation (operation stretch)]⟩
  template := {}
  templates := [{}]
  hash := (Json.ofStrings [query]).fingerprint

theorem templates_of_endsWith {path text : String} (hpath : path.endsWith ".gql")
    (hblank : Text.isBlankText text = false) :
    SourceFile.templates path text = [⟨text, {}, false, false⟩] := by
  have hgraphql : SourceFile.isGraphql path := List.any_eq_true.mpr ⟨".gql", by decide, hpath⟩
  rw [SourceFile.templates, if_pos hgraphql, hblank, if_neg (by simp)]

theorem document?_query : SourceFile.document? "src/q.gql" query = .ok (some page) := by
  have htemplates : SourceFile.templates "src/q.gql" query = [⟨query, {}, false, false⟩] :=
    templates_of_endsWith (by cbv) (by cbv)
  have hparse : Graphql.parse { origin := ⟨"src/q.gql", 0⟩, body := query } =
      .ok ⟨[.operation (operation stretch)]⟩ := by
    cbv
  rw [SourceFile.document?, htemplates]
  dsimp only
  rw [SourceFile.parseTemplates, hparse]
  rfl

theorem accepted_page : page.accepted schema := by
  have hvalid (stretch : Nat → Nat → Option Loc) :
      validateStructure schema ⟨[.operation (operation stretch)]⟩ = .ok [] := by
    cbv
  exact SourceDocument.accepted_iff.mpr (hvalid stretch)

theorem page_visits (t : DefinitionTable) : ∃ o, page.operations = [o] ∧
    t.spreadGraph.Visits o.spreadNames [] ∧
      validateFull schema (o.assemble []) usualNesting = .ok [] := by
  have hvalid (stretch : Nat → Nat → Option Loc) :
      validateFull schema ⟨[.operation (operation stretch)]⟩ usualNesting = .ok [] := by
    cbv
  have hspreads (stretch : Nat → Nat → Option Loc) :
      (operation stretch).selectionSet.spreadNames = [] := by
    cbv
  obtain ⟨o, hops, hnode⟩ : ∃ o, page.operations = [o] ∧ o.node = operation stretch :=
    ⟨_, rfl, rfl⟩
  refine ⟨o, hops, ?_, ?_⟩
  . rw [Operation.spreadNames, hnode, hspreads]
    exact .nil
  . change validateFull schema ⟨[.operation o.node]⟩ usualNesting = .ok []
    rw [hnode]
    exact hvalid stretch

theorem page_decided (t : DefinitionTable) {settings : PassSettings}
    (hnesting : settings.nesting = usualNesting) : page.Decided schema t settings := by
  rcases page_visits t with ⟨o, hops, hv, hvalid⟩
  refine ⟨⟨_, SourceDocument.accepted_iff.mp accepted_page⟩, fun _ => ?_⟩
  rw [hops]
  simp only [List.head?_cons, Option.mem_def, Option.some.injEq, forall_eq']
  rw [decided_iff_of_visits settings hv, hnesting]
  exact ⟨[], hvalid⟩

theorem readOne_query (files : List (String × FileTree)) :
    SourceFile.readOne (project files) "/" "src/q.gql" = .ok (some page, []) := by
  unfold SourceFile.readOne
  rw [text_query]
  change SourceFile.outcome "src/q.gql" query = _
  unfold SourceFile.outcome
  rw [document?_query]

def unparsable : String :=
  "\x7b"

theorem readOne_unparsable : ∃ own,
    SourceFile.readOne (project (library unparsable.toUTF8)) "/" "lib/f.gql" =
      .ok (none, own) := by
  have htext : SourceFile.text (project (library unparsable.toUTF8)) "/" "lib/f.gql" =
      .ok unparsable :=
    SourceFile.text_of_read (by decide) (read_library _) (by decide) (by decide)
  have htemplates : SourceFile.templates "lib/f.gql" unparsable =
      [⟨unparsable, {}, false, false⟩] :=
    templates_of_endsWith (by cbv) (by cbv)
  obtain ⟨failure, hparse, hcut⟩ : ∃ failure,
      Graphql.parse { origin := ⟨"lib/f.gql", 0⟩, body := unparsable } = .error failure ∧
        ¬ failure.isCutEscape := by
    refine ⟨_, by cbv, by decide⟩
  have hdocument : SourceFile.document? "lib/f.gql" unparsable =
      .error (.unparsable ⟨"lib/f.gql", {}⟩ failure) := by
    rw [SourceFile.document?, htemplates]
    dsimp only
    rw [SourceFile.parseTemplates, hparse]
    rfl
  unfold SourceFile.readOne
  rw [htext]
  change ∃ own, SourceFile.outcome "lib/f.gql" unparsable = _
  unfold SourceFile.outcome
  rw [hdocument]
  dsimp only
  rw [if_neg hcut]
  exact ⟨_, rfl⟩

theorem decides_page
    (hnone : ∀ path ∈ paths, path ≠ "src/q.gql" → ∀ d own,
      SourceFile.readOne (project files) "/" path ≠ .ok (some d, own)) :
    Decides surroundings config (projectRoot surroundings config options) schema (project files)
      paths := by
  intro docs unparsable hread d hd
  rcases (SourceFile.mem_readAll hread).mp hd with ⟨path, hpath, own, hone⟩
  by_cases hpage : path = "src/q.gql"
  . rw [hpage] at hone
    change SourceFile.readOne (project files) "/" "src/q.gql" = _ at hone
    rw [readOne_query] at hone
    cases hone
    exact page_decided _ rfl
  . exact absurd hone (hnone path hpath hpage d own)

theorem tells_query (files : List (String × FileTree)) :
    (project files).Tells "/" "src/q.gql" :=
  SourceFile.exists_readOne_iff.mp ⟨_, readOne_query files⟩

theorem prepared_empty :
    Prepared surroundings config options (session []) (session []) schema ["src/q.gql"] :=
  prepared (by decide +kernel)

theorem exists_run_empty :
    ∃ summary, (run surroundings config options).run (session []) = (.ok summary, session []) := by
  rw [exists_run_iff prepared_empty schema_flaws settings_sound]
  refine ⟨?_, decides_page ?_⟩
  . simp only [List.forall_mem_singleton]
    exact tells_query []
  . simp

theorem eq_of_not_page {path : String} (hpath : path ∈ ["src/q.gql", "lib/f.gql"])
    (hne : path ≠ "src/q.gql") : path = "lib/f.gql" := by
  simpa [hne] using hpath

theorem filter_page :
    ["src/q.gql", "lib/f.gql"].filter (· == "src/q.gql") = ["src/q.gql"] := by
  decide

def unparsableSession : Session :=
  session (library unparsable.toUTF8)

theorem sourceFiles_library : ∀ content ∈ [unparsable.toUTF8, ⟨#[0xFF]⟩],
    (sourceFiles surroundings (project (library content)) config ["src", "lib"]).toOption =
      some ["src/q.gql", "lib/f.gql"] := by
  decide +kernel

theorem prepared_unparsable : Prepared surroundings config options unparsableSession
    unparsableSession schema ["src/q.gql", "lib/f.gql"] :=
  prepared (sourceFiles_library _ (.head _))

theorem exists_run_unparsable :
    (∀ path ∈ ["src/q.gql", "lib/f.gql"], unparsableSession.files.Tells "/" path) ∧
      Decides surroundings config (projectRoot surroundings config options) schema
        unparsableSession.files ["src/q.gql", "lib/f.gql"] := by
  rcases readOne_unparsable with ⟨own, hown⟩
  refine ⟨?_, decides_page ?_⟩
  . simp only [List.forall_mem_cons]
    exact ⟨tells_query _, SourceFile.exists_readOne_iff.mp ⟨_, hown⟩, nofun⟩
  . intro path hpath hne d own' hone
    rw [eq_of_not_page hpath hne, hown] at hone
    cases hone

def noTextSession : Session :=
  session (library ⟨#[0xFF]⟩)

theorem prepared_noText : Prepared surroundings config options noTextSession noTextSession schema
    ["src/q.gql", "lib/f.gql"] :=
  prepared (sourceFiles_library _ (.tail _ (.head _)))

theorem not_tells_noText : ¬ noTextSession.files.Tells "/" "lib/f.gql" := by
  rintro ⟨text, htext, _⟩
  have hread : (project (library ⟨#[0xFF]⟩)).read "/" "lib/f.gql" = .ok ⟨#[0xFF]⟩ :=
    read_library _
  have hpath : toString (Path.ofString "lib/f.gql") = "lib/f.gql" := by decide
  have hdecode : (textOfBytes ⟨#[0xFF]⟩).toOption = none := by cbv
  change SourceFile.text (project (library ⟨#[0xFF]⟩)) "/" "lib/f.gql" = _ at htext
  rw [SourceFile.text, hpath, FileTree.readText, hread] at htext
  dsimp only at htext
  rw [mapError_eq_ok_iff] at htext
  rw [htext] at hdecode
  cases hdecode

end Sample

theorem run_isolates_page : ∃ summary summary',
    (run Sample.surroundings Sample.config Sample.options).run Sample.unparsableSession =
      (.ok summary, Sample.unparsableSession) ∧
    (run Sample.surroundings Sample.config Sample.options).run (Sample.session []) =
      (.ok summary', Sample.session []) ∧
    summary'.queries = summary.queries ∧
      summary'.errors = summary.errors.filter fun e => e.file == "src/q.gql" := by
  rcases run_isolates Sample.prepared_unparsable Sample.schema_flaws Sample.settings_sound with
    ⟨hruns, hothers⟩
  rcases hruns.mpr Sample.exists_run_unparsable with ⟨summary, hsummary⟩
  have hprepared : Prepared Sample.surroundings Sample.config Sample.options (Sample.session [])
      (Sample.session []) Sample.schema
      (["src/q.gql", "lib/f.gql"].filter (· == "src/q.gql")) := by
    rw [Sample.filter_page]
    exact Sample.prepared_empty
  have hsame : ∀ path ∈ ["src/q.gql", "lib/f.gql"].filter (· == "src/q.gql"),
      SourceFile.text (Sample.session []).files "/" path =
        SourceFile.text Sample.unparsableSession.files "/" path := by
    rw [Sample.filter_page]
    simp only [List.forall_mem_singleton]
    exact (Sample.text_query _).trans (Sample.text_query _).symm
  have hleft : ∀ path ∈ ["src/q.gql", "lib/f.gql"], ¬ path == "src/q.gql" →
      ∃ own, SourceFile.readOne Sample.unparsableSession.files "/" path = .ok (none, own) := by
    intro path hpath hne
    rw [Sample.eq_of_not_page hpath (by simpa using hne)]
    exact Sample.readOne_unparsable
  rcases hothers _ _ _ hprepared hsame hleft with ⟨hiff, hequal⟩
  rcases hiff.mpr ⟨summary, hsummary⟩ with ⟨summary', hsummary'⟩
  exact ⟨summary, summary', hsummary, hsummary', hequal summary summary' hsummary hsummary'⟩

/-- A file that is no text keeps a run over a right schema from a summary, which it has without. -/
theorem run_not_isolated :
    Prepared Sample.surroundings Sample.config Sample.options Sample.noTextSession
      Sample.noTextSession Sample.schema ["src/q.gql", "lib/f.gql"] ∧
    Sample.schema.flaws = [] ∧
    (∀ summary later, (run Sample.surroundings Sample.config Sample.options).run
      Sample.noTextSession ≠ (.ok summary, later)) ∧
    ∃ summary, (run Sample.surroundings Sample.config Sample.options).run (Sample.session []) =
      (.ok summary, Sample.session []) := by
  refine ⟨Sample.prepared_noText, Sample.schema_flaws, ?_, Sample.exists_run_empty⟩
  intro summary later hrun
  rcases (run_prepared Sample.prepared_noText).mp hrun with ⟨rfl, _⟩
  have htells := (exists_run_iff Sample.prepared_noText Sample.schema_flaws
    Sample.settings_sound).mp ⟨summary, hrun⟩
  exact Sample.not_tells_noText (htells.1 "lib/f.gql" (by decide))

end CompileRun

end QueryLinker
