import QueryLinker.Project.CompileRun
import QueryLinker.Proofs.Link.Account
import QueryLinker.Proofs.Link.AppendNew
import QueryLinker.Proofs.Project.Discovery
import QueryLinker.Proofs.Project.Reading
import QueryLinker.Proofs.Project.Session

/-!
This module contains the stages of a compile run: a schema is loaded and files are found, then the
files are read and their documents are compiled. Only the first stage looks at the session.
-/

namespace QueryLinker.CompileRun

open DefinitionTable

/-- What a compile run works on: the schema that it loads and the files that it finds. -/
structure Prepared (s : Surroundings) (c : Config) (o : CompileOptions) (before after : Session)
    (schema : Schema) (paths : List String) : Prop where
  loads : ∃ request profile, schemaRequest c o = .ok request ∧
    (SchemaProfile.load s c request).run before = (.ok profile, after) ∧
    profile.build = .ok schema
  finds : ∃ directories, searchedDirectories (projectRoot s c o) c o = .ok directories ∧
    sourceFiles s after.files c directories = .ok paths

variable {s : Surroundings} {c : Config} {o : CompileOptions} {before after : Session}
  {schema : Schema} {paths : List String} {summary : Summary} {root : String} {tree : FileTree}

def compileDescribed (s : Surroundings) (c : Config) (o : CompileOptions) (description : Json)
    (tree : FileTree) : Except RunFailure Summary := do
  let schema ← (Schema.ofJson description).mapError .schema
  let directories ← searchedDirectories (projectRoot s c o) c o
  let paths ← sourceFiles s tree c directories
  compileFiles s c (projectRoot s c o) schema tree paths

theorem run_of_load {request : SchemaRequest} {profile : SchemaProfile}
    (hrequest : schemaRequest c o = .ok request)
    (hload : (SchemaProfile.load s c request).run before = (.ok profile, after)) :
    (run s c o).run before = (compileDescribed s c o profile.schema after.files, after) := by
  have hasked : (liftM (schemaRequest c o) : Work SchemaRequest).run before =
      (.ok request, before) := by
    rw [Work.run_lift, hrequest]
  unfold run compileDescribed SchemaProfile.build
  dsimp only
  rw [Work.run_bind_ok hasked, Work.run_bind_ok hload, Work.run_bind_lift]
  cases (Schema.ofJson profile.schema).mapError RunFailure.schema with
  | error failure => rfl
  | ok schema =>
    dsimp only
    rw [Work.run_bind_lift]
    cases searchedDirectories (projectRoot s c o) c o with
    | error failure => rfl
    | ok directories =>
      dsimp only
      rw [Work.run_get, Work.run_bind_lift]
      cases hpaths : sourceFiles s after.files c directories with
      | error failure => simp only [bind, Except.bind, hpaths]
      | ok paths =>
        simp only [bind, Except.bind, hpaths]
        exact Work.run_lift _ _

theorem run_of_request_error {f : RunFailure} (h : schemaRequest c o = .error f) :
    (run s c o).run before = (.error f, before) := by
  unfold run
  dsimp only
  rw [Work.run_bind_lift, h]

theorem run_eq_ok_iff : (run s c o).run before = (.ok summary, after) ↔
    ∃ schema paths, Prepared s c o before after schema paths ∧
      compileFiles s c (projectRoot s c o) schema after.files paths = .ok summary := by
  unfold run
  dsimp only
  simp only [Work.run_bind_eq_ok, Work.run_lift_eq_ok, Work.run_get]
  constructor
  . rintro ⟨request, _, ⟨hrequest, rfl⟩, profile, _, hload, schema, _, ⟨hschema, rfl⟩, directories,
      _, ⟨hdirectories, rfl⟩, paths, _, ⟨hpaths, rfl⟩, hfiles, rfl⟩
    exact ⟨schema, paths, ⟨⟨request, profile, hrequest, hload, hschema⟩, directories, hdirectories,
      hpaths⟩, hfiles⟩
  . rintro ⟨schema, paths, ⟨⟨request, profile, hrequest, hload, hschema⟩, directories,
      hdirectories, hpaths⟩, hfiles⟩
    exact ⟨request, _, ⟨hrequest, rfl⟩, profile, _, hload, schema, _, ⟨hschema, rfl⟩, directories,
      _, ⟨hdirectories, rfl⟩, paths, _, ⟨hpaths, rfl⟩, hfiles, rfl⟩

theorem compileFiles_eq_ok_iff : compileFiles s c root schema tree paths = .ok summary ↔
    ∃ docs unparsable compilation,
      SourceFile.readAll tree s.directory paths = .ok (docs, unparsable) ∧
      compile schema docs (passSettings s c root) = .ok compilation ∧
      { queries := compilation.queries
        errors := unparsable.map (·.report) ++ compilation.errors
        fileCount := paths.length } = summary := by
  unfold compileFiles
  simp only [bind_eq_ok_iff, mapError_eq_ok_iff, Prod.exists, pure, Except.pure, Except.ok.injEq]
  constructor
  . rintro ⟨docs, unparsable, hread, compilation, hcompile, heq⟩
    exact ⟨docs, unparsable, compilation, hread, hcompile, heq⟩
  . rintro ⟨docs, unparsable, compilation, hread, hcompile, heq⟩
    exact ⟨docs, unparsable, hread, compilation, hcompile, heq⟩

theorem exists_search_of_sourceFiles {directories : List String}
    (h : sourceFiles s tree c directories = .ok paths) :
    ∃ search, Discovery.search tree s.directory search directories s.nesting = .ok paths := by
  unfold sourceFiles at h
  simp only [bind_eq_ok_iff] at h
  rcases h with ⟨_, _, _, _, h⟩
  split at h
  . simp only [bind_eq_ok_iff] at h
    rcases h with ⟨_, _, _, _, h⟩
    split at h
    . rcases bind_eq_ok_iff.mp h with ⟨_, hthrow, _⟩
      cases hthrow
    . exact ⟨_, mapError_eq_ok_iff.mp h⟩
  . exact ⟨_, mapError_eq_ok_iff.mp h⟩

namespace Prepared

theorem nodup (h : Prepared s c o before after schema paths) : paths.Nodup := by
  rcases h.finds with ⟨directories, _, hfiles⟩
  rcases exists_search_of_sourceFiles hfiles with ⟨search, hsearch⟩
  rw [← Discovery.find_of_search hsearch]
  apply nodup_eraseDups

theorem nodup_docs {docs : List SourceDocument} {unparsable : List Problem}
    (h : Prepared s c o before after schema paths)
    (hread : SourceFile.readAll after.files s.directory paths = .ok (docs, unparsable)) :
    (docs.map (·.path)).Nodup :=
  h.nodup.sublist (SourceFile.paths_sublist_of_readAll hread)

theorem unique {after' : Session} {schema' : Schema} {paths' : List String}
    (h : Prepared s c o before after schema paths)
    (h' : Prepared s c o before after' schema' paths') :
    after = after' ∧ schema = schema' ∧ paths = paths' := by
  rcases h with ⟨⟨request, profile, hrequest, hload, hschema⟩, directories, hdirectories, hpaths⟩
  rcases h' with ⟨⟨request', profile', hrequest', hload', hschema'⟩, directories', hdirectories',
    hpaths'⟩
  cases hrequest.symm.trans hrequest'
  cases hload.symm.trans hload'
  cases hschema.symm.trans hschema'
  cases hdirectories.symm.trans hdirectories'
  cases hpaths.symm.trans hpaths'
  exact ⟨rfl, rfl, rfl⟩

end Prepared

theorem run_prepared (h : Prepared s c o before after schema paths) {later : Session} :
    (run s c o).run before = (.ok summary, later) ↔
      after = later ∧
        compileFiles s c (projectRoot s c o) schema after.files paths = .ok summary := by
  rw [run_eq_ok_iff]
  constructor
  . rintro ⟨schema', paths', h', hfiles⟩
    rcases h.unique h' with ⟨rfl, rfl, rfl⟩
    exact ⟨rfl, hfiles⟩
  . rintro ⟨rfl, hfiles⟩
    exact ⟨schema, paths, h, hfiles⟩

end QueryLinker.CompileRun
