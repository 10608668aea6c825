import QueryLinker.Project.Command
import QueryLinker.Proofs.Console.Block
import QueryLinker.Proofs.Link.Conflict
import QueryLinker.Proofs.Project.Isolation

/-!
This module contains that a compile command tells by its status what it came to: a project passes
that is compiled without an error, and then no file with an operation is left out.
-/

namespace QueryLinker

open DefinitionTable

namespace Command

variable {s : Surroundings} {k : CompileCommand} {config : Config} {summary : Summary}
  {before compiled after : Session}

def exitStatus : Except RunFailure UInt32 → UInt32
  | .ok status => status
  | .error _ => failed

def statusOf (k : CompileCommand) (summary : Summary) : UInt32 :=
  if k.failOnError && !summary.errors.isEmpty then foundErrors else success

def writeReport (s : Surroundings) (k : CompileCommand) (summary : Summary) : Work Unit :=
  match SchemaProfile.given? k.out? with
  | some path => Session.writeJson s.nesting s.directory path summary.toJson
  | none => pure ()

structure CarriedOut (s : Surroundings) (k : CompileCommand) (config : Config) (summary : Summary)
    (before compiled after : Session) : Prop where
  loads : Config.load s before.files k.configFile? = .ok config
  logs : ∃ level, logLevel k config = .ok level
  compiles : (CompileRun.run s config k.options).run before = (.ok summary, compiled)
  reports : ∃ shown,
    (Session.print s.lineWidth (summary.report k.format)).run compiled = (.ok (), shown) ∧
      (writeReport s k summary).run shown = (.ok (), after)

theorem run_config_eq_ok {file? : Option String} :
    (Command.config s file?).run before = (.ok config, after) ↔
      Config.load s before.files file? = .ok config ∧ before = after := by
  unfold Command.config
  rw [Work.run_get]
  exact Work.run_lift_eq_ok

theorem runCompile_eq (s : Surroundings) (k : CompileCommand) :
    runCompile s k = do
      let config ← Command.config s k.configFile?
      let _ ← (liftM (logLevel k config) : Work Int)
      let summary ← CompileRun.run s config k.options
      Session.print s.lineWidth (summary.report k.format)
      writeReport s k summary
      return statusOf k summary := by
  unfold runCompile writeReport
  congr 1
  funext config
  congr 1
  funext _
  congr 1
  funext summary
  congr 1
  funext _
  unfold statusOf
  cases SchemaProfile.given? k.out? <;> split <;> rfl

theorem runCompile_eq_ok_iff {status : UInt32} :
    (runCompile s k).run before = (.ok status, after) ↔ ∃ config summary compiled,
      CarriedOut s k config summary before compiled after ∧ statusOf k summary = status := by
  rw [runCompile_eq]
  simp only [Work.run_bind_eq_ok, run_config_eq_ok, Work.run_lift_eq_ok, Work.run_pure_eq_ok]
  constructor
  . rintro ⟨config, _, ⟨hload, rfl⟩, level, _, ⟨hlevel, rfl⟩, summary, compiled, hcompile, _, shown,
      hprint, _, _, hwrite, hstatus, rfl⟩
    exact ⟨config, summary, compiled, ⟨hload, ⟨level, hlevel⟩, hcompile, shown, hprint, hwrite⟩,
      hstatus⟩
  . rintro ⟨config, summary, compiled, ⟨hload, ⟨level, hlevel⟩, hcompile, shown, hprint, hwrite⟩,
      hstatus⟩
    exact ⟨config, _, ⟨hload, rfl⟩, level, _, ⟨hlevel, rfl⟩, summary, compiled, hcompile, _, shown,
      hprint, _, _, hwrite, hstatus, rfl⟩

theorem runCompile_of_error {f : RunFailure} {stopped : Session}
    (hload : Config.load s before.files k.configFile? = .ok config)
    (hlevel : ∃ level, logLevel k config = .ok level)
    (h : (CompileRun.run s config k.options).run before = (.error f, stopped)) :
    (runCompile s k).run before = (.error f, stopped) := by
  rcases hlevel with ⟨level, hlevel⟩
  rw [runCompile_eq, Work.run_bind_ok (run_config_eq_ok.mpr ⟨hload, rfl⟩), Work.run_bind_lift,
    hlevel]
  exact Work.run_bind_error h

theorem run_compile_of_ok {status : UInt32}
    (h : (runCompile s k).run before = (.ok status, after)) :
    Command.run s (.compile k) before = (.ok status, after) := by
  change (reporting s (runCompile s k)).run before = _
  unfold reporting
  rw [Work.run_tryCatch, h]

theorem exitStatus_of_error {f : RunFailure} {stopped : Session}
    (h : (runCompile s k).run before = (.error f, stopped)) :
    exitStatus (Command.run s (.compile k) before).1 = failed := by
  change exitStatus ((reporting s (runCompile s k)).run before).1 = failed
  unfold reporting
  rw [Work.run_tryCatch, h]
  dsimp only
  cases f.message? with
  | none => rfl
  | some message =>
    dsimp only
    rw [Work.run_bind]
    rcases (Session.print s.lineWidth (failureBlocks message)).run stopped with
      ⟨e | _, later⟩ <;> rfl

theorem CarriedOut.run_compile (h : CarriedOut s k config summary before compiled after) :
    Command.run s (.compile k) before = (.ok (statusOf k summary), after) :=
  run_compile_of_ok (runCompile_eq_ok_iff.mpr ⟨config, summary, compiled, h, rfl⟩)

theorem CarriedOut.read (h : CarriedOut s k config summary before compiled after) {path : String}
    (hpath : SchemaProfile.given? k.out? = some path) :
    after.files.read s.directory path = .ok summary.toJson.pretty.toUTF8 := by
  rcases h.reports with ⟨shown, _, hwrite⟩
  unfold writeReport at hwrite
  rw [hpath] at hwrite
  rcases Session.run_writeJson_eq_ok.mp hwrite with ⟨text, htext, files, hfiles, rfl⟩
  rcases FileTree.exists_written hfiles with ⟨way, name, hwritten⟩
  rw [← (Json.text_eq_ok_iff.mp htext).1]
  exact hwritten.read

end Command

section

variable {s : Schema} {docs : List SourceDocument} {settings : PassSettings} {c : Compilation}
variable {d : SourceDocument}

theorem document_of_no_problems (hnodup : (docs.map (·.path)).Nodup)
    (hc : compile s docs settings = .ok c) (hnone : c.problems = []) (hd : d ∈ docs) :
    d.accepted s ∧ d.document.operations.length ≤ 1 ∧
      (d.path ∈ c.queries.map (·.path) ↔ d.document.operations ≠ []) := by
  rcases compile_own hnodup hc hd with ⟨hchecked, x, hx, _, hown⟩
  rw [hnone, show Problem.ownUnder d.path [] = [] from rfl] at hown
  rcases List.append_eq_nil_iff.mp hown.symm with ⟨hstructural, hproblems⟩
  have hacc := (structuralProblems_eq_nil_iff hchecked).mp hstructural
  refine ⟨hacc, ?_, ?_⟩
  . rw [← d.operations_map_node, List.length_map]
    cases hops : d.operations with
    | nil => exact Nat.zero_le 1
    | cons o later =>
      rw [if_pos hacc] at hx
      rcases SourceDocument.outcome_cases hops hx with ⟨query?, ps, _, _, hlater⟩
      rw [hproblems] at hlater
      rcases List.append_eq_nil_iff.mp hlater.symm with ⟨_, hmap⟩
      rw [List.map_eq_nil_iff.mp hmap]
      exact Nat.le_refl 1
  . rw [mem_paths_iff, query_isSome_iff hnodup hc hd, hnone]
    exact and_iff_left rfl

theorem text_eq_of_no_problems (hnodup : (docs.map (·.path)).Nodup)
    (hc : compile s docs settings = .ok c) (hnone : c.problems = []) {f f' : Fragment}
    (hf : f ∈ docs.flatMap (·.fragments)) (hf' : f' ∈ docs.flatMap (·.fragments))
    (hname : f.name = f'.name) : f.text = f'.text := by
  rcases compile_spec hnodup hc with ⟨collected, found, hcollected, _, _, hproblems⟩
  rw [hnone] at hproblems
  have haccepted : acceptedOf s docs = docs := by
    apply List.filter_eq_self.mpr
    exact fun d hd => (document_of_no_problems hnodup hc hnone hd).1
  apply text_eq_of_collectDocuments hcollected (List.append_eq_nil_iff.mp hproblems.symm).1 _ _
    hname
  . rw [haccepted]
    exact hf
  . rw [haccepted]
    exact hf'

end

namespace CompileRun

variable {s : Surroundings} {c : Config} {o : CompileOptions} {before after : Session}
  {schema : Schema} {paths : List String} {docs : List SourceDocument} {compilation : Compilation}

theorem queries_of_no_problems {settings : PassSettings}
    (h : Prepared s c o before after schema paths)
    (hread : SourceFile.readAll after.files s.directory paths = .ok (docs, []))
    (hcompile : compile schema docs settings = .ok compilation)
    (hnone : compilation.problems = []) (path : String) :
    (path ∈ compilation.queries.map (·.path) ↔ path ∈ paths ∧
      ∃ operations, after.files.HoldsOperations s.directory path operations ∧ operations ≠ []) ∧
    (path ∈ compilation.queries.map (·.path) → ∃ operation, ∀ operations,
      after.files.HoldsOperations s.directory path operations ↔ operations = [operation]) := by
  have hnodup := h.nodup_docs hread
  have hfile {path : String} (hmem : path ∈ compilation.queries.map (·.path)) :
      ∃ d ∈ docs, d.path = path ∧ d.document.operations ≠ [] := by
    rcases List.mem_map.mp ((paths_sublist hnodup hcompile).subset hmem) with ⟨d, hd, rfl⟩
    exact ⟨d, hd, rfl, (document_of_no_problems hnodup hcompile hnone hd).2.2.mp hmem⟩
  refine ⟨⟨?_, ?_⟩, ?_⟩
  . intro hmem
    rcases hfile hmem with ⟨d, hd, rfl, hne⟩
    exact ⟨(SourceFile.paths_sublist_of_readAll hread).subset (List.mem_map_of_mem hd), _,
      (SourceFile.holdsOperations_of_mem hread hd _).mpr rfl, hne⟩
  . rintro ⟨hpath, operations, hholds, hne⟩
    rcases SourceFile.holdsOperations_or_document hread hpath with hempty | ⟨d, hd, rfl⟩
    . exact absurd ((hempty _).mp hholds) hne
    . rw [SourceFile.holdsOperations_of_mem hread hd] at hholds
      rw [hholds] at hne
      exact (document_of_no_problems hnodup hcompile hnone hd).2.2.mpr hne
  . intro hmem
    rcases hfile hmem with ⟨d, hd, rfl, hne⟩
    have hone : d.document.operations.length = 1 :=
      Nat.le_antisymm (document_of_no_problems hnodup hcompile hnone hd).2.1
        (List.length_pos_of_ne_nil hne)
    rcases List.length_eq_one_iff.mp hone with ⟨operation, hoperation⟩
    refine ⟨operation, fun operations => ?_⟩
    rw [SourceFile.holdsOperations_of_mem hread hd, hoperation]

end CompileRun

namespace Command

variable {s : Surroundings} {k : CompileCommand} {config : Config} {summary : Summary}
  {before compiled after : Session}

theorem CarriedOut.exists_docs (h : CarriedOut s k config summary before compiled after)
    (hnone : summary.errors = []) :
    ∃ schema paths docs compilation,
      CompileRun.Prepared s config k.options before compiled schema paths ∧
      SourceFile.readAll compiled.files s.directory paths = .ok (docs, []) ∧
      QueryLinker.compile schema docs
          (CompileRun.passSettings s config (CompileRun.projectRoot s config k.options)) =
        .ok compilation ∧
      compilation.problems = [] ∧ summary.queries = compilation.queries := by
  rcases CompileRun.run_eq_ok_iff.mp h.compiles with ⟨schema, paths, hprepared, hfiles⟩
  rcases CompileRun.compileFiles_eq_ok_iff.mp hfiles with
    ⟨docs, unparsable, compilation, hread, hcompile, rfl⟩
  rcases List.append_eq_nil_iff.mp hnone with ⟨hunparsable, herrors⟩
  rw [List.map_eq_nil_iff.mp hunparsable] at hread
  exact ⟨schema, paths, docs, compilation, hprepared, hread, hcompile,
    List.map_eq_nil_iff.mp herrors, rfl⟩

theorem CarriedOut.passes (h : CarriedOut s k config summary before compiled after)
    (hnone : summary.errors = []) :
    ∃ schema paths docs,
      CompileRun.Prepared s config k.options before compiled schema paths ∧
      SourceFile.readAll compiled.files s.directory paths = .ok (docs, []) ∧
      (∀ path, path ∈ summary.queries.map (·.path) ↔ path ∈ paths ∧ ∃ operations,
        compiled.files.HoldsOperations s.directory path operations ∧ operations ≠ []) ∧
      (∀ path ∈ summary.queries.map (·.path), ∃ operation, ∀ operations,
        compiled.files.HoldsOperations s.directory path operations ↔ operations = [operation]) ∧
      (∀ d ∈ docs, d.accepted schema) ∧
      ∀ f ∈ docs.flatMap (·.fragments), ∀ f' ∈ docs.flatMap (·.fragments),
        f.name = f'.name → f.text = f'.text := by
  rcases h.exists_docs hnone with
    ⟨schema, paths, docs, compilation, hprepared, hread, hcompile, hproblems, hqueries⟩
  have hnodup := hprepared.nodup_docs hread
  have hpaths := CompileRun.queries_of_no_problems hprepared hread hcompile hproblems
  rw [hqueries]
  refine ⟨schema, paths, docs, hprepared, hread, fun path => (hpaths path).1,
    fun path => (hpaths path).2, ?_, ?_⟩
  . intro d hd
    exact (document_of_no_problems hnodup hcompile hproblems hd).1
  . intro f hf f' hf' hname
    exact text_eq_of_no_problems hnodup hcompile hproblems hf hf' hname

end Command

theorem Summary.print_report_json (summary : Summary) (width : Nat) :
    (Console.print (summary.report Summary.jsonFormat) width).2 = none := by
  rw [Console.print_eq_none_iff]
  exact List.forall_mem_singleton.mpr ⟨_, rfl⟩

/-!
The project with a page again, and a command that writes its report to a file of it.
-/

section

open Json

theorem CompiledQuery.writable (q : CompiledQuery) :
    q.toJson.ShortIntegers ∧ q.toJson.calls ≤ 1 := by
  unfold CompiledQuery.toJson
  split <;> cases q.id? <;>
    simp [object, ShortIntegers, MembersShort, MemberShort, calls, membersCalls, memberCalls,
      ofOption]

theorem Summary.text_toJson {s : Summary} (hnone : s.errors = []) (hcount : s.fileCount = 1)
    {nesting : Nat} (hnesting : 3 ≤ nesting) :
    s.toJson.text nesting = .ok s.toJson.pretty := by
  have hqueries : (Json.object (s.queries.map fun q => (q.path, q.toJson))).ShortIntegers ∧
      (Json.object (s.queries.map fun q => (q.path, q.toJson))).calls ≤ 2 := by
    unfold Json.object
    rw [Json.calls_obj_le_iff, ShortIntegers, Json.membersShort_iff]
    simp only [List.forall_mem_map]
    exact ⟨fun q _ => q.writable.1, fun q _ => q.writable.2⟩
  rw [Json.text_eq_ok_iff]
  unfold toJson
  rw [hnone, hcount, Json.object, Json.ShortIntegers, Json.membersShort_iff]
  refine ⟨rfl, ?_, Nat.le_trans (Json.calls_obj_le_iff.mpr ?_) hnesting⟩
  . have hone : (Nat.toDigits 10 1).length ≤ Number.maxIntegerDigits := by decide
    simp only [List.map_cons, List.forall_mem_cons]
    exact ⟨hone, hqueries.1, trivial, List.forall_mem_nil _⟩
  . simp only [List.map_cons, List.forall_mem_cons]
    exact ⟨Nat.zero_le _, hqueries.2, Nat.zero_le _, List.forall_mem_nil _⟩

end

namespace CompileRun.Sample

open DefinitionTable Graphql

end CompileRun.Sample

namespace Command

end Command

end QueryLinker
