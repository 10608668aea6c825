import QueryLinker.Project.CompileRun

/-!
This module contains the commands of the program: how they are told by the arguments, what they do
and print, and the status that they end with.
-/

namespace QueryLinker

structure CompileCommand where
  options : CompileOptions := {}
  configFile? : Option String := none
  format : String := "console"
  out? : Option String := none
  failOnError : Bool := false
  verbose : Bool := false
deriving DecidableEq, Repr

structure PullCommand where
  url? : Option String := none
  token? : Option String := none
  out? : Option String := none
  configFile? : Option String := none
deriving DecidableEq, Repr

inductive Command where
  | compile (c : CompileCommand)
  | initConfig (file? : Option String)
  | pullSchema (c : PullCommand)
deriving DecidableEq, Repr

namespace Command

/-! What the arguments stand for. -/

inductive Effect (α : Type) where
  | flag (set : α → α)
  | value (set : String → α → α)

abbrev Options (α : Type) := List (String × Effect α)

def splitOption (arg : String) : String × Option String :=
  if arg.startsWith "--" then
    match arg.toList.dropWhile (· != '=') with
    | _ :: value =>
      (String.ofList (arg.toList.takeWhile (· != '=')), some (String.ofList value))
    | [] => (arg, none)
  else (arg, none)

def shortOptions (arg : String) : List String :=
  (arg.toList.drop 1).map fun c => String.ofList ['-', c]

def applyFlags {α : Type} (options : Options α) (a : α) : List String → Option α
  | [] => some a
  | name :: names =>
    match options.lookup name with
    | some (.flag set) => applyFlags options (set a) names
    | _ => none

def readArgs {α : Type} (options : Options α) (put : String → α → Option α) (a : α) :
    List String → Option α
  | [] => some a
  | "--" :: args => args.foldlM (fun a arg => put arg a) a
  | arg :: args =>
    if !arg.startsWith "-" || arg == "-" then do readArgs options put (← put arg a) args
    else
      let (name, value?) := splitOption arg
      match options.lookup name, value?, args with
      | some (.flag set), none, args => readArgs options put (set a) args
      | some (.value set), some value, args => readArgs options put (set value a) args
      | some (.value set), none, value :: args => readArgs options put (set value a) args
      | none, none, args =>
        if arg.startsWith "--" then none
        else do readArgs options put (← applyFlags options a (shortOptions arg)) args
      | _, _, _ => none

def switch {α : Type} (name : String) (set : Bool → α → α) : Options α :=
  [("--" ++ name, .flag (set true)), ("--no-" ++ name, .flag (set false))]

def compileFlags : Options CompileCommand :=
  switch "fail-on-error" (fun b c => { c with failOnError := b }) ++
    switch "refresh-schema"
      (fun b c => { c with options := { c.options with refreshSchema := b } }) ++
    [("--verbose", .flag fun c => { c with verbose := true }),
     ("-v", .flag fun c => { c with verbose := true })]

def compileValues : Options CompileCommand :=
  [("--url", .value fun v c => { c with options := { c.options with url? := some v } }),
   ("--schema", .value fun v c => { c with options := { c.options with schemaFile? := some v } }),
   ("--root", .value fun v c => { c with options := { c.options with root? := some v } }),
   ("--config", .value fun v c => { c with configFile? := some v }),
   ("--output", .value fun v c => { c with format := v }),
   ("--out", .value fun v c => { c with out? := some v })]

def addDirectory (directory : String) (c : CompileCommand) : Option CompileCommand :=
  some { c with
    options := { c.options with directories := c.options.directories ++ [directory] } }

def pullValues : Options PullCommand :=
  [("--url", .value fun v c => { c with url? := some v }),
   ("--token", .value fun v c => { c with token? := some v }),
   ("--out", .value fun v c => { c with out? := some v }),
   ("--config", .value fun v c => { c with configFile? := some v })]

def initValues : Options (Option String) :=
  [("--path", .value fun v _ => some v)]

def ofArgs? : List String → Option Command
  | "compile" :: args =>
    (readArgs (compileFlags ++ compileValues) addDirectory {} args).map .compile
  | "init-config" :: args => (readArgs initValues (fun _ _ => none) none args).map .initConfig
  | "schema" :: "pull" :: args => (readArgs pullValues (fun _ _ => none) {} args).map .pullSchema
  | _ => none

/-! What the commands do. -/

def success : UInt32 := 0
def failed : UInt32 := 1
def foundErrors : UInt32 := 2

def config (s : Surroundings) (file? : Option String) : Work Config := do
  Config.load s (← get).files file?

def logLevel (c : CompileCommand) (config : Config) : Except RunFailure Int :=
  (LogLevel.ofSetting (if c.verbose then .text "DEBUG" else config.logLevel)).mapError .logLevel

def runCompile (s : Surroundings) (c : CompileCommand) : Work UInt32 := do
  let config ← config s c.configFile?
  let _ ← logLevel c config
  let summary ← CompileRun.run s config c.options
  Session.print s.lineWidth (summary.report c.format)
  match SchemaProfile.given? c.out? with
  | some path => Session.writeJson s.nesting s.directory path summary.toJson
  | none => pure ()
  return if c.failOnError && !summary.errors.isEmpty then foundErrors else success

def runInit (s : Surroundings) (file? : Option String) : Work UInt32 := do
  match Config.writeExample s (← get).files file? with
  | .error failure => throw failure
  | .ok (files, path) =>
    modify fun session => { session with files }
    Session.print s.lineWidth (valueBlocks "Config written" [("path", .str path)])
    return success

def runPull (s : Surroundings) (c : PullCommand) : Work UInt32 := do
  let config ← config s c.configFile?
  let base? ←
    match SchemaProfile.given? c.url? with
    | some url => pure (some url)
    | none => CompileRun.textSetting "rstrip" config.defaultUrl
  match base? with
  | none =>
    Session.print s.lineWidth
      [.tagged "[red]Error: No URL provided. Use --url or set default_url in config.[/red]"]
    return failed
  | some base =>
    let url := Url.endpoint base
    Session.print s.lineWidth
      [.tagged ("[cyan]Fetching schema from " ++ url ++ "...[/cyan]")]
    let profile ←
      SchemaProfile.load s config { url? := some url, refresh := true, token? := c.token? }
    let path ←
      match SchemaProfile.given? c.out? with
      | some path => do
        Session.writeJson s.nesting s.directory path profile.schema
        pure path
      | none => SchemaProfile.cacheFile config url
    Session.print s.lineWidth (valueBlocks "Schema pulled"
      [("url", profile.url), ("hash", profile.hash), ("path", .str path)])
    return success

def failureBlocks (message : String) : List Console.Block :=
  [.tagged ("[red]Error: " ++ message ++ "[/red]")]

def reporting (s : Surroundings) (work : Work UInt32) : Work UInt32 :=
  tryCatch work fun f => do
    match f.message? with
    -- A failure that cannot be shown is a failure of its own.
    | none => throw (.schema .unplaced)
    | some message =>
      Session.print s.lineWidth (failureBlocks message)
      return failed

def work (s : Surroundings) : Command → Work UInt32
  | .compile c => reporting s (runCompile s c)
  | .initConfig file? => runInit s file?
  | .pullSchema c => reporting s (runPull s c)

def run (s : Surroundings) (c : Command) (session : Session) :
    Except RunFailure UInt32 × Session :=
  (c.work s).run session

end Command

end QueryLinker
