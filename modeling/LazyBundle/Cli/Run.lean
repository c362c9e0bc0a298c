import LazyBundle.Build.Basic
import LazyBundle.Cli.Args
import LazyBundle.Cli.Record
import LazyBundle.Config.Load
import LazyBundle.Manifest
import LazyBundle.Store

/-!
# Running a build

One run of the command line over a file system: load the configuration, put the
options over it, load the manifest, build, and tell what happened. A dry run
builds into a store and lists what it would write. The run fails when it meets
an error or when the build reports one.
-/

namespace LazyBundle.Cli

/-- The options replace destinations and target, and only ever turn the switches on. -/
def Options.applyTo (o : Options) (c : Config) : Config :=
  { c with
    destinations := if o.outDirs.isEmpty then c.destinations else o.outDirs
    target := o.target.getD c.target
    minify := c.minify || o.minify
    hashFileNames := c.hashFileNames || o.hash }

inductive Failure
  | config (cause : Config.LoadError)
  | options (cause : Config.Invalid)
  | manifest (cause : Manifest.LoadError)
  | build (cause : BuildError)
deriving DecidableEq, Repr

/-- A malformed settings file is told without what is wrong in it. -/
def Failure.message : Failure → String
  | config (.malformed path _) =>
    "Invalid config file " ++ path.text ++ ": " ++ Toml.ReadError.summary
  | config cause => cause.message
  | options cause => cause.message
  | manifest cause => cause.message
  | build cause => cause.message

structure Result where
  report : Report (List Bundle)
  planned : List Path

/-- What surrounds a run. -/
structure Surroundings (m : Type → Type) where
  reader : FileReader m
  files : FileSystem m
  runner : Runner
  environment : Layer.Environment
  /-- The directory whose settings file is the one of the project. -/
  projectDir : Path
  /-- The rules that the environment gives for the records. -/
  recordRules : Option String := none

variable {m : Type → Type} [Monad m]

def Surroundings.prepare (s : Surroundings m) (manifest : Path) (o : Options) :
    m (Except Failure (Config × Manifest)) := ExceptT.run do
  let loaded ← ExceptT.mk (Config.load s.reader s.environment (Config.userFile s.environment)
    o.config s.projectDir >>= fun r => pure (r.mapError Failure.config))
  let config := o.applyTo loaded
  ExceptT.mk (pure (config.validate.mapError Failure.options))
  let contents ← ExceptT.mk (Manifest.load s.reader manifest >>= fun r =>
    pure (r.mapError Failure.manifest))
  pure (config, contents)

def Surroundings.build (s : Surroundings m) (config : Config) (manifest : Manifest)
    (dryRun : Bool) : m Result :=
  if dryRun then
    let host := Host.ofConfig config s.runner (Store.fileSystem fun _ => false)
    let build : Build (StateM Store) := ⟨config, host⟩
    let (report, store) := (build.generate manifest.entryModules manifest.artifacts).run {}
    pure ⟨report, store.paths⟩
  else do
    let build : Build m := ⟨config, Host.ofConfig config s.runner s.files⟩
    let report ← build.generate manifest.entryModules manifest.artifacts
    pure ⟨report, []⟩

/-! ## Records of a run -/

def commandLine : String := "lazypack"

def tell (severity : Severity) (message : String) : Record :=
  ⟨severity, commandLine, message⟩

def unplacedRecord (fileName : String) : Record :=
  ⟨.warn, "lazypack::lazy_modules", "Core bundle " ++ fileName ++
    " has no lazy bundle data placeholder, writing it unchanged"⟩

def diagnosticRecord (d : Diagnostic) : Record :=
  tell (if d.isError then .error else .warn) d.text

def summary (bundles destinations diagnostics : Nat) : String :=
  "Generated " ++ toString bundles ++ " lazy bundles into " ++ toString destinations ++
    " destination(s) with " ++ toString diagnostics ++ " diagnostic(s)"

def Result.records (r : Result) (config : Config) : List Record :=
  r.report.unplaced.map unplacedRecord ++
    match r.report.result with
    | .error e => [tell .error e.message]
    | .ok bundles =>
      r.planned.map (fun p => tell .info ("Would write " ++ p.text)) ++
        r.report.log.map diagnosticRecord ++
        [tell .info (summary bundles.length config.destinations.length r.report.log.length)]

def Result.succeeded (r : Result) : Bool :=
  r.report.result.toBool && !r.report.log.hasErrors

/-- Which records a run shows. The given rules count unless more is asked for. -/
def recordFilter (rules : Option String) (verbosity : Nat) : Record.Filter :=
  match verbosity with
  | 0 =>
    let start := Record.Filter.upTo Severity.info.rank
    (rules.map start.extend).getD start
  | 1 => .upTo Severity.debug.rank
  | _ => .upTo Severity.trace.rank

structure Outcome where
  exitCode : Nat
  records : List Record
  /-- Why no build was started. -/
  stop : Option Stop := none
deriving DecidableEq, Repr

def Stop.exitCode : Stop → Nat
  | .help | .version => 0
  | .usage => 2

def Surroundings.runWith (s : Surroundings m) (manifest : Path) (o : Options) : m Outcome := do
  match ← s.prepare manifest o with
  | .error e => pure ⟨1, [tell .error e.message], none⟩
  | .ok (config, contents) =>
    let r ← s.build config contents o.dryRun
    pure ⟨if r.succeeded then 0 else 1, r.records config, none⟩

def Surroundings.run (s : Surroundings m) (args : List String) : m Outcome :=
  match parseArgs args with
  | .error stop => pure ⟨stop.exitCode, [], some stop⟩
  | .ok (manifest, o) => do
    let outcome ← s.runWith manifest o
    let filter := recordFilter s.recordRules o.verbosity
    pure { outcome with records := outcome.records.filter filter.shows }

end LazyBundle.Cli
