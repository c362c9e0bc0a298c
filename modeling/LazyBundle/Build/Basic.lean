import LazyBundle.Artifact
import LazyBundle.Build.Host
import LazyBundle.Injection
import LazyBundle.Job

/-!
# Builds

A build writes the entries and the chunks first, and the core bundles only when
all of that has succeeded: their code gets the data that name the files of the
entries. A write that fails stops no other write of its phase. The error of a
phase is the first one in the order of the artifacts, entries before chunks.
-/

namespace LazyBundle

structure Build (m : Type → Type) where
  config : Config
  host : Host m

namespace Build

variable {m : Type → Type} [Monad m]

def finish (b : Build m) (code : String) : Finished :=
  b.host.stages.finish code b.config.target b.config.minify

def writeFile (b : Build m) (code fileName : String) : m (Except WriteError Unit) :=
  b.host.files.writeAll code fileName b.config.destinations

/-! ## Entries -/

structure Entry where
  entryModule : EntryModule
  code : String
deriving DecidableEq, Repr

/-- Finds the entry module of an artifact and finishes its code, which is done once for all
modes. -/
def prepare (b : Build m) (modules : List EntryModule) (a : Artifact) :
    Except BuildError Entry × Log :=
  match a.entryKey.bind (EntryModule.find? modules) with
  | none => (.error (.missingEntryModule a.fileName a.entryKey), [])
  | some entryModule =>
    let finished := b.finish a.code
    (.ok ⟨entryModule, finished.code⟩, finished.diagnostics)

def modeJobs (b : Build m) (e : Entry) : List (Job m (Except WriteError ModeOutput)) :=
  e.entryModule.modeNames.map fun mode =>
    ⟨b.host.writer.wait mode, b.host.writer.write b.config.destinations e.entryModule e.code mode⟩

/-- The jobs of an entry that was prepared; an artifact without entry module has none. -/
def jobsOf (b : Build m) : Except BuildError Entry → List (Job m (Except WriteError ModeOutput))
  | .error _ => []
  | .ok e => b.modeJobs e

def sortOutputs (outputs : List ModeOutput) : List ModeOutput :=
  outputs.mergeSort fun a b => a.modeName ≤ b.modeName

def Entry.bundle (e : Entry) (outcomes : List (Except WriteError ModeOutput)) :
    Except BuildError Bundle :=
  match collect outcomes with
  | .error cause => .error (.write cause)
  | .ok outputs =>
    .ok ⟨e.entryModule.entryKey, e.entryModule.modeNames, e.entryModule.components,
      sortOutputs outputs⟩

def bundleOf (prepared : Except BuildError Entry)
    (outcomes : List (Except WriteError ModeOutput)) : Except BuildError Bundle :=
  prepared.bind fun e => e.bundle outcomes

def writeEntry (b : Build m) (modules : List EntryModule) (a : Artifact) :
    m (Report Bundle) := do
  let (prepared, log) := b.prepare modules a
  let outcomes ← Job.joinAll (b.jobsOf prepared)
  pure { result := bundleOf prepared outcomes, log := log }

/-! ## Chunks -/

def writeChunk (b : Build m) (code fileName : String) : m (Report Unit) := do
  let finished := b.finish code
  let outcome ← b.writeFile finished.code fileName
  pure { result := outcome.mapError .write, log := finished.diagnostics }

/-! ## Core bundles -/

def unplacedWarning (fileName : String) : Diagnostic where
  level := .warning
  header := "Lazy bundle data"
  message := "placeholder " ++ placeholder ++ " not found"
  file := some fileName

/-- The code of a core bundle with the data in it, and whether a place for them was found. -/
def injectLazyData (b : Build m) (core : Artifact) (data : String) : Report String :=
  match inject core.code data with
  | .replaced code => { result := .ok code, log := [] }
  | .missing code =>
    if b.config.requirePlaceholder then
      { result := .error (.missingPlaceholder core.fileName), log := [] }
    else
      { result := .ok code, log := [unplacedWarning core.fileName], unplaced := [core.fileName] }

def injectAll (b : Build m) (data : String) : List Artifact → Report (List String)
  | [] => { result := .ok [], log := [] }
  | core :: cores =>
    let first := b.injectLazyData core data
    match first.result with
    | .error e => { result := .error e, log := first.log, unplaced := first.unplaced }
    | .ok code =>
      let rest := b.injectAll data cores
      { result := rest.result.map (code :: ·), log := first.log ++ rest.log,
        unplaced := first.unplaced ++ rest.unplaced }

def coreReport (b : Build m) (cores : List Artifact) (bundles : List Bundle) : Report (List String) :=
  match Bundle.lazyData b.host.threshold b.config.defaultMode bundles with
  | .error entryKey => { result := .error (.emptyBundle entryKey), log := [] }
  | .ok data => b.injectAll data cores

def writeInjected (b : Build m) (cores : List Artifact) (codes : List String) :
    m (Report Unit) := do
  let reports ← (cores.zip codes).mapM fun c => b.writeChunk c.2 c.1.fileName
  pure { result := (collect (reports.map (·.result))).map fun _ => (),
         log := reports.flatMap (·.log) }

/-- Nothing is written unless every core bundle has got its code. -/
def writeCores (b : Build m) (cores : List Artifact) (bundles : List Bundle) :
    m (Report Unit) :=
  match Bundle.lazyData b.host.threshold b.config.defaultMode bundles with
  | .error entryKey => pure { result := .error (.emptyBundle entryKey), log := [] }
  | .ok data =>
    let injected := b.injectAll data cores
    match injected.result with
    | .error e => pure { result := .error e, log := injected.log, unplaced := injected.unplaced }
    | .ok codes => do
      let written ← b.writeInjected cores codes
      pure { result := written.result, log := injected.log ++ written.log,
             unplaced := injected.unplaced }

/-! ## The whole build -/

/-- Writes entries and chunks; all of them are attempted. -/
def writeModules (b : Build m) (modules : List EntryModule) (classes : Classes) :
    m (Report (List Bundle)) := do
  let prepared := classes.entries.map (b.prepare modules)
  let chunks := classes.chunks.map fun a => (a.fileName, b.finish a.code)
  let log := prepared.flatMap (·.2) ++ chunks.flatMap (·.2.diagnostics)
  let (outcomes, chunkOutcomes) ← Job.joinGroups (prepared.map fun p => b.jobsOf p.1)
    (chunks.map fun c => ⟨0, b.writeFile c.2.code c.1⟩)
  let bundles := collect (List.zipWith (fun p o => bundleOf p.1 o) prepared outcomes)
  let written := (collect chunkOutcomes).mapError BuildError.write
  pure { result := bundles.bind fun bs => written.map fun _ => bs, log := log }

def generate (b : Build m) (modules : List EntryModule) (artifacts : List Artifact) :
    m (Report (List Bundle)) := do
  let classes := classify artifacts
  let first ← b.writeModules modules classes
  match first.result with
  | .error e => pure { result := .error e, log := first.log }
  | .ok bundles =>
    let second ← b.writeCores classes.cores bundles
    pure { result := second.result.map fun _ => bundles, log := first.log ++ second.log,
           unplaced := second.unplaced }

end Build

end LazyBundle
