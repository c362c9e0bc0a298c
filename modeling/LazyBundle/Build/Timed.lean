import LazyBundle.Build.Basic

/-!
# Builds whose calls take time

Calls to the stages and writes may be suspended, and the other files of a phase go
on meanwhile. What a stage reports enters the log when the stage answers. A file is
written once its stages have answered. A phase ends when all of its calls have
ended, and only then the next one starts. Times count from the start of a phase;
what happens at one time happens in the order of the artifacts.
-/

namespace LazyBundle

/-- How long the calls of a phase take. Those to the stages go by the place of the file in the
phase and the code that they get, writes by the place and their number. -/
structure Delays where
  transform : Nat → String → Nat := fun _ _ => 0
  optimize : Nat → String → Nat := fun _ _ => 0
  write : Nat → Nat → Nat := fun _ _ => 0

/-! ## Commands -/

abbrev Timer := String → List String → String → Target → Nat

/-- A stage without a program answers at once. -/
def Timer.of (timer : Timer) (target : Target) : Option (List String) → String → Nat
  | some (program :: args), code => timer program args code target
  | _, _ => 0

def Delays.ofCommands (timer : Timer) (config : Config) : Delays where
  transform _ := timer.of config.target config.transpileCommand
  optimize _ := timer.of config.target config.minifyCommand

/-! ## Tasks -/

/-- Finished code, the time from which it is there, and what is reported when. -/
structure Ready where
  code : String
  time : Nat
  reports : List (Nat × Log)

abbrev Answer := Except WriteError (List ModeOutput)

/-- The work on one file of a phase. Its outputs make bundles, unless the file has no place in the
build. -/
structure Task (m : Type → Type) where
  reports : List (Nat × Log) := []
  calls : List (Job m Answer) := []
  bundles : Except BuildError (List ModeOutput → List Bundle)

def inTime (reports : List (Nat × Log)) : Log :=
  (reports.mergeSort fun a b => a.1 ≤ b.1).flatMap (·.2)

namespace Task

variable {m : Type → Type} [Monad m]

def outcome (t : Task m) (answers : List Answer) : Except BuildError (List Bundle) :=
  t.bundles.bind fun bundles => ((collect answers).mapError .write).map fun outputs => bundles outputs.flatten

/-- All calls of all tasks are made; the error is that of the first task that has failed. -/
def joinAll (tasks : List (Task m)) : m (Report (List Bundle)) := do
  let answers ← Job.joinAll (tasks.flatMap (·.calls))
  let outcomes := List.zipWith outcome tasks (Job.regroup (tasks.map (·.calls)) answers)
  pure { result := (collect outcomes).map List.flatten, log := inTime (tasks.flatMap (·.reports)) }

end Task

/-! ## Builds -/

/-- A build with the times that its calls take, in the phase of the modules and in that of the core
bundles, and with the calls that write an entry for a mode. -/
structure TimedBuild (m : Type → Type) extends Build m where
  modeCalls : Build.Entry → String → List (Job m Answer)
  early : Delays := {}
  late : Delays := {}

namespace Build

variable {m : Type → Type} [Monad m]

def writeCalls (b : Build m) (code fileName : String) : List (Job m Answer) :=
  b.config.destinations.map fun d => ⟨0, (·.map fun _ => []) <$> b.host.files.write (d.join fileName) code⟩

/-- The usual module writer makes one call for every destination. -/
def destinationCalls (b : Build m) (e : Entry) (modeName : String) : List (Job m Answer) :=
  let id := bundleId b.config e.entryModule.entryKey e.code modeName
  b.writeCalls e.code (entryFileName id) ++ [⟨0, pure (.ok [⟨modeName, id, entryFileName id⟩])⟩]

/-- Any module writer can be taken to make one call. -/
def writerCall (b : Build m) (e : Entry) (modeName : String) : List (Job m Answer) :=
  [⟨b.host.writer.wait modeName,
    (·.map ([·])) <$> b.host.writer.write b.config.destinations e.entryModule e.code modeName⟩]

def timed (b : Build m) (early late : Delays) : TimedBuild m :=
  { b with modeCalls := b.destinationCalls, early, late }

end Build

namespace TimedBuild

variable {m : Type → Type} [Monad m]

def ready (b : Build m) (delays : Delays) (place : Nat) (code : String) : Ready :=
  let c := b.config
  let lowered := b.host.stages.downlevel code c.target
  let loweredAt := if c.target.isLegacy then delays.transform place code else 0
  let small := b.host.stages.minify c.minify lowered.code c.target
  let smallAt := loweredAt + if c.minify then delays.optimize place lowered.code else 0
  ⟨small.code, smallAt, [(loweredAt, lowered.diagnostics), (smallAt, small.diagnostics)]⟩

def task (delays : Delays) (place : Nat) (r : Ready) (calls : List (Job m Answer))
    (bundles : List ModeOutput → List Bundle) : Task m where
  reports := r.reports
  calls := calls.zipIdx.map fun p => p.1.after (r.time + delays.write place p.2)
  bundles := .ok bundles

def entryTask (b : TimedBuild m) (modules : List EntryModule) (place : Nat) (a : Artifact) : Task m :=
  match a.entryKey.bind (EntryModule.find? modules) with
  | none => { bundles := .error (.missingEntryModule a.fileName a.entryKey) }
  | some e =>
    let r := ready b.toBuild b.early place a.code
    task b.early place r (e.modeNames.flatMap (b.modeCalls ⟨e, r.code⟩))
      fun outputs => [⟨e.entryKey, e.modeNames, e.components, Build.sortOutputs outputs⟩]

def fileTask (b : Build m) (delays : Delays) (place : Nat) (code fileName : String) : Task m :=
  let r := ready b delays place code
  task delays place r (b.writeCalls r.code fileName) fun _ => []

def moduleTasks (b : TimedBuild m) (modules : List EntryModule) (classes : Classes) : List (Task m) :=
  classes.entries.zipIdx.map (fun p => b.entryTask modules p.2 p.1) ++
    (classes.chunks.zipIdx classes.entries.length).map fun p =>
      fileTask b.toBuild b.early p.2 p.1.code p.1.fileName

def coreTasks (b : TimedBuild m) (cores : List Artifact) (codes : List String) : List (Task m) :=
  (cores.zip codes).zipIdx.map fun p => fileTask b.toBuild b.late p.2 p.1.2 p.1.1.fileName

def writeCores (b : TimedBuild m) (cores : List Artifact) (bundles : List Bundle) : m (Report Unit) :=
  let injected := b.coreReport cores bundles
  match injected.result with
  | .error e => pure { result := .error e, log := injected.log, unplaced := injected.unplaced }
  | .ok codes => do
    let written ← Task.joinAll (b.coreTasks cores codes)
    pure { result := written.result.map fun _ => (), log := injected.log ++ written.log,
           unplaced := injected.unplaced }

def generate (b : TimedBuild m) (modules : List EntryModule) (artifacts : List Artifact) :
    m (Report (List Bundle)) := do
  let classes := classify artifacts
  let first ← Task.joinAll (b.moduleTasks modules classes)
  match first.result with
  | .error e => pure { result := .error e, log := first.log }
  | .ok bundles =>
    let second ← b.writeCores classes.cores bundles
    pure { result := second.result.map fun _ => bundles, log := first.log ++ second.log,
           unplaced := second.unplaced }

end TimedBuild

end LazyBundle
