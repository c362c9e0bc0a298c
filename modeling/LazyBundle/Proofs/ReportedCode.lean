import LazyBundle.Proofs.EntryFiles
import LazyBundle.Proofs.ReportedStages
import LazyBundle.Proofs.Siblings

/-!
# Code that is reported

Code that a stage gives together with a report has no influence on a build. When
the calls of two builds take the same time, they end alike; otherwise their
reports and their writes may come in another order, and paths to which different
codes are written may differ (`generate_ignores_reported`, `slow_report`).
-/

namespace LazyBundle

open Step

/-! ## Runs whose writes come in another order -/

/-- All that is written to the path is the same. -/
def Uncontested (calls : List Call) (p : Path) : Prop :=
  ∀ q q' content content', .file q content ∈ calls → .file q' content' ∈ calls → q.Same p → q'.Same p →
    content = content'

/-- Runs with the same outcome and the same writes in some order. -/
structure SameWrites {σ : Type} (fs : FileSystem (StateM σ)) (locked : Path → Bool)
    (x y : Report (List Bundle) × Journal σ) : Prop where
  result : x.1.result = y.1.result
  unplaced : x.1.unplaced = y.1.unplaced
  calls : x.2.calls.Perm y.2.calls
  contents : ∀ read, fs.Keeps locked read → ∀ p, Uncontested x.2.calls p → read x.2.state p = read y.2.state p

theorem content?_of_uncontested {calls : List Call} {p : Path} (h : Uncontested calls p) (locked : Path → Bool) :
    ∀ c ∈ calls, ∀ c' ∈ calls, ∀ content content', c.content? locked p = some content →
      c'.content? locked p = some content' → content = content' := by
  intro c hc c' hc' content content' hcontent hcontent'
  cases c with
  | entry key mode code => cases hcontent
  | file q code =>
    cases c' with
    | entry key mode code => cases hcontent'
    | file q' code' =>
      rw [Call.content?, Option.ite_none_right_eq_some] at hcontent hcontent'
      obtain ⟨⟨hq, -⟩, ⟨⟩⟩ := hcontent
      obtain ⟨⟨hq', -⟩, ⟨⟩⟩ := hcontent'
      exact h q q' _ _ hc hc' hq hq'

namespace TimedBuild

variable {σ : Type}

section order

variable {fs : FileSystem (StateM σ)} {locked : Path → Bool} (hfs : fs.Refuses locked) {b : Build (StateM (Journal σ))}
  (hfiles : b.host.files = fs.recorded) (hw : b.host.writer = .ofConfig b.config b.host.files) (early late : Delays)
  (modules : List EntryModule) (artifacts : List Artifact) (s : σ)
include hfs hfiles hw

/-- A build makes the calls of the plain build in some order, and leaves what they leave. -/
theorem calls_timed :
    let run := (b.timed early late).generate modules artifacts ⟨s, []⟩
    run.2.calls.Perm (b.generate modules artifacts ⟨s, []⟩).2.calls ∧
      ∀ read, fs.Keeps locked read → ∀ p,
        read run.2.state p = (run.2.calls.reverse.findSome? (Call.content? locked p)).or (read s p) := by
  intro run
  have hrefuses : b.host.files.Refuses locked := hfiles ▸ hfs.recorded
  obtain ⟨-, order, horder, hstate⟩ := generate_timed b hrefuses early late hw modules artifacts ⟨s, []⟩
  rw [hfiles] at hstate
  constructor
  · rw [show run.2 = _ from hstate, b.state_generate hw, hfiles, calls_runAll, calls_runAll]
    exact (horder.filterMap _).append_left _
  · intro read hkeeps p
    rw [show run.2 = _ from hstate]
    exact read_calls hkeeps order s p

end order

theorem sameWrites_timed {fs : FileSystem (StateM σ)} {locked : Path → Bool} (hfs : fs.Refuses locked)
    {b b' : Build (StateM (Journal σ))} (hfiles : b.host.files = fs.recorded) (hfiles' : b'.host.files = fs.recorded)
    (hw : b.host.writer = .ofConfig b.config b.host.files) (hw' : b'.host.writer = .ofConfig b'.config b'.host.files)
    {R : Log → Log → Prop} {modules : List EntryModule} {artifacts : List Artifact}
    (halike : EndAlike R (b.generate modules artifacts) (b'.generate modules artifacts))
    (early late early' late' : Delays) (s : σ) :
    SameWrites fs locked ((b.timed early late).generate modules artifacts ⟨s, []⟩)
      ((b'.timed early' late').generate modules artifacts ⟨s, []⟩) := by
  obtain ⟨hmatches, hstate⟩ := halike ⟨s, []⟩
  have htimed := (generate_timed b (hfiles ▸ hfs.recorded) early late hw modules artifacts ⟨s, []⟩).1
  have htimed' := (generate_timed b' (hfiles' ▸ hfs.recorded) early' late' hw' modules artifacts ⟨s, []⟩).1
  obtain ⟨hcalls, hread⟩ := calls_timed hfs hfiles hw early late modules artifacts s
  obtain ⟨hcalls', hread'⟩ := calls_timed hfs hfiles' hw' early' late' modules artifacts s
  have hperm := hcalls.trans ((List.Perm.of_eq (congrArg Journal.calls hstate)).trans hcalls'.symm)
  refine ⟨?_, ?_, hperm, fun read hkeeps p huncontested => ?_⟩
  · rw [htimed.result, hmatches.result, htimed'.result]
  · rw [htimed.unplaced, hmatches.unplaced, htimed'.unplaced]
  · have hreverse := (List.reverse_perm _).trans (hperm.trans (List.reverse_perm _).symm)
    rw [hread read hkeeps p, hread' read hkeeps p, findSome?_of_perm hreverse]
    intro c hc c' hc'
    exact content?_of_uncontested huncontested locked c (List.mem_reverse.mp hc) c' (List.mem_reverse.mp hc')

/-! ## Runs whose calls take the same time -/

def refinished (b : TimedBuild (StateM σ)) (target : Target) (minify : Bool) (stages : Stages) :
    TimedBuild (StateM σ) :=
  { b with toBuild := b.toBuild.refinished target minify stages }

section refinished

variable {b : TimedBuild (StateM σ)} {target : Target} {minify : Bool} {stages : Stages}

/-- A build depends on its stages only through the code that they leave, the time that they take and what
they report. -/
theorem generate_of_ready
    (h : ready b.toBuild = ready (b.toBuild.refinished target minify stages)) :
    b.generate = (b.refinished target minify stages).generate := by
  have hentry : b.entryTask = (b.refinished target minify stages).entryTask := by
    funext modules place a
    unfold entryTask
    rw [h]
    rfl
  have hfile : fileTask b.toBuild = fileTask (b.refinished target minify stages).toBuild := by
    funext delays place code fileName
    unfold fileTask
    rw [h]
    rfl
  have hmodules : b.moduleTasks = (b.refinished target minify stages).moduleTasks := by
    funext modules classes
    unfold moduleTasks
    rw [hentry, hfile]
    rfl
  have hcores : b.writeCores = (b.refinished target minify stages).writeCores := by
    funext cores bundles
    have hreport := b.coreReport_congr (b.refinished target minify stages).toBuild rfl rfl rfl cores bundles
    unfold writeCores coreTasks
    rw [hreport, hfile]
    rfl
  funext modules artifacts
  unfold generate
  rw [hmodules, hcores]

structure SameCalls (t t' : Task (StateM σ)) : Prop where
  calls : t.calls = t'.calls
  bundles : t.bundles = t'.bundles

theorem map_eq_of_sameCalls {tasks tasks' : List (Task (StateM σ))} (h : List.Forall₂ SameCalls tasks tasks') {α : Type}
    {f : Task (StateM σ) → α} (hf : ∀ t t', SameCalls t t' → f t = f t') : tasks.map f = tasks'.map f := by
  induction h with
  | nil => rfl
  | cons ht _ ih => rw [List.map_cons, List.map_cons, hf _ _ ht, ih]

theorem joinAll_sameCalls {tasks tasks' : List (Task (StateM σ))} (h : List.Forall₂ SameCalls tasks tasks') :
    EndAlike (fun _ _ => True) (Task.joinAll tasks) (Task.joinAll tasks') := by
  have hcalls : tasks.map (·.calls) = tasks'.map (·.calls) := map_eq_of_sameCalls h fun _ _ => SameCalls.calls
  have houtcome : tasks.map Task.outcome = tasks'.map Task.outcome := by
    refine map_eq_of_sameCalls h fun t t' ht => ?_
    funext answers
    rw [Task.outcome, Task.outcome, ht.bundles]
  have houtcomes : ∀ groups, List.zipWith Task.outcome tasks groups = List.zipWith Task.outcome tasks' groups := by
    intro groups
    have happlied : ∀ tasks : List (Task (StateM σ)), List.zipWith Task.outcome tasks groups =
        List.zipWith (fun outcome answers => outcome answers) (tasks.map Task.outcome) groups := by
      intro tasks
      rw [List.zipWith_map_left]
    rw [happlied, happlied, houtcome]
  intro s
  unfold Task.joinAll
  rw [List.flatMap_def, List.flatMap_def, hcalls]
  refine ⟨⟨?_, trivial, rfl⟩, rfl⟩
  exact congrArg (fun outcomes => (collect outcomes).map List.flatten) (houtcomes _)

variable (hready : ∀ delays, delays = b.early ∨ delays = b.late → ∀ place code,
  (ready b.toBuild delays place code).code =
      (ready (b.toBuild.refinished target minify stages) delays place code).code ∧
    (ready b.toBuild delays place code).time =
      (ready (b.toBuild.refinished target minify stages) delays place code).time)
include hready

theorem sameCalls_fileTask {delays : Delays} (h : delays = b.early ∨ delays = b.late) (place : Nat)
    (code fileName : String) :
    SameCalls (fileTask b.toBuild delays place code fileName)
      (fileTask (b.refinished target minify stages).toBuild delays place code fileName) := by
  obtain ⟨hcode, htime⟩ := hready delays h place code
  refine ⟨?_, rfl⟩
  simp only [fileTask, task, hcode, htime]
  rfl

theorem sameCalls_entryTask (modules : List EntryModule) (place : Nat) (a : Artifact) :
    SameCalls (b.entryTask modules place a) ((b.refinished target minify stages).entryTask modules place a) := by
  obtain ⟨hcode, htime⟩ := hready b.early (.inl rfl) place a.code
  unfold entryTask
  cases a.entryKey.bind (EntryModule.find? modules) with
  | none => exact ⟨rfl, rfl⟩
  | some e =>
    refine ⟨?_, rfl⟩
    simp only [task, hcode, htime]
    rfl

theorem sameCalls_moduleTasks (modules : List EntryModule) (classes : Classes) :
    List.Forall₂ SameCalls (b.moduleTasks modules classes)
      ((b.refinished target minify stages).moduleTasks modules classes) := by
  refine List.rel_append ?_ ?_ <;>
    rw [List.forall₂_map_left_iff, List.forall₂_map_right_iff, List.forall₂_same] <;> intro p _
  · exact sameCalls_entryTask hready modules p.2 p.1
  · exact sameCalls_fileTask hready (.inl rfl) p.2 p.1.code p.1.fileName

theorem sameCalls_coreTasks (cores : List Artifact) (codes : List String) :
    List.Forall₂ SameCalls (b.coreTasks cores codes) ((b.refinished target minify stages).coreTasks cores codes) := by
  unfold coreTasks
  rw [List.forall₂_map_left_iff, List.forall₂_map_right_iff, List.forall₂_same]
  intro p _
  exact sameCalls_fileTask hready (.inr rfl) p.2 p.1.2 p.1.1.fileName

theorem writeCores_sameCalls (cores : List Artifact) (bundles : List Bundle) :
    EndAlike (fun _ _ => True) (b.writeCores cores bundles)
      ((b.refinished target minify stages).writeCores cores bundles) := by
  have hreport := b.coreReport_congr (b.refinished target minify stages).toBuild rfl rfl rfl cores bundles
  intro s
  cases hr : (b.coreReport cores bundles).result with
  | error e =>
    rw [writeCores_of_report_error _ hr, writeCores_of_report_error _ (hreport ▸ hr), ← hreport]
    exact ⟨⟨rfl, trivial, rfl⟩, rfl⟩
  | ok codes =>
    obtain ⟨hmatches, hstate⟩ := joinAll_sameCalls (sameCalls_coreTasks hready cores codes) s
    rw [writeCores_of_report_ok _ hr, writeCores_of_report_ok _ (hreport ▸ hr), ← hreport]
    exact ⟨⟨congrArg (Except.map fun _ => ()) hmatches.result, trivial, rfl⟩, hstate⟩

/-- Builds that finish code alike in the same time end alike, but for what they report. -/
theorem generate_sameCalls (modules : List EntryModule) (artifacts : List Artifact) :
    EndAlike (fun _ _ => True) (b.generate modules artifacts)
      ((b.refinished target minify stages).generate modules artifacts) := by
  intro s
  obtain ⟨hfirst, hstate⟩ := joinAll_sameCalls (sameCalls_moduleTasks hready modules (classify artifacts)) s
  cases hr : (Task.joinAll (b.moduleTasks modules (classify artifacts)) s).1.result with
  | error e =>
    rw [generate_of_tasks_error _ hr, generate_of_tasks_error _ (hfirst.result.symm.trans hr)]
    exact ⟨⟨rfl, trivial, rfl⟩, hstate⟩
  | ok bundles =>
    rw [generate_of_tasks_ok _ hr, generate_of_tasks_ok _ (hfirst.result.symm.trans hr), ← hstate]
    obtain ⟨hsecond, hend⟩ := writeCores_sameCalls hready (classify artifacts).cores bundles
      (Task.joinAll (b.moduleTasks modules (classify artifacts)) s).2
    exact ⟨⟨congrArg (Except.map fun _ => bundles) hsecond.result, trivial, hsecond.unplaced⟩, hend⟩

end refinished

/-! ## Reported code -/

end TimedBuild

structure Delays.StagesAtOnce (delays : Delays) : Prop where
  transform : ∀ place code, delays.transform place code = 0
  optimize : ∀ place code, delays.optimize place code = 0

namespace TimedBuild

section reported

variable {b : Build (StateM σ)}

theorem ready_agree {stages' : Stages} (h : b.host.stages.Agree stages') :
    ready b = ready (b.refinished b.config.target b.config.minify stages') := by
  funext delays place code
  have hlowered := h.downlevel code b.config.target
  have hsmall := h.minify (b.host.stages.downlevel code b.config.target).code b.config.target b.config.minify
  simp only [ready, Build.refinished, ← hlowered, ← hsmall]
  rfl

theorem generate_agree {stages' : Stages} (h : b.host.stages.Agree stages') (modules : List EntryModule)
    (artifacts : List Artifact) :
    EndAlike Eq (b.generate modules artifacts)
      ((b.refinished b.config.target b.config.minify stages').generate modules artifacts) := by
  refine Build.generate_refinished ⟨fun _ => rfl, ?_⟩ ?_ ?_ modules artifacts
  · rintro _ _ _ _ rfl rfl
    rfl
  · exact fun code => congrArg Finished.code (h.finish code b.config.target b.config.minify)
  · exact fun code => congrArg Finished.diagnostics (h.finish code b.config.target b.config.minify)

variable (h : b.host.stages.AlwaysReport) (target : Target) (minify : Bool)
include h

theorem generate_alwaysReport (modules : List EntryModule) (artifacts : List Artifact) :
    EndAlike (fun _ _ => True) (b.generate modules artifacts)
      ((b.refinished target minify b.host.stages).generate modules artifacts) := by
  refine Build.generate_refinished ⟨fun _ => trivial, fun _ _ => trivial⟩ ?_ (fun _ => trivial) modules artifacts
  exact fun code => h.finish_congr code b.config.target b.config.minify target minify

theorem ready_alwaysReport {delays : Delays} (hdelays : delays.StagesAtOnce) (place : Nat) (code : String) :
    (ready b delays place code).code =
        (ready (b.refinished target minify b.host.stages) delays place code).code ∧
      (ready b delays place code).time =
        (ready (b.refinished target minify b.host.stages) delays place code).time := by
  constructor
  · exact h.finish_congr code b.config.target b.config.minify target minify
  · simp [ready, hdelays.transform, hdelays.optimize]

end reported

/-- Code that a stage gives together with a report leaves no trace. Builds whose stages report the same, and give
the same where they report nothing, go alike if their calls take the same time. If not, they end alike with
their reports and writes in another order, so that only paths to which different codes are written may differ. -/
theorem generate_ignores_reported (config : Config) (stages stages' : Stages) (modules : List EntryModule)
    (artifacts : List Artifact) (h : stages.Agree stages') :
    let plain : Config := { config with target := .es2017, minify := false }
    (∀ (host : Host (StateM σ)) (modeCalls : Build.Entry → String → List (Job (StateM σ) Answer)) (early late : Delays),
      let run := fun (config : Config) (stages : Stages) =>
        generate { config, host := { host with stages }, modeCalls, early, late } modules artifacts
      run config stages = run config stages' ∧
        (stages.AlwaysReport → early.StagesAtOnce → late.StagesAtOnce →
          EndAlike (fun _ _ => True) (run config stages) (run plain stages))) ∧
    ∀ (fs : FileSystem (StateM σ)) (locked : Path → Bool) (threshold : Nat) (early late early' late' : Delays) (s : σ),
      let run := fun (config : Config) (stages : Stages) (early late : Delays) =>
        ((Build.standard config stages fs.recorded threshold).timed early late).generate modules artifacts ⟨s, []⟩
      fs.Refuses locked →
        SameWrites fs locked (run config stages early late) (run config stages' early' late') ∧
          (run config stages early late).1.log.Perm (run config stages' early' late').1.log ∧
          (stages.AlwaysReport → SameWrites fs locked (run config stages early late) (run plain stages early' late')) := by
  intro plain
  constructor
  · intro host modeCalls early late run
    let b : TimedBuild (StateM σ) := { config, host := { host with stages }, modeCalls, early, late }
    refine ⟨congrFun₂ (generate_of_ready (b := b) (ready_agree (b := b.toBuild) h)) modules artifacts,
      fun hreport hearly hlate => ?_⟩
    refine generate_sameCalls (b := b) (fun delays hdelays => ?_) modules artifacts
    have hatOnce : delays.StagesAtOnce := by
      rcases hdelays with rfl | rfl
      · exact hearly
      · exact hlate
    exact ready_alwaysReport (b := b.toBuild) hreport .es2017 false hatOnce
  · intro fs locked threshold early late early' late' s run hfs
    let b := Build.standard config stages fs.recorded threshold
    have hagree := generate_agree (b := b) h modules artifacts
    have hlog := (generate_timed b hfs.recorded early late rfl modules artifacts ⟨s, []⟩).1.log
    have hlog' := (generate_timed (b.refinished config.target config.minify stages') hfs.recorded early' late' rfl
      modules artifacts ⟨s, []⟩).1.log
    refine ⟨sameWrites_timed hfs rfl rfl rfl rfl hagree early late early' late' s, ?_, fun hreport => ?_⟩
    · exact (hlog.trans (.of_eq (hagree _).1.log)).trans hlog'.symm
    · exact sameWrites_timed hfs rfl rfl rfl rfl
        (generate_alwaysReport (b := b) hreport .es2017 false modules artifacts) early late early' late' s

end TimedBuild

/-! ## A slow report -/

/-- Stages that give this code and report an error about every code. -/
def Stages.reporting (code : String) : Stages where
  transform _ _ := ⟨code, [⟨.error, "Transpile", "", none⟩]⟩
  optimize _ _ := ⟨some code, [⟨.error, "Minify", "", none⟩]⟩

theorem Stages.reporting_agree (code code' : String) : (reporting code).Agree (reporting code') where
  transformed _ _ := rfl
  transformedCode _ _ h := nomatch h
  optimized _ _ := rfl
  optimizedCode _ _ h := nomatch h

theorem Stages.reporting_alwaysReport (code : String) : (reporting code).AlwaysReport :=
  fun _ _ => ⟨List.cons_ne_nil _ _, List.cons_ne_nil _ _⟩

theorem Job.schedule_late {m : Type → Type} {α : Type} {a a' b b' : Job m α} (ha : a.wait = 1) (ha' : a'.wait = 1)
    (hb : b.wait = 0) (hb' : b'.wait = 0) : schedule [a, a', b, b'] = [(b, 2), (b', 3), (a, 0), (a', 1)] := by
  simp [schedule, List.mergeSort, List.MergeSort.Internal.splitInTwo, ha, ha', hb, hb']

namespace TimedBuild

def loweringConfig : Config :=
  { target := .es5 }

def plainConfig : Config :=
  { loweringConfig with target := .es2017, minify := false }

def slowFirst : Delays where
  transform place _ := if place = 0 then 1 else 0

def pairRun (config : Config) (stages : Stages) (early : Delays) : Report (List Bundle) × Store :=
  ((Build.standard config stages (Store.fileSystem fun _ => false) Literal.defaultThreshold).timed early {}).generate
    (Build.pairModules "a.b") (Build.pairArtifacts "a.b") {}

theorem generate_ignores_reported_garbled :
    let fs := Store.fileSystem fun _ => false
    let recorded := fun (config : Config) (stages : Stages) (early : Delays) =>
      ((Build.standard config stages fs.recorded Literal.defaultThreshold).timed early {}).generate
        (Build.pairModules "a.b") (Build.pairArtifacts "a.b") ⟨{}, []⟩
    let slow := recorded loweringConfig (.reporting "") slowFirst
    let garbled := recorded loweringConfig (.reporting "alert(1)") {}
    pairRun loweringConfig (.reporting "") slowFirst = pairRun loweringConfig (.reporting "alert(1)") slowFirst ∧
      (pairRun loweringConfig (.reporting "") {}).2 = (pairRun plainConfig (.reporting "") {}).2 ∧
      SameWrites fs (fun _ => false) slow garbled ∧ slow.1.log.Perm garbled.1.log ∧
      SameWrites fs (fun _ => false) slow (recorded plainConfig (.reporting "") {}) := by
  intro fs recorded slow garbled
  let b := Build.standard loweringConfig (.reporting "") fs Literal.defaultThreshold
  obtain ⟨halike, hreordered⟩ := generate_ignores_reported loweringConfig (.reporting "") (.reporting "alert(1)")
    (Build.pairModules "a.b") (Build.pairArtifacts "a.b") (Stages.reporting_agree "" "alert(1)")
  have hsame := (halike b.host b.destinationCalls slowFirst {}).1
  have hplain := (halike b.host b.destinationCalls {} {}).2 (Stages.reporting_alwaysReport "")
    ⟨fun _ _ => rfl, fun _ _ => rfl⟩ ⟨fun _ _ => rfl, fun _ _ => rfl⟩
  obtain ⟨hgarbled, hlog, hraw⟩ := hreordered fs (fun _ => false) Literal.defaultThreshold slowFirst {} {} {} {}
    (Store.fileSystem_refuses _)
  exact ⟨congrFun hsame {}, (hplain {}).2, hgarbled, hlog, hraw (Stages.reporting_alwaysReport "")⟩

theorem state_generate_of_no_cores (b : TimedBuild (StateM σ)) (modules : List EntryModule) {artifacts : List Artifact}
    (h : (classify artifacts).cores = []) (s : σ) :
    (b.generate modules artifacts s).2 = (Task.joinAll (b.moduleTasks modules (classify artifacts)) s).2 := by
  cases hr : (Task.joinAll (b.moduleTasks modules (classify artifacts)) s).1.result with
  | error e => rw [generate_of_tasks_error _ hr]
  | ok bundles =>
    rw [generate_of_tasks_ok _ hr, h]
    cases hc : (b.coreReport [] bundles).result with
    | error e => rw [writeCores_of_report_error _ hc]
    | ok codes =>
      rw [writeCores_of_report_ok _ hc]
      show ((Task.joinAll [] : StateM σ (Report (List Bundle))) _).2 = _
      rw [Task.joinAll, List.flatMap_nil, Job.joinAll, Job.schedule_of_wait (w := 0) (by simp)]
      rfl

theorem read?_slow : (pairRun loweringConfig (.reporting "") slowFirst).2.read? ⟨"dist/a.entry.js"⟩ = some "1" := by
  rw [pairRun, state_generate_of_no_cores _ _ rfl]
  show ((Job.joinAll [_, _, _, _] : StateM Store (List Answer)) _).2.read? _ = _
  rw [Job.joinAll, Job.schedule_late rfl rfl rfl rfl]
  decide +kernel

theorem read?_prompt : (pairRun loweringConfig (.reporting "") {}).2.read? ⟨"dist/a.entry.js"⟩ = some "2" := by
  rw [pairRun, state_generate_of_no_cores _ _ rfl]
  show ((Job.joinAll [_, _, _, _] : StateM Store (List Answer)) _).2.read? _ = _
  rw [Job.joinAll, Job.schedule_of_wait (w := 0) (by decide)]
  decide +kernel

theorem read?_plain : (pairRun plainConfig (.reporting "") slowFirst).2.read? ⟨"dist/a.entry.js"⟩ = some "2" := by
  rw [pairRun, state_generate_of_no_cores _ _ rfl]
  show ((Job.joinAll [_, _, _, _] : StateM Store (List Answer)) _).2.read? _ = _
  rw [Job.joinAll, Job.schedule_of_wait (w := 0) (by decide)]
  decide +kernel

/-- Of two entries in one file the one stays whose stage answers later. So stages that report about all code
and return it, but differ in their time, may leave other files than each other and than no stages. -/
theorem slow_report :
    (¬ ∀ (config : Config) (stages stages' : Stages) (early late early' late' : Delays) (modules : List EntryModule)
        (artifacts : List Artifact) (s : Store), stages.Agree stages' →
      let run := fun (stages : Stages) (early late : Delays) =>
        ((Build.standard config stages (Store.fileSystem fun _ => false) Literal.defaultThreshold).timed
          early late).generate modules artifacts s
      ∀ p, (run stages early late).2.read? p = (run stages' early' late').2.read? p) ∧
    ¬ ∀ (config : Config) (stages : Stages) (early late : Delays) (modules : List EntryModule)
        (artifacts : List Artifact) (s : Store), stages.AlwaysReport →
      let run := fun (config : Config) =>
        ((Build.standard config stages (Store.fileSystem fun _ => false) Literal.defaultThreshold).timed
          early late).generate modules artifacts s
      ∀ p, (run config).2.read? p = (run { config with target := .es2017, minify := false }).2.read? p := by
  constructor
  · intro h
    have hread := h loweringConfig (.reporting "") (.reporting "") slowFirst {} {} {} (Build.pairModules "a.b")
      (Build.pairArtifacts "a.b") {} (Stages.reporting_agree "" "") ⟨"dist/a.entry.js"⟩
    exact absurd (read?_slow.symm.trans (hread.trans read?_prompt)) (by decide)
  · intro h
    have hread := h loweringConfig (.reporting "") slowFirst {} (Build.pairModules "a.b") (Build.pairArtifacts "a.b") {}
      (Stages.reporting_alwaysReport "") ⟨"dist/a.entry.js"⟩
    exact absurd (read?_slow.symm.trans (hread.trans read?_plain)) (by decide)

end TimedBuild

end LazyBundle
