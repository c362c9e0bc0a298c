import LazyBundle.Proofs.JoinedTasks

/-!
# Builds in time

With the usual module writer, a build none of whose calls takes time goes as a
plain build does (`generate_at_once`). Whatever time they take, where the file
system refuses some paths and no others, a build gives what the plain one gives,
with the same reports and the same steps, in the order of their times
(`generate_timed`).
-/

namespace LazyBundle

open Step

/-! ## Reports that differ in their logs -/

/-- Reports of one result, with related logs. -/
structure Report.Matches {α : Type} (R : Log → Log → Prop) (r r' : Report α) : Prop where
  result : r.result = r'.result
  log : R r.log r'.log
  unplaced : r.unplaced = r'.unplaced

/-! ## The steps of the core bundles -/

namespace Build

def coreStepsOf {m : Type → Type} (b : Build m) (cores : List Artifact) (bundles : List Bundle) : List Step :=
  match b.coreCodes cores bundles with
  | .error _ => []
  | .ok codes => b.coreSteps cores codes

theorem steps_eq {σ : Type} (b : Build (StateM σ)) (modules : List EntryModule) (artifacts : List Artifact) (s : σ) :
    b.steps modules artifacts s = b.moduleSteps modules (classify artifacts) ++
      match (runAll b.host.files (b.moduleSteps modules (classify artifacts)) s).1 with
      | .error _ => []
      | .ok () => b.coreStepsOf (classify artifacts).cores (b.bundles modules (classify artifacts)) := by
  unfold steps readyCodes coreStepsOf
  cases (runAll b.host.files (b.moduleSteps modules (classify artifacts)) s).1 <;> rfl

end Build

namespace TimedBuild

/-! ## The phases -/

section phases

variable {σ : Type} (b : TimedBuild (StateM σ)) {modules : List EntryModule} {artifacts : List Artifact} {s : σ}

theorem generate_of_tasks_error {e : BuildError}
    (h : (Task.joinAll (b.moduleTasks modules (classify artifacts)) s).1.result = .error e) :
    b.generate modules artifacts s =
      ({ result := .error e, log := (Task.joinAll (b.moduleTasks modules (classify artifacts)) s).1.log },
        (Task.joinAll (b.moduleTasks modules (classify artifacts)) s).2) := by
  unfold generate
  rw [bind_apply, h]
  rfl

theorem generate_of_tasks_ok {bundles : List Bundle}
    (h : (Task.joinAll (b.moduleTasks modules (classify artifacts)) s).1.result = .ok bundles) :
    let first := Task.joinAll (b.moduleTasks modules (classify artifacts)) s
    let second := b.writeCores (classify artifacts).cores bundles first.2
    b.generate modules artifacts s =
      ({ result := second.1.result.map fun _ => bundles, log := first.1.log ++ second.1.log,
         unplaced := second.1.unplaced }, second.2) := by
  unfold generate
  rw [bind_apply, h]
  rfl

variable {cores : List Artifact} {bundles : List Bundle}

theorem writeCores_of_report_error {e : BuildError} (h : (b.coreReport cores bundles).result = .error e) :
    b.writeCores cores bundles s =
      ({ result := .error e, log := (b.coreReport cores bundles).log,
         unplaced := (b.coreReport cores bundles).unplaced }, s) := by
  unfold writeCores
  rw [h]
  rfl

theorem writeCores_of_report_ok {codes : List String} (h : (b.coreReport cores bundles).result = .ok codes) :
    let written := Task.joinAll (b.coreTasks cores codes) s
    b.writeCores cores bundles s =
      ({ result := written.1.result.map fun _ => (), log := (b.coreReport cores bundles).log ++ written.1.log,
         unplaced := (b.coreReport cores bundles).unplaced }, written.2) := by
  unfold writeCores
  rw [h]
  rfl

end phases

variable {m : Type → Type}

/-! ## What the tasks do -/

section works

variable (b : Build m)

def fileWorks (code fileName : String) : List (List Step × List ModeOutput) :=
  b.config.destinations.map fun d => ([.write (d.join fileName) code], [])

def entryWorks (e : Build.Entry) : List (List Step × List ModeOutput) :=
  (b.outputs e).flatMap fun o => fileWorks b e.code o.fileName ++ [([], [o])]

def moduleWorks (modules : List EntryModule) (classes : Classes) : List (List Step × List Bundle) :=
  classes.entries.map (fun a => (b.stepsOf (b.prepare modules a).1, [b.bundleIfPrepared (b.prepare modules a).1])) ++
    classes.chunks.map fun a => (b.chunkSteps a, [])

def coreWorks (cores : List Artifact) (codes : List String) : List (List Step × List Bundle) :=
  (cores.zip codes).map fun c => (copies b.config.destinations (b.finish c.2).code c.1.fileName, [])

theorem steps_fileWorks (code fileName : String) :
    (fileWorks b code fileName).flatMap (·.1) = copies b.config.destinations code fileName := by
  rw [fileWorks, List.flatMap_map, copies, List.map_eq_flatMap]

theorem outputs_fileWorks (code fileName : String) : (fileWorks b code fileName).flatMap (·.2) = [] := by
  rw [fileWorks, List.flatMap_map]
  exact List.flatMap_eq_nil_iff.mpr fun _ _ => rfl

theorem steps_entryWorks (e : Build.Entry) : (entryWorks b e).flatMap (·.1) = b.stepsOf (.ok e) := by
  rw [entryWorks, List.flatMap_assoc, Build.stepsOf]
  refine List.flatMap_congr fun o _ => ?_
  rw [List.flatMap_append, steps_fileWorks]
  exact List.append_nil _

theorem outputs_entryWorks (e : Build.Entry) : (entryWorks b e).flatMap (·.2) = b.outputs e := by
  rw [entryWorks, List.flatMap_assoc]
  simp only [List.flatMap_append, outputs_fileWorks, List.nil_append, List.flatMap_singleton]
  exact List.flatMap_singleton' _

theorem steps_moduleWorks (modules : List EntryModule) (classes : Classes) :
    (moduleWorks b modules classes).flatMap (·.1) = b.moduleSteps modules classes := by
  rw [moduleWorks, List.flatMap_append, List.flatMap_map, List.flatMap_map, Build.moduleSteps]

theorem bundles_moduleWorks (modules : List EntryModule) (classes : Classes) :
    (moduleWorks b modules classes).flatMap (·.2) = b.bundles modules classes := by
  have hchunks : classes.chunks.flatMap (fun _ => ([] : List Bundle)) = [] := List.flatMap_eq_nil_iff.mpr fun _ _ => rfl
  rw [moduleWorks, List.flatMap_append, List.flatMap_map, List.flatMap_map, hchunks, List.append_nil, Build.bundles,
    List.map_eq_flatMap]

theorem steps_coreWorks (cores : List Artifact) (codes : List String) :
    (coreWorks b cores codes).flatMap (·.1) = b.coreSteps cores codes := by
  rw [coreWorks, List.flatMap_map, Build.coreSteps]

end works

/-- Work on numbered things in which the numbers have no part. -/
theorem forall₂_zipIdx {ι κ : Type} {f : ι → Nat → Task m} {works : ι → κ} {R : Task m → κ → Prop}
    (h : ∀ i n, R (f i n) (works i)) (l : List ι) (n : Nat) :
    List.Forall₂ R ((l.zipIdx n).map fun p => f p.1 p.2) (l.map works) := by
  induction l generalizing n with
  | nil => exact .nil
  | cons i l ih => exact .cons (h i n) (ih (n + 1))

section tasks

variable [Monad m]

theorem does_task {fs : FileSystem m} (delays : Delays) (place : Nat) (r : Ready) {calls : List (Job m Answer)}
    {works : List (List Step × List ModeOutput)} (h : List.Forall₂ (Job.Writes fs) calls works)
    (bundles : List ModeOutput → List Bundle) :
    (task delays place r calls bundles).Does fs (works.flatMap (·.1), bundles (works.flatMap (·.2))) := by
  refine .writes _ _ (List.forall₂_map_left_iff.mpr ?_)
  -- the time at which a call is made has no part in what it does
  refine List.forall₂_map_left_iff (f := Prod.fst) (R := Job.Writes fs) |>.mp ?_
  rwa [List.zipIdx_map_fst]

variable [LawfulMonad m] (b : Build m)

theorem writes_writeCalls (code fileName : String) :
    List.Forall₂ (Job.Writes b.host.files) (b.writeCalls code fileName) (fileWorks b code fileName) := by
  rw [Build.writeCalls, fileWorks, List.forall₂_map_left_iff, List.forall₂_map_right_iff, List.forall₂_same]
  intro d _
  have h := runs_map b.host.files (fun _ => ([] : List ModeOutput)) (runs_write b.host.files (d.join fileName) code)
  rw [Job.Writes, ← comp_map]
  rw [← comp_map] at h
  refine Eq.trans ?_ h
  congr 1
  funext o
  exact mapError_map _ _ o

theorem writes_entryCalls (e : Build.Entry) :
    List.Forall₂ (Job.Writes b.host.files) (e.entryModule.modeNames.flatMap (b.destinationCalls e))
      (entryWorks b e) := by
  rw [entryWorks, Build.outputs, List.flatMap_map]
  induction e.entryModule.modeNames with
  | nil => exact .nil
  | cons mode modes ih =>
    let output := outputOf b.config e.entryModule.entryKey e.code mode
    have hknown : Job.Writes b.host.files ⟨0, pure (.ok [output])⟩ ([], [output]) := by
      rw [Job.Writes, map_pure]
      exact runs_nil b.host.files [output]
    exact List.rel_append (List.rel_append (writes_writeCalls b _ _) (.cons hknown .nil)) ih

theorem does_fileTask (delays : Delays) (place : Nat) (code fileName : String) :
    (fileTask b delays place code fileName).Does b.host.files
      (copies b.config.destinations (b.finish code).code fileName, []) := by
  have h := does_task delays place (ready b delays place code)
    (writes_writeCalls b (ready b delays place code).code fileName) fun _ => []
  rw [steps_fileWorks] at h
  exact h

theorem does_entryTask (early late : Delays) (modules : List EntryModule) (place : Nat) (a : Artifact) :
    ((b.timed early late).entryTask modules place a).Does b.host.files
      (b.stepsOf (b.prepare modules a).1, [b.bundleIfPrepared (b.prepare modules a).1]) := by
  unfold entryTask
  cases ha : a.entryKey.bind (EntryModule.find? modules) with
  | none =>
    rw [Build.prepare, ha]
    exact .absent _ _ _
  | some e =>
    rw [b.prepare_of_found ha]
    have h := does_task early place (ready b early place a.code)
      (writes_entryCalls b ⟨e, (ready b early place a.code).code⟩)
      fun outputs => [⟨e.entryKey, e.modeNames, e.components, Build.sortOutputs outputs⟩]
    rw [steps_entryWorks, outputs_entryWorks] at h
    exact h

theorem does_moduleTasks (early late : Delays) (modules : List EntryModule) (classes : Classes) :
    List.Forall₂ (Task.Does b.host.files) ((b.timed early late).moduleTasks modules classes)
      (moduleWorks b modules classes) := by
  refine List.rel_append ?_ ?_
  · exact forall₂_zipIdx (fun a place => does_entryTask b early late modules place a) classes.entries 0
  · exact forall₂_zipIdx (fun (a : Artifact) place => does_fileTask b early place a.code a.fileName) classes.chunks
      classes.entries.length

theorem does_coreTasks (early late : Delays) (cores : List Artifact) (codes : List String) :
    List.Forall₂ (Task.Does b.host.files) ((b.timed early late).coreTasks cores codes) (coreWorks b cores codes) :=
  forall₂_zipIdx (fun (c : Artifact × String) place => does_fileTask b late place c.2 c.1.fileName) (cores.zip codes) 0

end tasks

/-! ## What the tasks report -/

section reports

variable (b : Build m)

theorem reports_ready (delays : Delays) (place : Nat) (code : String) :
    (ready b delays place code).reports.flatMap (·.2) = (b.finish code).diagnostics := by
  simp [ready, Build.finish, Stages.finish]

theorem reports_numbered {ι : Type} {f : ι → Nat → Task m} {log : ι → Log}
    (h : ∀ i n, (f i n).reports.flatMap (·.2) = log i) (l : List ι) (n : Nat) :
    (((l.zipIdx n).map fun p => f p.1 p.2).flatMap (·.reports)).flatMap (·.2) = l.flatMap log := by
  induction l generalizing n with
  | nil => rfl
  | cons i l ih => rw [List.zipIdx_cons, List.map_cons, List.flatMap_cons, List.flatMap_append, h, ih, List.flatMap_cons]

variable [Monad m] (early late : Delays)

theorem reports_entryTask (modules : List EntryModule) (place : Nat) (a : Artifact) :
    ((b.timed early late).entryTask modules place a).reports.flatMap (·.2) = (b.prepare modules a).2 := by
  unfold entryTask
  cases ha : a.entryKey.bind (EntryModule.find? modules) with
  | none => rw [Build.prepare, ha]; rfl
  | some e =>
    rw [b.prepare_of_found ha]
    exact reports_ready b early place a.code

theorem reports_moduleTasks (modules : List EntryModule) (classes : Classes) :
    (((b.timed early late).moduleTasks modules classes).flatMap (·.reports)).flatMap (·.2) =
      b.moduleLog modules classes := by
  have hentries := reports_numbered (fun a place => reports_entryTask b early late modules place a) classes.entries 0
  have hchunks := reports_numbered (f := fun (a : Artifact) place => fileTask b early place a.code a.fileName)
    (fun a place => reports_ready b early place a.code) classes.chunks classes.entries.length
  rw [moduleTasks, List.flatMap_append, List.flatMap_append, hentries]
  exact congrArg _ hchunks

theorem reports_coreTasks (cores : List Artifact) (codes : List String) :
    (((b.timed early late).coreTasks cores codes).flatMap (·.reports)).flatMap (·.2) =
      (cores.zip codes).flatMap fun c => (b.finish c.2).diagnostics :=
  reports_numbered (f := fun (c : Artifact × String) place => fileTask b late place c.2 c.1.fileName)
    (fun c place => reports_ready b late place c.2) (cores.zip codes) 0

end reports

/-! ## At once -/

section atOnce

variable (b : Build m)

theorem atOnce_task (place : Nat) (code : String) {calls : List (Job m Answer)} (hcalls : ∀ call ∈ calls, call.wait = 0)
    (bundles : List ModeOutput → List Bundle) : (task {} place (ready b {} place code) calls bundles).AtOnce := by
  have htime : (ready b {} place code).time = 0 := by simp [ready]
  refine ⟨by simp [task, ready], fun call hcall => ?_⟩
  obtain ⟨p, hp, rfl⟩ := List.mem_map.mp hcall
  have hwait := hcalls p.1 (List.fst_mem_of_mem_zipIdx hp)
  simp [Job.after, htime, hwait]

variable [Monad m]

theorem wait_writeCalls (code fileName : String) : ∀ call ∈ b.writeCalls code fileName, call.wait = 0 := by
  intro call hcall
  obtain ⟨d, -, rfl⟩ := List.mem_map.mp hcall
  rfl

theorem atOnce_fileTask (place : Nat) (code fileName : String) : (fileTask b {} place code fileName).AtOnce :=
  atOnce_task b place code (wait_writeCalls b _ fileName) _

theorem atOnce_entryTask (late : Delays) (modules : List EntryModule) (place : Nat) (a : Artifact) :
    ((b.timed {} late).entryTask modules place a).AtOnce := by
  unfold entryTask
  cases a.entryKey.bind (EntryModule.find? modules) with
  | none => exact ⟨by simp, by simp⟩
  | some e =>
    refine atOnce_task b place a.code (fun call hcall => ?_) _
    obtain ⟨mode, -, hin⟩ := List.mem_flatMap.mp hcall
    rcases List.mem_append.mp hin with hin | hin
    · exact wait_writeCalls b _ _ call hin
    · obtain rfl := List.mem_singleton.mp hin
      rfl

variable [LawfulMonad m]

theorem joinAll_coreTasks_at_once (early : Delays) (cores : List Artifact) (codes : List String) :
    Task.joinAll ((b.timed early {}).coreTasks cores codes) =
      (fun o => { result := o.map fun _ => (coreWorks b cores codes).flatMap (·.2)
                  log := (cores.zip codes).flatMap fun c => (b.finish c.2).diagnostics }) <$>
        runAll b.host.files (b.coreSteps cores codes) := by
  have htimes : ∀ t ∈ (b.timed early {}).coreTasks cores codes, t.AtOnce := by
    intro t ht
    obtain ⟨p, -, rfl⟩ := List.mem_map.mp ht
    exact atOnce_fileTask b p.2 p.1.2 p.1.1.fileName
  rw [Task.joinAll_at_once (does_coreTasks b early {} cores codes) htimes, reports_coreTasks, steps_coreWorks]

theorem writeCores_at_once (early : Delays) (cores : List Artifact) (bundles : List Bundle) :
    (b.timed early {}).writeCores cores bundles = b.writeCores cores bundles := by
  rw [writeCores, b.writeCores_eq, ← b.result_coreReport]
  show (match (b.coreReport cores bundles).result with | .error _ => _ | .ok _ => _) = _
  cases (b.coreReport cores bundles).result with
  | error e => rfl
  | ok codes =>
    simp only [joinAll_coreTasks_at_once, map_eq_pure_bind, bind_assoc, pure_bind]
    refine bind_congr fun o => ?_
    cases o <;> rfl

variable (hw : b.host.writer = .ofConfig b.config b.host.files)
include hw

theorem joinAll_moduleTasks_at_once (late : Delays) (modules : List EntryModule) (classes : Classes) :
    Task.joinAll ((b.timed {} late).moduleTasks modules classes) = b.writeModules modules classes := by
  have htimes : ∀ t ∈ (b.timed {} late).moduleTasks modules classes, t.AtOnce := by
    intro t ht
    rcases List.mem_append.mp ht with ht | ht
    · obtain ⟨p, -, rfl⟩ := List.mem_map.mp ht
      exact atOnce_entryTask b late modules p.2 p.1
    · obtain ⟨p, -, rfl⟩ := List.mem_map.mp ht
      exact atOnce_fileTask b p.2 p.1.code p.1.fileName
  rw [Task.joinAll_at_once (does_moduleTasks b {} late modules classes) htimes, reports_moduleTasks,
    steps_moduleWorks, bundles_moduleWorks, b.writeModules_eq hw]

/-- A build whose calls take no time goes as the plain build. -/
theorem generate_at_once (modules : List EntryModule) (artifacts : List Artifact) :
    (b.timed {} {}).generate modules artifacts = b.generate modules artifacts := by
  rw [generate, Build.generate, joinAll_moduleTasks_at_once b hw]
  refine bind_congr fun first => ?_
  cases first.result with
  | error e => rfl
  | ok bundles => simp only [writeCores_at_once]

end atOnce

/-! ## In time -/

section inTime

variable {σ : Type} (b : Build (StateM σ)) {locked : Path → Bool} (hfs : b.host.files.Refuses locked)
  (early late : Delays)
include hfs

theorem joinAll_coreTasks_timed (cores : List Artifact) (codes : List String) (s s' : σ) :
    let written := Task.joinAll ((b.timed early late).coreTasks cores codes) s
    (written.1.result.map fun _ => ()) = (runAll b.host.files (b.coreSteps cores codes) s').1 ∧
      written.1.log.Perm ((cores.zip codes).flatMap fun c => (b.finish c.2).diagnostics) ∧
      ∃ order, order.Perm (b.coreSteps cores codes) ∧ written.2 = (runAll b.host.files order s).2 := by
  intro written
  obtain ⟨hresult, hstate⟩ := Task.joinAll_reordered (does_coreTasks b early late cores codes) hfs s
  rw [steps_coreWorks] at hresult hstate
  refine ⟨?_, ?_, hstate⟩
  · rw [hresult, result_runAll hfs _ s s']
    cases (runAll b.host.files (b.coreSteps cores codes) s').1 <;> rfl
  · exact (inTime_perm _).trans (.of_eq (reports_coreTasks b early late cores codes))

theorem writeCores_timed (cores : List Artifact) (bundles : List Bundle) (s s' : σ) :
    let timed := (b.timed early late).writeCores cores bundles s
    timed.1.Matches List.Perm (b.writeCores cores bundles s').1 ∧
      ∃ order, order.Perm (b.coreStepsOf cores bundles) ∧ timed.2 = (runAll b.host.files order s).2 := by
  intro timed
  rw [b.writeCores_eq, Build.coreStepsOf, ← b.result_coreReport]
  cases hr : (b.coreReport cores bundles).result with
  | error e =>
    unfold timed
    rw [writeCores_of_report_error _ hr]
    exact ⟨⟨rfl, .refl _, rfl⟩, [], .refl _, rfl⟩
  | ok codes =>
    obtain ⟨hresult, hlog, hstate⟩ := joinAll_coreTasks_timed b hfs early late cores codes s s'
    unfold timed
    rw [writeCores_of_report_ok _ hr]
    exact ⟨⟨hresult, hlog.append_left _, rfl⟩, hstate⟩

variable (hw : b.host.writer = .ofConfig b.config b.host.files)
include hw

theorem joinAll_moduleTasks_timed (modules : List EntryModule) (classes : Classes) (s : σ) :
    let first := Task.joinAll ((b.timed early late).moduleTasks modules classes) s
    first.1.result = (b.writeModules modules classes s).1.result ∧
      first.1.log.Perm (b.writeModules modules classes s).1.log ∧
      ∃ order, order.Perm (b.moduleSteps modules classes) ∧ first.2 = (runAll b.host.files order s).2 := by
  intro first
  obtain ⟨hresult, hstate⟩ := Task.joinAll_reordered (does_moduleTasks b early late modules classes) hfs s
  rw [steps_moduleWorks] at hresult hstate
  rw [bundles_moduleWorks] at hresult
  rw [b.writeModules_eq hw]
  exact ⟨hresult, (inTime_perm _).trans (.of_eq (reports_moduleTasks b early late modules classes)), hstate⟩

/-- Whatever time its calls take, a build gives what the plain build gives, with the reports and the steps in
some order. -/
theorem generate_timed (modules : List EntryModule) (artifacts : List Artifact) (s : σ) :
    let timed := (b.timed early late).generate modules artifacts s
    timed.1.Matches List.Perm (b.generate modules artifacts s).1 ∧
      ∃ order, order.Perm (b.steps modules artifacts s) ∧ timed.2 = (runAll b.host.files order s).2 := by
  intro timed
  let first := Task.joinAll ((b.timed early late).moduleTasks modules (classify artifacts)) s
  obtain ⟨hresult, hlog, order, horder, hstate⟩ :=
    joinAll_moduleTasks_timed b hfs early late hw modules (classify artifacts) s
  have houtcome : (b.writeModules modules (classify artifacts) s).1.result =
      (runAll b.host.files (b.moduleSteps modules (classify artifacts)) s).1.map fun _ =>
        b.bundles modules (classify artifacts) := by
    rw [b.writeModules_eq hw]
    rfl
  have hsteps := b.steps_eq modules artifacts s
  unfold timed
  cases ho : (runAll b.host.files (b.moduleSteps modules (classify artifacts)) s).1 with
  | error e =>
    rw [ho] at houtcome hsteps
    rw [generate_of_tasks_error _ (hresult.trans houtcome), Build.generate_of_modules_error houtcome, hsteps,
      List.append_nil]
    exact ⟨⟨rfl, hlog, rfl⟩, order, horder, hstate⟩
  | ok u =>
    rw [ho] at houtcome hsteps
    rw [generate_of_tasks_ok _ (hresult.trans houtcome), Build.generate_of_modules_ok houtcome, hsteps]
    obtain ⟨⟨hcores, hcoreLog, hunplaced⟩, coreOrder, hcoreOrder, hcoreState⟩ :=
      writeCores_timed b hfs early late (classify artifacts).cores (b.bundles modules (classify artifacts)) first.2
        (b.writeModules modules (classify artifacts) s).2
    refine ⟨⟨?_, hlog.append hcoreLog, hunplaced⟩, order ++ coreOrder, horder.append hcoreOrder, ?_⟩
    · exact congrArg (Except.map fun _ => b.bundles modules (classify artifacts)) hcores
    · rw [state_runAll_append, ← hstate]
      exact hcoreState

end inTime

end TimedBuild

end LazyBundle
