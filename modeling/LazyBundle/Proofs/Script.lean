import LazyBundle.Build.Basic
import LazyBundle.Proofs.Steps

/-!
# Builds as scripts

With the usual module writer a build carries out two lists of steps: that of the
entries and the chunks, and, if it went well and every core bundle has got its
code, that of the core bundles (`generate_eq`).
-/

namespace LazyBundle

/-! ## The steps of a build -/

theorem Build.sortOutputs_of_sorted {outputs : List ModeOutput}
    (h : outputs.Pairwise fun a b => a.modeName ≤ b.modeName) : sortOutputs outputs = outputs :=
  List.mergeSort_of_pairwise (h.imp fun h => by simpa using h)

def outputOf (config : Config) (entryKey code modeName : String) : ModeOutput where
  modeName := modeName
  bundleId := bundleId config entryKey code modeName
  fileName := entryFileName (bundleId config entryKey code modeName)

def Stages.identity : Stages where
  transform code _ := ⟨code, []⟩
  optimize code _ := ⟨some code, []⟩

namespace Build

variable {m : Type → Type} [Monad m]

def standard (config : Config) (stages : Stages) (files : FileSystem m) (threshold : Nat) : Build m where
  config := config
  host := { stages, files, writer := .ofConfig config files, threshold }

def outputs (b : Build m) (e : Entry) : List ModeOutput :=
  e.entryModule.modeNames.map (outputOf b.config e.entryModule.entryKey e.code)

def stepsOf (b : Build m) : Except BuildError Entry → List Step
  | .error e => [.absent e]
  | .ok e => (b.outputs e).flatMap fun o => Step.copies b.config.destinations e.code o.fileName

def bundleIfPrepared (b : Build m) : Except BuildError Entry → Bundle
  | .error _ => default
  | .ok e => ⟨e.entryModule.entryKey, e.entryModule.modeNames, e.entryModule.components,
      sortOutputs (b.outputs e)⟩

def chunkSteps (b : Build m) (a : Artifact) : List Step :=
  Step.copies b.config.destinations (b.finish a.code).code a.fileName

def moduleSteps (b : Build m) (modules : List EntryModule) (classes : Classes) : List Step :=
  (classes.entries.flatMap fun a => b.stepsOf (b.prepare modules a).1) ++ classes.chunks.flatMap b.chunkSteps

def bundles (b : Build m) (modules : List EntryModule) (classes : Classes) : List Bundle :=
  classes.entries.map fun a => b.bundleIfPrepared (b.prepare modules a).1

def moduleLog (b : Build m) (modules : List EntryModule) (classes : Classes) : Log :=
  classes.entries.flatMap (fun a => (b.prepare modules a).2) ++
    classes.chunks.flatMap fun a => (b.finish a.code).diagnostics

def coreSteps (b : Build m) (cores : List Artifact) (codes : List String) : List Step :=
  (cores.zip codes).flatMap fun c => Step.copies b.config.destinations (b.finish c.2).code c.1.fileName

/-! ## The jobs of a build -/

def prepared (b : Build m) (modules : List EntryModule) (entries : List Artifact) : List (Except BuildError Entry) :=
  entries.map fun a => (b.prepare modules a).1

def modesOf : Except BuildError Entry → List (Entry × String)
  | .error _ => []
  | .ok e => e.entryModule.modeNames.map (e, ·)

def modeJob (b : Build m) (p : Entry × String) : Job m (Except WriteError ModeOutput) :=
  ⟨b.host.writer.wait p.2, b.host.writer.write b.config.destinations p.1.entryModule p.1.code p.2⟩

def chunkJob (b : Build m) (a : Artifact) : Job m (Except WriteError Unit) :=
  ⟨0, b.writeFile (b.finish a.code).code a.fileName⟩

omit [Monad m] in
theorem jobsOf_eq (b : Build m) (p : Except BuildError Entry) : b.jobsOf p = (modesOf p).map b.modeJob := by
  cases p with
  | error e => rfl
  | ok e => rw [jobsOf, modeJobs, modesOf, List.map_map]; rfl

/-- The report on entries and chunks, from what has come of their jobs. -/
def moduleReport (b : Build m) (modules : List EntryModule) (classes : Classes)
    (outcomes : List (List (Except WriteError ModeOutput)) × List (Except WriteError Unit)) :
    Report (List Bundle) where
  result := (collect (List.zipWith bundleOf (b.prepared modules classes.entries) outcomes.1)).bind fun bs =>
    ((collect outcomes.2).mapError BuildError.write).map fun _ => bs
  log := b.moduleLog modules classes

theorem writeModules_eq_joinGroups [LawfulMonad m] (b : Build m) (modules : List EntryModule) (classes : Classes) :
    b.writeModules modules classes = b.moduleReport modules classes <$>
      Job.joinGroups (((b.prepared modules classes.entries).map modesOf).map (·.map b.modeJob))
        (classes.chunks.map b.chunkJob) := by
  rw [writeModules, map_eq_pure_bind]
  simp only [prepared, moduleReport, moduleLog, List.map_map, Function.comp_def, jobsOf_eq, List.zipWith_map_left,
    List.flatMap_map]
  rfl

theorem writeEntry_eq_joinAll [LawfulMonad m] (b : Build m) (modules : List EntryModule) (a : Artifact) :
    b.writeEntry modules a =
      (fun outcomes => { result := bundleOf (b.prepare modules a).1 outcomes, log := (b.prepare modules a).2 }) <$>
        Job.joinAll ((modesOf (b.prepare modules a).1).map b.modeJob) := by
  rw [writeEntry, map_eq_pure_bind, ← jobsOf_eq]

omit [Monad m] in
theorem moduleReport_ok {b : Build m} {modules : List EntryModule} {classes : Classes}
    {outcomes : List (List (Except WriteError ModeOutput)) × List (Except WriteError Unit)} {bundles : List Bundle}
    (h : (b.moduleReport modules classes outcomes).result = .ok bundles) :
    collect (List.zipWith bundleOf (b.prepared modules classes.entries) outcomes.1) = .ok bundles ∧
      ∃ us, collect outcomes.2 = .ok us := by
  unfold moduleReport at h
  cases hes : collect (List.zipWith bundleOf (b.prepared modules classes.entries) outcomes.1) with
  | error e => rw [hes] at h; cases h
  | ok bundles' =>
    cases hcs : collect outcomes.2 with
    | error e => rw [hes, hcs] at h; cases h
    | ok us =>
      rw [hes, hcs] at h
      cases h
      exact ⟨rfl, us, rfl⟩

end Build

section lists

variable {α β γ δ : Type}

theorem map_zipWith_right (f : α → β → γ) (g : γ → δ) (h : β → δ) (hg : ∀ a b, g (f a b) = h b) {as : List α}
    {bs : List β} (hl : bs.length = as.length) : (List.zipWith f as bs).map g = bs.map h := by
  induction as generalizing bs with
  | nil => simp [List.length_eq_zero_iff.mp hl]
  | cons a as ih =>
    cases bs with
    | nil => rfl
    | cons b bs => simp [hg, ih (Nat.succ.inj hl)]

theorem flatMap_zipWith_left (f : α → β → γ) (g : γ → List δ) (h : α → List δ) (hg : ∀ a b, g (f a b) = h a)
    {as : List α} {bs : List β} (hl : bs.length = as.length) : (List.zipWith f as bs).flatMap g = as.flatMap h := by
  induction as generalizing bs with
  | nil => simp
  | cons a as ih =>
    cases bs with
    | nil => simp at hl
    | cons b bs => simp [hg, ih (Nat.succ.inj hl)]

end lists

section mapM

variable {m : Type → Type} [Monad m] [LawfulMonad m] {α β ι : Type}

theorem zipWith_mapM (f : ι → α → β) (x : ι → m α) (l : List ι) :
    (List.zipWith f l) <$> l.mapM x = l.mapM fun i => f i <$> x i := by
  induction l with
  | nil => simp
  | cons i l ih => simp [← ih]

end mapM

namespace Build

open Step

variable {m : Type → Type} [Monad m] [LawfulMonad m]

variable (b : Build m) (hw : b.host.writer = .ofConfig b.config b.host.files)
include hw

theorem runs_mode (e : EntryModule) (code mode : String) :
    Runs b.host.files ((·.mapError .write) <$> b.host.writer.write b.config.destinations e code mode)
      (Step.copies b.config.destinations code (outputOf b.config e.entryKey code mode).fileName)
      (outputOf b.config e.entryKey code mode) := by
  have h := runs_map b.host.files (fun _ => outputOf b.config e.entryKey code mode)
    (runs_writeAll b.host.files code (entryFileName (bundleId b.config e.entryKey code mode))
      b.config.destinations)
  rw [hw]
  simp only [ModuleWriter.ofConfig, ModuleWriter.named, map_eq_pure_bind, bind_assoc, pure_bind, mapError_map] at h ⊢
  exact h

theorem runs_entry (p : Except BuildError Entry) :
    Runs b.host.files (bundleOf p <$> ((modesOf p).map b.modeJob).mapM (·.run)) (b.stepsOf p)
      (b.bundleIfPrepared p) := by
  cases p with
  | error e =>
    have h := runs_absent b.host.files e (default : Bundle)
    simpa [modesOf, bundleOf, Except.bind, stepsOf, bundleIfPrepared] using h
  | ok e =>
    have h := runs_map b.host.files (fun outputs => Bundle.mk e.entryModule.entryKey e.entryModule.modeNames
        e.entryModule.components (sortOutputs outputs))
      (runs_mapM b.host.files fun mode (_ : mode ∈ e.entryModule.modeNames) =>
        b.runs_mode hw e.entryModule e.code mode)
    have hj : ((modesOf (.ok e)).map b.modeJob).mapM (·.run) = e.entryModule.modeNames.mapM fun mode =>
        b.host.writer.write b.config.destinations e.entryModule e.code mode := by
      rw [modesOf, List.map_map, List.mapM_map]; rfl
    have hb : ∀ outcomes, bundleOf (.ok e) outcomes = ((collect outcomes).mapError .write).map fun outputs =>
        ⟨e.entryModule.entryKey, e.entryModule.modeNames, e.entryModule.components, sortOutputs outputs⟩ := by
      intro outcomes
      simp only [bundleOf, Except.bind, Entry.bundle]
      cases collect outcomes <;> rfl
    rw [hj, stepsOf, outputs, bundleIfPrepared, outputs, List.flatMap_map]
    rw [Job.mapM_map_result] at h
    simp only [map_eq_pure_bind, bind_assoc, pure_bind, collect_map_mapError, hb] at h ⊢
    exact h

omit [LawfulMonad m] in
theorem wait_modeJobs (ps : List (Except BuildError Entry)) :
    ∀ g ∈ (ps.map modesOf).map (·.map b.modeJob), ∀ j ∈ g, j.wait = 0 := by
  intro g hg j hj
  obtain ⟨modes, -, rfl⟩ := List.mem_map.mp hg
  obtain ⟨p, -, rfl⟩ := List.mem_map.mp hj
  rw [modeJob, hw]
  rfl

theorem writeEntry_eq (modules : List EntryModule) (a : Artifact) :
    b.writeEntry modules a =
      (fun o => { result := o.map fun _ => b.bundleIfPrepared (b.prepare modules a).1
                  log := (b.prepare modules a).2 }) <$>
        runAll b.host.files (b.stepsOf (b.prepare modules a).1) := by
  have hwait : ∀ j ∈ (modesOf (b.prepare modules a).1).map b.modeJob, j.wait = 0 :=
    b.wait_modeJobs hw [(b.prepare modules a).1] _ List.mem_cons_self
  let report : Except BuildError Bundle → m (Report Bundle) := fun result =>
    pure { result, log := (b.prepare modules a).2 }
  rw [writeEntry_eq_joinAll, Job.joinAll_eq_mapM hwait, map_eq_pure_bind, map_eq_pure_bind]
  exact bind_of_runs b.host.files (b.runs_entry hw (b.prepare modules a).1) report

theorem writeModules_eq (modules : List EntryModule) (classes : Classes) :
    b.writeModules modules classes =
      (fun o => { result := o.map fun _ => b.bundles modules classes, log := b.moduleLog modules classes }) <$>
        runAll b.host.files (b.moduleSteps modules classes) := by
  let ps := b.prepared modules classes.entries
  have hentries := runs_mapM b.host.files (l := ps) fun p _ => b.runs_entry hw p
  have hchunks := runs_mapM b.host.files (l := classes.chunks) fun a _ =>
    runs_writeAll b.host.files (b.finish a.code).code a.fileName b.config.destinations
  rw [← zipWith_mapM, ← comp_map] at hentries
  rw [Job.mapM_map_result, ← comp_map] at hchunks
  let entries := ps.mapM fun p => ((modesOf p).map b.modeJob).mapM (·.run)
  let chunks := classes.chunks.mapM fun a => b.writeFile (b.finish a.code).code a.fileName
  let entrySteps := runAll b.host.files (ps.flatMap b.stepsOf)
  let chunkSteps := runAll b.host.files (classes.chunks.flatMap b.chunkSteps)
  let report : Except BuildError (List Bundle) → Except BuildError (List Unit) → m (Report (List Bundle)) :=
    fun bundles written =>
      pure { result := bundles.bind fun bs => written.map fun _ => bs, log := b.moduleLog modules classes }
  -- the jobs in the order of the list, then chunks and entries each turned into steps
  calc b.writeModules modules classes
    _ = entries >>= fun os => chunks >>= fun cs =>
          report (collect (List.zipWith bundleOf ps os)) (collect (cs.map (·.mapError .write))) := by
      rw [writeModules_eq_joinGroups, Job.joinGroups_eq (b.wait_modeJobs hw ps) (by simp [chunkJob])]
      simp only [List.mapM_map, map_eq_pure_bind, bind_assoc, pure_bind, collect_map_mapError]
      rfl
    _ = entries >>= fun os => chunkSteps >>= fun o' =>
          report (collect (List.zipWith bundleOf ps os)) (o'.map fun _ => classes.chunks.map fun _ => ()) :=
      bind_congr fun os => bind_of_runs b.host.files hchunks (report _)
    _ = entrySteps >>= fun o => chunkSteps >>= fun o' =>
          report (o.map fun _ => ps.map b.bundleIfPrepared) (o'.map fun _ => classes.chunks.map fun _ => ()) :=
      bind_of_runs b.host.files hentries fun bs =>
        chunkSteps >>= fun o' => report bs (o'.map fun _ => classes.chunks.map fun _ => ())
    _ = _ := by
      simp only [entrySteps, ps, prepared, List.flatMap_map, List.map_map]
      rw [moduleSteps, runAll_append]
      simp only [map_eq_pure_bind, bind_assoc, pure_bind]
      refine bind_congr fun o => bind_congr fun o' => ?_
      cases o <;> cases o' <;> rfl

omit hw in
theorem writeInjected_eq (cores : List Artifact) (codes : List String) :
    b.writeInjected cores codes =
      (fun o => { result := o, log := (cores.zip codes).flatMap fun c => (b.finish c.2).diagnostics }) <$>
        runAll b.host.files (b.coreSteps cores codes) := by
  have hcores := runs_mapM b.host.files (l := cores.zip codes) fun c _ =>
    runs_writeAll b.host.files (b.finish c.2).code c.1.fileName b.config.destinations
  rw [Job.mapM_map_result, ← comp_map] at hcores
  let report := fun (c : Artifact × String) (o : Except WriteError Unit) =>
    ({ result := o.mapError .write, log := (b.finish c.2).diagnostics } : Report Unit)
  let writes := (cores.zip codes).mapM fun c => b.writeFile (b.finish c.2).code c.1.fileName
  calc b.writeInjected cores codes
    _ = writes >>= fun os => pure
          { result := (collect ((List.zipWith report (cores.zip codes) os).map (·.result))).map fun _ => (),
            log := (List.zipWith report (cores.zip codes) os).flatMap (·.log) } := by
      have hr : (cores.zip codes).mapM (fun c => b.writeChunk c.2 c.1.fileName) =
          List.zipWith report (cores.zip codes) <$> writes := by
        rw [zipWith_mapM]
        simp only [writeChunk, map_eq_pure_bind, report]
      rw [writeInjected, hr]
      simp only [map_eq_pure_bind, bind_assoc, pure_bind]
    _ = writes >>= fun os => pure
          { result := (collect (os.map (·.mapError .write))).map fun _ => (),
            log := (cores.zip codes).flatMap fun c => (b.finish c.2).diagnostics } := by
      refine Job.mapM_bind_congr _ _ fun os hos => ?_
      have h1 := map_zipWith_right report (·.result) (·.mapError .write) (fun _ _ => rfl) hos
      have h2 := flatMap_zipWith_left report (·.log) (fun c => (b.finish c.2).diagnostics) (fun _ _ => rfl) hos
      rw [h1, h2]
    _ = _ := by
      rw [map_eq_pure_bind]
      refine (bind_of_runs b.host.files hcores fun o => pure
        ({ result := o.map fun _ => (),
           log := (cores.zip codes).flatMap fun c => (b.finish c.2).diagnostics } : Report Unit)).trans ?_
      exact bind_congr fun o => by cases o <;> rfl

/-- The code of every core bundle with the data in it, or why there is none. -/
def coreCodes (b : Build m) (cores : List Artifact) (bundles : List Bundle) :
    Except BuildError (List String) :=
  match Bundle.lazyData b.host.threshold b.config.defaultMode bundles with
  | .error entryKey => .error (.emptyBundle entryKey)
  | .ok data => (b.injectAll data cores).result

omit hw [Monad m] [LawfulMonad m] in
theorem result_coreReport (cores : List Artifact) (bundles : List Bundle) :
    (b.coreReport cores bundles).result = b.coreCodes cores bundles := by
  unfold coreReport coreCodes
  cases Bundle.lazyData b.host.threshold b.config.defaultMode bundles <;> rfl

omit hw in
/-- The core bundles are written when all of them have got their code. -/
theorem writeCores_eq (cores : List Artifact) (bundles : List Bundle) :
    b.writeCores cores bundles = match b.coreCodes cores bundles with
      | .error e => pure { result := .error e, log := (b.coreReport cores bundles).log,
                           unplaced := (b.coreReport cores bundles).unplaced }
      | .ok codes => (fun o =>
          { result := o
            log := (b.coreReport cores bundles).log ++ (cores.zip codes).flatMap fun c => (b.finish c.2).diagnostics
            unplaced := (b.coreReport cores bundles).unplaced }) <$>
          runAll b.host.files (b.coreSteps cores codes) := by
  rw [← result_coreReport]
  unfold writeCores coreReport
  cases Bundle.lazyData b.host.threshold b.config.defaultMode bundles with
  | error entryKey => rfl
  | ok data =>
    simp only
    cases (b.injectAll data cores).result with
    | error e => rfl
    | ok codes => simp only [writeInjected_eq, map_eq_pure_bind, bind_assoc, pure_bind]

omit hw in
theorem writeCores_error {cores : List Artifact} {bundles : List Bundle} {e : BuildError}
    (h : b.coreCodes cores bundles = .error e) :
    ∃ r : Report Unit, r.result = .error e ∧ b.writeCores cores bundles = pure r := by
  rw [writeCores_eq, h]
  exact ⟨_, rfl, rfl⟩

omit hw in
theorem writeCores_ok {cores : List Artifact} {bundles : List Bundle} {codes : List String}
    (h : b.coreCodes cores bundles = .ok codes) :
    ∃ report : Except BuildError Unit → Report Unit, (∀ o, (report o).result = o) ∧
      b.writeCores cores bundles = report <$> runAll b.host.files (b.coreSteps cores codes) := by
  rw [writeCores_eq, h]
  exact ⟨_, fun _ => rfl, rfl⟩

theorem generate_eq (modules : List EntryModule) (artifacts : List Artifact) :
    b.generate modules artifacts =
      runAll b.host.files (b.moduleSteps modules (classify artifacts)) >>= fun
        | .error e => pure { result := .error e, log := b.moduleLog modules (classify artifacts) }
        | .ok () => (fun second =>
            { result := second.result.map fun _ => b.bundles modules (classify artifacts)
              log := b.moduleLog modules (classify artifacts) ++ second.log
              unplaced := second.unplaced }) <$>
            b.writeCores (classify artifacts).cores (b.bundles modules (classify artifacts)) := by
  rw [generate, writeModules_eq b hw]
  simp only [map_eq_pure_bind, bind_assoc, pure_bind]
  exact bind_congr fun o => by cases o <;> rfl

end Build

/-! ## The two phases of a build -/

namespace Build

open Step

variable {σ : Type} {b : Build (StateM σ)} {modules : List EntryModule} {artifacts : List Artifact} {s : σ}

theorem codes_of_writeCores {cores : List Artifact} {bundles : List Bundle}
    (h : (b.writeCores cores bundles s).1.result = .ok ()) : ∃ codes, b.coreCodes cores bundles = .ok codes := by
  cases hc : b.coreCodes cores bundles with
  | error e =>
    obtain ⟨r, hr, hcores⟩ := b.writeCores_error hc
    rw [hcores] at h
    cases hr.symm.trans h
  | ok codes => exact ⟨codes, rfl⟩

theorem generate_of_modules_error {e : BuildError}
    (h : (b.writeModules modules (classify artifacts) s).1.result = .error e) :
    b.generate modules artifacts s =
      let first := b.writeModules modules (classify artifacts) s
      ({ result := .error e, log := first.1.log }, first.2) := by
  rw [generate, bind_apply]
  simp only [h]
  rfl

theorem generate_of_modules_ok {bundles : List Bundle}
    (h : (b.writeModules modules (classify artifacts) s).1.result = .ok bundles) :
    b.generate modules artifacts s =
      let first := b.writeModules modules (classify artifacts) s
      let second := b.writeCores (classify artifacts).cores bundles first.2
      ({ result := second.1.result.map fun _ => bundles, log := first.1.log ++ second.1.log,
         unplaced := second.1.unplaced }, second.2) := by
  rw [generate, bind_apply]
  simp only [h]
  rfl

/-- A build that succeeds has succeeded in both phases. -/
theorem generate_phases {bundles : List Bundle} (h : (b.generate modules artifacts s).1.result = .ok bundles) :
    let first := b.writeModules modules (classify artifacts) s
    let second := b.writeCores (classify artifacts).cores bundles first.2
    first.1.result = .ok bundles ∧ second.1.result = .ok () ∧ (b.generate modules artifacts s).2 = second.2 := by
  intro first second
  cases hm : first.1.result with
  | error e =>
    rw [generate_of_modules_error hm] at h
    cases h
  | ok bundles' =>
    let second' := b.writeCores (classify artifacts).cores bundles' first.2
    have hresult : Except.ok bundles = second'.1.result.map fun _ => bundles' :=
      h.symm.trans (congrArg (·.1.result) (generate_of_modules_ok hm))
    have hstate : (b.generate modules artifacts s).2 = second'.2 := congrArg Prod.snd (generate_of_modules_ok hm)
    cases hc : second'.1.result with
    | error e => rw [hc] at hresult; cases hresult
    | ok u =>
      rw [hc] at hresult
      cases hresult
      exact ⟨rfl, hc, hstate⟩

end Build

/-! ## Builds that succeed -/

namespace Build

open Step

variable {m : Type → Type} (b : Build m)

theorem prepare_ok {modules : List EntryModule} {a : Artifact} {e : Entry} (h : (b.prepare modules a).1 = .ok e) :
    a.entryKey.bind (EntryModule.find? modules) = some e.entryModule ∧ e.code = (b.finish a.code).code := by
  unfold prepare at h
  split at h
  · cases h
  · rename_i hf
    cases h
    exact ⟨hf, rfl⟩

theorem prepare_of_found {modules : List EntryModule} {a : Artifact} {e : EntryModule}
    (h : a.entryKey.bind (EntryModule.find? modules) = some e) :
    b.prepare modules a = (.ok ⟨e, (b.finish a.code).code⟩, (b.finish a.code).diagnostics) := by
  rw [prepare, h]

theorem outputs_perm (e : Entry) :
    (b.bundleIfPrepared (.ok e)).outputs.Perm
      (e.entryModule.modeNames.map (outputOf b.config e.entryModule.entryKey e.code)) :=
  List.mergeSort_perm _ _

theorem stepsOf_artifact (modules : List EntryModule) (a : Artifact) :
    b.stepsOf (b.prepare modules a).1 =
      match a.entryKey.bind (EntryModule.find? modules) with
      | none => [.absent (.missingEntryModule a.fileName a.entryKey)]
      | some e => e.modeNames.flatMap fun mode =>
          copies b.config.destinations (b.finish a.code).code
            (entryFileName (bundleId b.config e.entryKey (b.finish a.code).code mode)) := by
  rw [prepare]
  cases a.entryKey.bind (EntryModule.find? modules) with
  | none => rfl
  | some e => exact List.flatMap_map ..

/-- Data that are not empty are put in exactly when there is a placeholder. -/
theorem inject_of_data {data : String} (hdata : data.isEmpty = false) (code : String) :
    (∃ code', inject code data = .replaced code') ∧ placeholder.toList <:+: code.toList ∨
      inject code data = .missing code ∧ ¬ placeholder.toList <:+: code.toList := by
  unfold inject
  cases hs : Text.splitFirst placeholder.toList code.toList with
  | none => exact .inr ⟨rfl, Text.splitFirst_eq_none hs⟩
  | some parts =>
    have hin : placeholder.toList <:+: code.toList := by
      rw [← Text.contains_iff, Text.contains, hs]
      rfl
    refine .inl ⟨⟨_, if_neg ?_⟩, hin⟩
    simp [hdata]

theorem injectLazyData_ok {core : Artifact} {data code : String} (h : (b.injectLazyData core data).result = .ok code) :
    code = (inject core.code data).code ∧ (b.config.requirePlaceholder → hasPlaceholder core.code) := by
  unfold injectLazyData at h
  cases hi : inject core.code data with
  | replaced code' =>
    rw [hi] at h
    cases h
    refine ⟨rfl, fun _ => ?_⟩
    unfold inject at hi
    rw [hasPlaceholder, Text.contains]
    cases hs : Text.splitFirst placeholder.toList core.code.toList with
    | none => rw [hs] at hi; cases hi
    | some parts => rfl
  | missing code' =>
    rw [hi] at h
    simp only at h
    split at h
    · cases h
    · rename_i hr
      cases h
      exact ⟨rfl, fun h => absurd h hr⟩

/-- Core bundles that all get code get what injection makes of theirs, and have a placeholder where
one is required. -/
theorem injectAll_ok {data : String} {cores : List Artifact} {codes : List String}
    (h : (b.injectAll data cores).result = .ok codes) :
    codes = cores.map (fun core => (inject core.code data).code) ∧
      (b.config.requirePlaceholder → ∀ core ∈ cores, hasPlaceholder core.code) := by
  induction cores generalizing codes with
  | nil =>
    cases h
    exact ⟨rfl, by simp⟩
  | cons core cores ih =>
    rw [injectAll] at h
    cases hc : (b.injectLazyData core data).result with
    | error e => rw [hc] at h; cases h
    | ok code =>
      rw [hc] at h
      simp only at h
      cases hr : (b.injectAll data cores).result with
      | error e => rw [hr] at h; cases h
      | ok rest =>
        rw [hr] at h
        cases h
        obtain ⟨rfl, hplace⟩ := b.injectLazyData_ok hc
        obtain ⟨rfl, hplaces⟩ := ih hr
        exact ⟨rfl, fun hq => List.forall_mem_cons.mpr ⟨hplace hq, hplaces hq⟩⟩

theorem injectAll_congr {m' : Type → Type} (b' : Build m')
    (h : b.config.requirePlaceholder = b'.config.requirePlaceholder) (data : String) (cores : List Artifact) :
    b.injectAll data cores = b'.injectAll data cores := by
  induction cores with
  | nil => rfl
  | cons core cores ih =>
    have hfirst : b.injectLazyData core data = b'.injectLazyData core data := by
      unfold injectLazyData
      rw [h]
    rw [injectAll, injectAll, hfirst, ih]

theorem coreReport_congr {m' : Type → Type} (b' : Build m') (hthreshold : b.host.threshold = b'.host.threshold)
    (hmode : b.config.defaultMode = b'.config.defaultMode)
    (hplaceholder : b.config.requirePlaceholder = b'.config.requirePlaceholder) (cores : List Artifact)
    (bundles : List Bundle) : b.coreReport cores bundles = b'.coreReport cores bundles := by
  unfold coreReport
  rw [hthreshold, hmode]
  cases Bundle.lazyData b'.host.threshold b'.config.defaultMode bundles with
  | error entryKey => rfl
  | ok data => exact b.injectAll_congr b' hplaceholder data cores

theorem coreCodes_ok {cores : List Artifact} {bundles : List Bundle} {codes : List String}
    (h : b.coreCodes cores bundles = .ok codes) :
    ∃ data, Bundle.lazyData b.host.threshold b.config.defaultMode bundles = .ok data ∧
      codes = cores.map (fun core => (inject core.code data).code) ∧
      (b.config.requirePlaceholder → ∀ core ∈ cores, hasPlaceholder core.code) := by
  unfold coreCodes at h
  cases hd : Bundle.lazyData b.host.threshold b.config.defaultMode bundles with
  | error key => rw [hd] at h; cases h
  | ok data =>
    rw [hd] at h
    exact ⟨data, rfl, b.injectAll_ok h⟩

section state

variable {σ : Type} {b : Build (StateM σ)} (hw : b.host.writer = .ofConfig b.config b.host.files)
  {modules : List EntryModule} {artifacts : List Artifact} {s : σ}

/-- The codes that core bundles get once the entries and the chunks are written, or why they get none. -/
def readyCodes (b : Build (StateM σ)) (modules : List EntryModule) (classes : Classes) (s : σ) :
    Except BuildError (List String) :=
  (runAll b.host.files (b.moduleSteps modules classes) s).1.bind fun _ =>
    b.coreCodes classes.cores (b.bundles modules classes)

theorem readyCodes_ok {classes : Classes} {codes : List String} (h : b.readyCodes modules classes s = .ok codes) :
    (runAll b.host.files (b.moduleSteps modules classes) s).1 = .ok () ∧
      b.coreCodes classes.cores (b.bundles modules classes) = .ok codes := by
  unfold readyCodes at h
  cases hm : (runAll b.host.files (b.moduleSteps modules classes) s).1 with
  | error e => rw [hm] at h; cases h
  | ok u => rw [hm] at h; exact ⟨rfl, h⟩

include hw

/-- Without codes for the core bundles a build ends with what the entries and the chunks leave. -/
theorem generate_of_error {e : BuildError} (h : b.readyCodes modules (classify artifacts) s = .error e) :
    (b.generate modules artifacts s).1.result = .error e ∧
      (b.generate modules artifacts s).2 = (runAll b.host.files (b.moduleSteps modules (classify artifacts)) s).2 := by
  unfold readyCodes at h
  rw [generate_eq b hw, bind_apply]
  cases hm : runAll b.host.files (b.moduleSteps modules (classify artifacts)) s with
  | mk o t =>
    rw [hm] at h
    cases o with
    | error e' =>
      cases h
      exact ⟨rfl, rfl⟩
    | ok u =>
      -- the report of the core bundles is the error, and nothing is written for them
      obtain ⟨r, hr, hcores⟩ := b.writeCores_error h
      simp only [hcores]
      refine ⟨?_, rfl⟩
      show r.result.map _ = _
      rw [hr]
      rfl

/-- With codes for the core bundles a build carries out all of its steps. -/
theorem generate_of_codes {codes : List String} (h : b.readyCodes modules (classify artifacts) s = .ok codes) :
    let steps := b.moduleSteps modules (classify artifacts) ++ b.coreSteps (classify artifacts).cores codes
    (b.generate modules artifacts s).1.result =
        (runAll b.host.files steps s).1.map (fun _ => b.bundles modules (classify artifacts)) ∧
      (b.generate modules artifacts s).2 = (runAll b.host.files steps s).2 := by
  intro steps
  obtain ⟨hm, hc⟩ := readyCodes_ok h
  obtain ⟨report, hreport, hcores⟩ := b.writeCores_ok hc
  rw [runAll_append, generate_eq b hw, bind_apply, bind_apply, map_apply, hm]
  constructor
  · simp only [map_apply, hcores, hreport]
    rfl
  · simp only [map_apply, hcores]

def steps (b : Build (StateM σ)) (modules : List EntryModule) (artifacts : List Artifact) (s : σ) : List Step :=
  b.moduleSteps modules (classify artifacts) ++ match b.readyCodes modules (classify artifacts) s with
    | .error _ => []
    | .ok codes => b.coreSteps (classify artifacts).cores codes

theorem state_generate :
    (b.generate modules artifacts s).2 = (runAll b.host.files (b.steps modules artifacts s) s).2 := by
  unfold steps
  cases h : b.readyCodes modules (classify artifacts) s with
  | error e => rw [(generate_of_error hw h).2, List.append_nil]
  | ok codes => rw [(generate_of_codes hw h).2]

/-- A build that succeeds has carried out all of its steps, and none of them has failed. -/
theorem generate_ok {bs : List Bundle} (h : (b.generate modules artifacts s).1.result = .ok bs) :
    bs = b.bundles modules (classify artifacts) ∧ ∃ codes, b.coreCodes (classify artifacts).cores bs = .ok codes ∧
      runAll b.host.files (b.moduleSteps modules (classify artifacts) ++
        b.coreSteps (classify artifacts).cores codes) s = (.ok (), (b.generate modules artifacts s).2) := by
  cases hr : b.readyCodes modules (classify artifacts) s with
  | error e =>
    rw [(generate_of_error hw hr).1] at h
    cases h
  | ok codes =>
    obtain ⟨h1, h2⟩ := generate_of_codes hw hr
    rw [h1] at h
    cases ho : (runAll b.host.files (b.moduleSteps modules (classify artifacts) ++
        b.coreSteps (classify artifacts).cores codes) s).1 with
    | error e => rw [ho] at h; cases h
    | ok u =>
      rw [ho] at h
      cases h
      exact ⟨rfl, codes, (readyCodes_ok hr).2, Prod.ext ho h2.symm⟩

theorem exists_prepared {bs : List Bundle} (h : (b.generate modules artifacts s).1.result = .ok bs) {a : Artifact}
    (ha : a ∈ (classify artifacts).entries) : ∃ e, (b.prepare modules a).1 = .ok e := by
  obtain ⟨-, codes, -, hrun⟩ := generate_ok hw h
  cases hp : (b.prepare modules a).1 with
  | ok e => exact ⟨e, rfl⟩
  | error e =>
    refine absurd ?_ (absent_notMem _ hrun e)
    refine List.mem_append_left _ (List.mem_append_left _ (List.mem_flatMap.mpr ⟨a, ha, ?_⟩))
    rw [hp, stepsOf]
    exact List.mem_singleton_self _

/-- A build all of whose steps go well succeeds, and leaves what the steps leave. -/
theorem generate_of_steps {t : σ} {codes : List String}
    (hc : b.coreCodes (classify artifacts).cores (b.bundles modules (classify artifacts)) = .ok codes)
    (hr : runAll b.host.files (b.moduleSteps modules (classify artifacts) ++
      b.coreSteps (classify artifacts).cores codes) s = (.ok (), t)) :
    (b.generate modules artifacts s).1.result = .ok (b.bundles modules (classify artifacts)) ∧
      (b.generate modules artifacts s).2 = t := by
  have hm : (runAll b.host.files (b.moduleSteps modules (classify artifacts)) s).1 = .ok () := by
    rw [runAll_append, bind_apply, map_apply] at hr
    cases hm : (runAll b.host.files (b.moduleSteps modules (classify artifacts)) s).1 with
    | error e => rw [hm] at hr; cases (Prod.mk.inj hr).1
    | ok u => rfl
  have hready : b.readyCodes modules (classify artifacts) s = .ok codes := by
    rw [readyCodes, hm]
    exact hc
  obtain ⟨h1, h2⟩ := generate_of_codes hw hready
  rw [hr] at h1 h2
  exact ⟨h1, h2⟩

end state

end Build

end LazyBundle
