import LazyBundle.Proofs.DiskFiles
import LazyBundle.Proofs.Replay
import LazyBundle.Proofs.StoredWrites

/-!
# Builds without refusals

A build in which no write is refused goes as one into a store does. It reports the
same (`generate_unrefused`), and the store gets what the journal of the build lists
(`rehearsal_writes`). On a disk these writes lead from the first state to the last
(`diskWrites_generate`).
-/

namespace LazyBundle

/-! ## Writes of a journal -/

def Call.write? : Call → Option (Path × String)
  | .file path content => some (path, content)
  | .entry .. => none

def Journal.writes {σ : Type} (j : Journal σ) : List (Path × String) :=
  j.calls.filterMap Call.write?

def Journal.Unrefused {σ : Type} (j : Journal σ) : Prop :=
  ∀ t ∈ j.attempts, t.refusal = none

instance {σ : Type} (j : Journal σ) : Decidable j.Unrefused :=
  inferInstanceAs (Decidable (∀ t ∈ j.attempts, t.refusal = none))

namespace Step

def write? : Step → Option (Path × String)
  | .absent _ => none
  | .write path content => some (path, content)

section unrefused

variable {σ : Type} {fs : FileSystem (StateM σ)} {j : Journal σ}

theorem writes_runAll (steps : List Step) :
    (runAll fs.recorded steps j).2.writes = j.writes ++ steps.filterMap write? := by
  have hwrite : (fun step : Step => step.call?.bind Call.write?) = write? := by
    funext step
    cases step <;> rfl
  rw [Journal.writes, calls_runAll, List.filterMap_append, List.filterMap_filterMap, hwrite]
  rfl

/-- What has been granted in the end has been granted before. -/
theorem unrefused_of_runAll {steps : List Step} (h : (runAll fs.recorded steps j).2.Unrefused) : j.Unrefused := by
  obtain ⟨ks, hattempts, -⟩ := attempts_runAll fs steps j
  intro t ht
  refine h t ?_
  rw [hattempts]
  exact List.mem_append_left _ ht

theorem run_unrefused {step : Step} (h : (run fs.recorded step j).2.Unrefused) (s : Store) :
    (run fs.recorded step j).1 = (run (Store.fileSystem fun _ => false) step s).1 := by
  cases step with
  | absent e => rfl
  | write p content =>
    have hlast := h ⟨.file p content, refusalOf (fs.write p content j.state).1⟩
      (List.mem_append_right _ (List.mem_singleton_self _))
    obtain ⟨u, hu⟩ := refusalOf_eq_none_iff.mp hlast
    show ((fs.write p content j.state).1).mapError BuildError.write = _
    rw [hu]
    rfl

/-- The outcome is what it would be where nothing is refused. -/
theorem runAll_unrefused {steps : List Step} (h : (runAll fs.recorded steps j).2.Unrefused) (s : Store) :
    (runAll fs.recorded steps j).1 = (runAll (Store.fileSystem fun _ => false) steps s).1 := by
  induction steps generalizing j s with
  | nil => rfl
  | cons step steps ih =>
    rw [runAll_cons] at h
    rw [runAll_cons, runAll_cons, ih h, run_unrefused (unrefused_of_runAll h)]

/-- Steps that all write go well exactly when none of them is refused. -/
theorem runAll_eq_ok_iff {steps : List Step} (hwrites : ∀ e, .absent e ∉ steps) (hj : j.Unrefused) :
    (runAll fs.recorded steps j).1 = .ok () ↔ (runAll fs.recorded steps j).2.Unrefused := by
  constructor
  · intro h
    obtain ⟨ks, hattempts, -, hgranted⟩ := attempts_runAll fs steps j
    intro t ht
    rw [hattempts, List.mem_append] at ht
    exact ht.elim (hj t) (hgranted h t)
  · intro h
    have hnone : steps.filterMap (failure? fun _ => false) = [] := by
      refine List.filterMap_eq_nil_iff.mpr fun step hs => ?_
      cases step with
      | absent e => exact absurd hs (hwrites e)
      | write p content => rfl
    have hfree := refusalOf_runAll (Store.fileSystem_refuses fun _ => false) steps {}
    rw [hnone, ← runAll_unrefused h {}] at hfree
    obtain ⟨u, hu⟩ := refusalOf_eq_none_iff.mp hfree
    exact hu

end unrefused

theorem store_runAll (steps : List Step) (s : Store) :
    (runAll (Store.fileSystem fun _ => false) steps s).2 = s.writeAll (steps.filterMap write?) := by
  induction steps generalizing s with
  | nil => rfl
  | cons step steps ih =>
    rw [runAll_cons, ih]
    cases step <;> rfl

/-! ### On a disk -/

section disk

variable {d : Disk} {j : Journal Disk} (hj : d.Writes j.writes j.state)
include hj

theorem diskWrites_run {step : Step} (h : (run Disk.fileSystem.recorded step j).2.Unrefused) :
    let t := (run Disk.fileSystem.recorded step j).2
    d.Writes t.writes t.state := by
  intro t
  cases step with
  | absent e => exact hj
  | write p content =>
    have hlast := h ⟨.file p content, refusalOf (j.state.write p content).2⟩
      (List.mem_append_right _ (List.mem_singleton_self _))
    obtain ⟨u, hu⟩ := refusalOf_eq_none_iff.mp hlast
    have hwrites : t.writes = j.writes ++ [(p, content)] := by
      have ht : t.calls = j.calls ++ [.file p content] := List.map_append
      rw [Journal.writes, ht, List.filterMap_append]
      rfl
    rw [hwrites]
    exact hj.snoc (Prod.ext rfl hu)

/-- The writes of the journal lead from the first disk to the last one. -/
theorem diskWrites_runAll {steps : List Step} (h : (runAll Disk.fileSystem.recorded steps j).2.Unrefused) :
    let t := (runAll Disk.fileSystem.recorded steps j).2
    d.Writes t.writes t.state := by
  induction steps generalizing j with
  | nil => exact hj
  | cons step steps ih =>
    rw [runAll_cons] at h ⊢
    exact ih (diskWrites_run hj (unrefused_of_runAll h)) h

end disk

end Step

/-! ## Whole builds -/

namespace Build

open Step

/-- The same build into a store, which refuses nothing. -/
def rehearsal {m : Type → Type} (b : Build m) : Build (StateM Store) :=
  standard b.config b.host.stages (Store.fileSystem fun _ => false) b.host.threshold

section rehearsal

variable {m : Type → Type} (b : Build m)

@[simp] theorem rehearsal_moduleSteps (modules : List EntryModule) (classes : Classes) :
    b.rehearsal.moduleSteps modules classes = b.moduleSteps modules classes := rfl

@[simp] theorem rehearsal_coreSteps (cores : List Artifact) (codes : List String) :
    b.rehearsal.coreSteps cores codes = b.coreSteps cores codes := rfl

@[simp] theorem rehearsal_bundles (modules : List EntryModule) (classes : Classes) :
    b.rehearsal.bundles modules classes = b.bundles modules classes := rfl

@[simp] theorem rehearsal_moduleLog (modules : List EntryModule) (classes : Classes) :
    b.rehearsal.moduleLog modules classes = b.moduleLog modules classes := rfl

@[simp] theorem rehearsal_coreReport (cores : List Artifact) (bundles : List Bundle) :
    b.rehearsal.coreReport cores bundles = b.coreReport cores bundles :=
  b.rehearsal.coreReport_congr b rfl rfl rfl cores bundles

end rehearsal

section unrefused

variable {σ : Type} {fs : FileSystem (StateM σ)} {b : Build (StateM (Journal σ))} (hfiles : b.host.files = fs.recorded)
  {modules : List EntryModule} {artifacts cores : List Artifact} {bundles : List Bundle} {j : Journal σ}
include hfiles

theorem writeCores_unrefused (h : (b.writeCores cores bundles j).2.Unrefused) (s : Store) :
    (b.writeCores cores bundles j).1 = (b.rehearsal.writeCores cores bundles s).1 := by
  rw [writeCores_eq, ← result_coreReport, hfiles] at h ⊢
  rw [writeCores_eq, ← result_coreReport, rehearsal_coreReport]
  cases hr : (b.coreReport cores bundles).result with
  | error e => rfl
  | ok codes =>
    simp only [hr] at h
    simp only [map_apply]
    rw [runAll_unrefused h s]
    rfl

variable (hw : b.host.writer = .ofConfig b.config b.host.files)
include hw

theorem runAll_moduleSteps_unrefused (h : (b.generate modules artifacts j).2.Unrefused) (s : Store) :
    (runAll b.host.files (b.moduleSteps modules (classify artifacts)) j).1 =
      (runAll b.rehearsal.host.files (b.moduleSteps modules (classify artifacts)) s).1 := by
  rw [state_generate hw, hfiles, steps, runAll_append, bind_apply, map_apply] at h
  rw [hfiles]
  exact runAll_unrefused (unrefused_of_runAll h) s

/-- A build in which nothing is refused reports what its rehearsal does. -/
theorem generate_unrefused (h : (b.generate modules artifacts j).2.Unrefused) (s : Store) :
    (b.generate modules artifacts j).1 = (b.rehearsal.generate modules artifacts s).1 := by
  have houtcome := runAll_moduleSteps_unrefused hfiles hw h s
  rw [generate_eq b hw, bind_apply] at h ⊢
  rw [generate_eq b.rehearsal rfl, bind_apply, rehearsal_moduleSteps, ← houtcome]
  cases ho : (runAll b.host.files (b.moduleSteps modules (classify artifacts)) j).1 with
  | error e => rfl
  | ok u =>
    rw [ho] at h
    simp only [map_apply] at h ⊢
    rw [writeCores_unrefused hfiles h (runAll b.rehearsal.host.files (b.moduleSteps modules (classify artifacts)) s).2]
    rfl

/-- It also carries out the same steps. -/
theorem steps_unrefused (h : (b.generate modules artifacts j).2.Unrefused) (s : Store) :
    b.steps modules artifacts j = b.rehearsal.steps modules artifacts s := by
  have houtcome := runAll_moduleSteps_unrefused hfiles hw h s
  simp only [steps, readyCodes, houtcome, ← result_coreReport, rehearsal_moduleSteps, rehearsal_bundles,
    rehearsal_coreReport, rehearsal_coreSteps]

/-- The rehearsal leaves what the writes that were attempted leave in a store. -/
theorem rehearsal_writes (h : (b.generate modules artifacts ⟨j.state, []⟩).2.Unrefused) :
    (b.rehearsal.generate modules artifacts {}).2 =
      Store.writeAll {} (b.generate modules artifacts ⟨j.state, []⟩).2.writes := by
  have hsteps := steps_unrefused hfiles hw h {}
  rw [state_generate hw, hfiles, writes_runAll, state_generate (b := b.rehearsal) rfl, ← hsteps]
  exact store_runAll _ _

end unrefused

theorem diskWrites_generate {b : Build (StateM (Journal Disk))} (hfiles : b.host.files = Disk.fileSystem.recorded)
    (hw : b.host.writer = .ofConfig b.config b.host.files) {modules : List EntryModule} {artifacts : List Artifact}
    {d : Disk} (h : (b.generate modules artifacts ⟨d, []⟩).2.Unrefused) :
    let t := (b.generate modules artifacts ⟨d, []⟩).2
    d.Writes t.writes t.state := by
  rw [state_generate hw, hfiles] at h ⊢
  exact diskWrites_runAll .nil h

end Build

end LazyBundle
