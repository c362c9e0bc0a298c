import LazyBundle.Proofs.EntryIds
import LazyBundle.Proofs.Following
import LazyBundle.Proofs.Siblings
import LazyBundle.Proofs.UnrefusedBuilds

/-!
# Files of the modes of an entry

An entry is written mode by mode, and its bundle has an output for each of them
(`outputs_perm`). With readable names the files of two outputs have the same name
exactly when the outputs are for the same mode, so the names are distinct when
the modes of the entry are (`readable_modes_apart`). Names are compared as texts:
a mode with slashes may spell the path of another one.
-/

namespace LazyBundle

/-! ## Names of files -/

section names

variable {config : Config} (hhash : config.hashFileNames = false) {key code : String}
include hhash

theorem fileName_outputOf_iff {mode mode' : String} :
    (outputOf config key code mode).fileName = (outputOf config key code mode').fileName ↔ mode = mode' := by
  have hname : ∀ mode, (outputOf config key code mode).fileName = entryFileName (bundleId config key code mode) :=
    fun _ => rfl
  rw [hname, hname, ← readable_bundleId_eq_iff hhash key code code mode mode']
  exact ⟨entryFileName_injective, congrArg _⟩

variable {modes : List String} {outputs : List ModeOutput} (h : outputs.Perm (modes.map (outputOf config key code)))
include h

theorem fileName_eq_iff {o o' : ModeOutput} (ho : o ∈ outputs) (ho' : o' ∈ outputs) :
    o.fileName = o'.fileName ↔ o.modeName = o'.modeName := by
  obtain ⟨mode, -, rfl⟩ := List.mem_map.mp (h.mem_iff.mp ho)
  obtain ⟨mode', -, rfl⟩ := List.mem_map.mp (h.mem_iff.mp ho')
  exact fileName_outputOf_iff hhash

theorem nodup_fileNames_iff : (outputs.map (·.fileName)).Nodup ↔ modes.Nodup := by
  have hinj : Function.Injective fun mode => (outputOf config key code mode).fileName :=
    fun _ _ => (fileName_outputOf_iff hhash).mp
  rw [(h.map (·.fileName)).nodup_iff, List.map_map]
  exact List.nodup_map_iff hinj

end names

namespace Build

open Step

/-! ## Writing an entry -/

section entry

variable {m : Type → Type} (b : Build m)

theorem absent_notMem_stepsOf (e : Entry) (cause : BuildError) : .absent cause ∉ b.stepsOf (.ok e) := by
  simp [stepsOf, copies]

variable [Monad m] [LawfulMonad m] {modules : List EntryModule} {a : Artifact} {e : EntryModule}

theorem writeEntry_of_found (hw : b.host.writer = .ofConfig b.config b.host.files)
    (hfound : a.entryKey.bind (EntryModule.find? modules) = some e) :
    b.writeEntry modules a =
      (fun o => { result := o.map fun _ => b.bundleIfPrepared (.ok ⟨e, (b.finish a.code).code⟩)
                  log := (b.finish a.code).diagnostics }) <$>
        runAll b.host.files (b.stepsOf (.ok ⟨e, (b.finish a.code).code⟩)) := by
  rw [writeEntry_eq b hw, b.prepare_of_found hfound]

end entry

section state

variable {σ : Type} {modules : List EntryModule} {a : Artifact} {e : EntryModule}

theorem writeEntry_ok {b : Build (StateM σ)} (hw : b.host.writer = .ofConfig b.config b.host.files)
    (hfound : a.entryKey.bind (EntryModule.find? modules) = some e) {s : σ} {bundle : Bundle}
    (h : (b.writeEntry modules a s).1.result = .ok bundle) :
    bundle = b.bundleIfPrepared (.ok ⟨e, (b.finish a.code).code⟩) := by
  rw [b.writeEntry_of_found hw hfound] at h
  obtain ⟨-, -, hbundle⟩ := map_eq_ok_iff.mp h
  exact hbundle.symm

variable {fs : FileSystem (StateM σ)} {b : Build (StateM (Journal σ))} (hfiles : b.host.files = fs.recorded)
  (hw : b.host.writer = .ofConfig b.config b.host.files) {j : Journal σ}
include hfiles hw

theorem calls_writeEntry : (b.writeEntry modules a j).2.calls = j.calls ++ b.entryFileCalls modules a := by
  rw [writeEntry_eq b hw, map_apply, hfiles, calls_runAll, calls_stepsOf]

theorem writeEntry_ok_iff (hfound : a.entryKey.bind (EntryModule.find? modules) = some e) (hj : j.Unrefused) :
    (∃ bundle, (b.writeEntry modules a j).1.result = .ok bundle) ↔ (b.writeEntry modules a j).2.Unrefused := by
  have hsteps := b.absent_notMem_stepsOf ⟨e, (b.finish a.code).code⟩
  rw [b.writeEntry_of_found hw hfound, map_apply, hfiles, ← runAll_eq_ok_iff hsteps hj]
  constructor
  · rintro ⟨bundle, h⟩
    obtain ⟨u, hu, -⟩ := map_eq_ok_iff.mp h
    exact hu
  · intro h
    exact ⟨_, map_eq_ok_iff.mpr ⟨(), h, rfl⟩⟩

end state

/-- With readable names the id of a mode depends on the key and the mode alone, and no two modes of a key
share one. An entry is written once for each mode and destination, and unless a write is refused its bundle
has an output for each mode, with a file name of its own. -/
theorem readable_modes_apart {σ : Type} (config : Config) (hhash : config.hashFileNames = false) :
    (∀ key code code' mode mode', bundleId config key code mode = bundleId config key code' mode' ↔ mode = mode') ∧
    ∀ (stages : Stages) (fs : FileSystem (StateM σ)) (threshold : Nat) (modules : List EntryModule) (a : Artifact)
        (e : EntryModule) (s : σ), a.entryKey.bind (EntryModule.find? modules) = some e →
      let b := standard config stages fs threshold
      let run := (standard config stages fs.recorded threshold).writeEntry modules a ⟨s, []⟩
      run.1 = (b.writeEntry modules a s).1 ∧
      run.2.calls = b.entryFileCalls modules a ∧
      ((∃ bundle, run.1.result = .ok bundle) ↔ run.2.Unrefused) ∧
      ∀ bundle, run.1.result = .ok bundle →
        bundle.outputs.Perm (e.modeNames.map (outputOf config e.entryKey (b.finish a.code).code)) ∧
        (∀ o ∈ bundle.outputs, ∀ o' ∈ bundle.outputs, o.fileName = o'.fileName ↔ o.modeName = o'.modeName) ∧
        ((bundle.outputs.map (·.fileName)).Nodup ↔ e.modeNames.Nodup) := by
  refine ⟨readable_bundleId_eq_iff hhash, fun stages fs threshold modules a e s hfound => ?_⟩
  intro b run
  have hfiles : (standard config stages fs.recorded threshold).host.files = fs.recorded := rfl
  have hcalls : run.2.calls = b.entryFileCalls modules a := calls_writeEntry hfiles rfl
  have hnone : (Journal.mk s []).Unrefused := by
    intro t ht
    cases ht
  refine ⟨((over_recorded config stages fs threshold).writeEntry modules a ⟨s, []⟩).1, hcalls,
    writeEntry_ok_iff hfiles rfl hfound hnone, fun bundle h => ?_⟩
  obtain rfl := writeEntry_ok rfl hfound h
  have hperm := b.outputs_perm ⟨e, (b.finish a.code).code⟩
  exact ⟨hperm, fun o ho o' ho' => fileName_eq_iff hhash hperm ho ho', nodup_fileNames_iff hhash hperm⟩

/-! A default mode, a suffix and modes that look like each other, and a mode without a name. -/

def dashedConfig : Config :=
  { destinations := [⟨"dist"⟩, ⟨"www"⟩], defaultMode := "md", bundleSuffix := "-md" }

def dashedModule : EntryModule :=
  ⟨"ion-item.ion-label.ion-note", ["md", "", "-md", "md-md"], []⟩

def dashedArtifact : Artifact :=
  ⟨"item.js", "item", some dashedModule.entryKey, .componentEntry⟩

def dashedBuild : Build (StateM (Journal Store)) :=
  standard dashedConfig .identity (Store.fileSystem fun _ => false).recorded Literal.defaultThreshold

example : dashedModule.modeNames.map (fun mode => bundleId dashedConfig dashedModule.entryKey "item" mode) =
    ["ion-item_2-md", "ion-item_2--md", "ion-item_2--md-md", "ion-item_2-md-md-md"] := by
  decide +kernel

theorem dashedBuild_unrefused : (dashedBuild.writeEntry [dashedModule] dashedArtifact ⟨{}, []⟩).2.Unrefused := by
  rw [dashedBuild.writeEntry_of_found (e := dashedModule) rfl (by decide)]
  decide +kernel

theorem readable_modes_apart_dashed :
    let run := dashedBuild.writeEntry [dashedModule] dashedArtifact ⟨{}, []⟩
    dashedConfig.hashFileNames = false ∧
    dashedArtifact.entryKey.bind (EntryModule.find? [dashedModule]) = some dashedModule ∧
    ∃ bundle, run.1.result = .ok bundle ∧
      bundle.outputs.Perm (dashedModule.modeNames.map (outputOf dashedConfig dashedModule.entryKey "item")) ∧
      (∀ o ∈ bundle.outputs, ∀ o' ∈ bundle.outputs, o.fileName = o'.fileName ↔ o.modeName = o'.modeName) ∧
      (bundle.outputs.map (·.fileName)).Nodup := by
  intro run
  have hfound : dashedArtifact.entryKey.bind (EntryModule.find? [dashedModule]) = some dashedModule := by decide
  obtain ⟨-, hentry⟩ := readable_modes_apart (σ := Store) dashedConfig rfl
  obtain ⟨-, -, hok, houtputs⟩ := hentry .identity (Store.fileSystem fun _ => false) Literal.defaultThreshold
    [dashedModule] dashedArtifact dashedModule {} hfound
  obtain ⟨bundle, h⟩ := hok.mpr dashedBuild_unrefused
  obtain ⟨hperm, hapart, hnodup⟩ := houtputs bundle h
  exact ⟨rfl, hfound, bundle, h, hperm, hapart, hnodup.mpr (by decide)⟩

end Build

end LazyBundle
