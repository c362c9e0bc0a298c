import Mathlib.Data.List.Infix
import LazyBundle.Proofs.LoaderData
import LazyBundle.Proofs.Replay

/-!
# Which failure is reported

All that can go wrong in a build is listed in one order: missing modules and
refused files of the entries, refused chunks, entries without modes, core
bundles without placeholder, refused core bundles (`failures`). A build fails
exactly when the list is not empty, and reports its head
(`generate_error_iff`).
-/

namespace LazyBundle

namespace Build

section failures

variable {m : Type → Type} (b : Build m) (locked : Path → Bool) (modules : List EntryModule)

def refusals (fileName : String) : List BuildError :=
  ((b.config.destinations.map (·.join fileName)).filter locked).map fun p => .write (.refused p)

def entryFailures (a : Artifact) : List BuildError :=
  match a.entryKey.bind (EntryModule.find? modules) with
  | none => [.missingEntryModule a.fileName a.entryKey]
  | some e => e.modeNames.flatMap fun mode =>
      b.refusals locked (entryFileName (bundleId b.config e.entryKey (b.finish a.code).code mode))

def emptyEntries (entries : List Artifact) : List BuildError :=
  entries.filterMap fun a => (a.entryKey.bind (EntryModule.find? modules)).bind fun e =>
    if e.modeNames = [] then some (.emptyBundle e.entryKey) else none

def unplaceable (cores : List Artifact) : List BuildError :=
  if b.config.requirePlaceholder then
    (cores.filter fun core => ¬ placeholder.toList <:+: core.code.toList).map fun core =>
      .missingPlaceholder core.fileName
  else []

def moduleFailures (classes : Classes) : List BuildError :=
  classes.entries.flatMap (b.entryFailures locked modules) ++
    classes.chunks.flatMap fun a => b.refusals locked a.fileName

/-- All that can go wrong before the first core bundle is written, in the order of reporting. -/
def earlyFailures (classes : Classes) : List BuildError :=
  b.moduleFailures locked modules classes ++ emptyEntries modules classes.entries ++ b.unplaceable classes.cores

/-- All that can go wrong in a build, in the order of reporting. -/
def failures (classes : Classes) : List BuildError :=
  b.earlyFailures locked modules classes ++ classes.cores.flatMap fun core => b.refusals locked core.fileName

/-! ## Failures of steps -/

theorem failures_copies (code fileName : String) :
    (Step.copies b.config.destinations code fileName).filterMap (Step.failure? locked) =
      b.refusals locked fileName := by
  rw [Step.copies, List.filterMap_map, refusals, List.filter_map, List.map_map, ← List.filterMap_eq_map,
    List.filterMap_filter]
  rfl

theorem failures_stepsOf (a : Artifact) :
    (b.stepsOf (b.prepare modules a).1).filterMap (Step.failure? locked) = b.entryFailures locked modules a := by
  rw [stepsOf_artifact, entryFailures]
  cases a.entryKey.bind (EntryModule.find? modules) with
  | none => rfl
  | some e => simp only [List.filterMap_flatMap, failures_copies]

theorem failures_moduleSteps (classes : Classes) :
    (b.moduleSteps modules classes).filterMap (Step.failure? locked) = b.moduleFailures locked modules classes := by
  rw [moduleSteps, List.filterMap_append, List.filterMap_flatMap, List.filterMap_flatMap]
  simp only [failures_stepsOf, chunkSteps, failures_copies, moduleFailures]

theorem failures_coreSteps {cores : List Artifact} {codes : List String} (h : codes.length = cores.length) :
    (b.coreSteps cores codes).filterMap (Step.failure? locked) =
      cores.flatMap fun core => b.refusals locked core.fileName := by
  rw [coreSteps, List.filterMap_flatMap]
  simp only [failures_copies]
  have hzip : (cores.zip codes).map Prod.fst = cores := List.map_fst_zip (Nat.le_of_eq h.symm)
  calc (cores.zip codes).flatMap (fun c => b.refusals locked c.1.fileName)
    _ = ((cores.zip codes).map Prod.fst).flatMap fun core => b.refusals locked core.fileName := by
      rw [List.flatMap_map]
    _ = _ := by rw [hzip]

/-! ## Failures of core bundles -/

theorem refusalOf_injectLazyData {data : String} (hdata : data.isEmpty = false) (core : Artifact) :
    refusalOf (b.injectLazyData core data).result = (b.unplaceable [core]).head? := by
  rw [injectLazyData, unplaceable]
  rcases inject_of_data hdata core.code with ⟨⟨code, hcode⟩, hin⟩ | ⟨hcode, hout⟩
  · rw [hcode]
    cases hr : b.config.requirePlaceholder <;> simp [refusalOf, hin]
  · rw [hcode]
    cases hr : b.config.requirePlaceholder <;> simp [refusalOf, hout]

theorem refusalOf_injectAll {data : String} (hdata : data.isEmpty = false) (cores : List Artifact) :
    refusalOf (b.injectAll data cores).result = (b.unplaceable cores).head? := by
  induction cores with
  | nil => cases hr : b.config.requirePlaceholder <;> simp [injectAll, refusalOf, unplaceable, hr]
  | cons core cores ih =>
    have hcons : b.unplaceable (core :: cores) = b.unplaceable [core] ++ b.unplaceable cores := by
      cases hr : b.config.requirePlaceholder
      · simp [unplaceable, hr]
      · simp only [unplaceable, hr, if_true, ← List.map_append, ← List.filter_append, List.singleton_append]
    rw [hcons, List.head?_append, ← refusalOf_injectLazyData b hdata, ← ih, injectAll]
    cases (b.injectLazyData core data).result with
    | error e => rfl
    | ok code => exact refusalOf_map _ _

theorem refusalOf_coreCodes (cores : List Artifact) (bundles : List Bundle) :
    refusalOf (b.coreCodes cores bundles) =
      ((bundles.filterMap Bundle.emptyKey?).map BuildError.emptyBundle ++ b.unplaceable cores).head? := by
  have hdata := Bundle.refusalOf_lazyData b.host.threshold b.config.defaultMode bundles
  rw [List.head?_append, List.head?_map, ← hdata, coreCodes]
  cases hd : Bundle.lazyData b.host.threshold b.config.defaultMode bundles with
  | error key => rfl
  | ok data => exact b.refusalOf_injectAll (Bundle.lazyData_read hd).1 cores

theorem emptyKey?_bundleIfPrepared {a : Artifact} (h : a.entryKey.bind (EntryModule.find? modules) ≠ none) :
    (b.bundleIfPrepared (b.prepare modules a).1).emptyKey?.map BuildError.emptyBundle =
      (a.entryKey.bind (EntryModule.find? modules)).bind fun e =>
        if e.modeNames = [] then some (.emptyBundle e.entryKey) else none := by
  rw [prepare]
  cases he : a.entryKey.bind (EntryModule.find? modules) with
  | none => exact absurd he h
  | some e =>
    have hempty : sortOutputs (b.outputs ⟨e, (b.finish a.code).code⟩) = [] ↔ e.modeNames = [] := by
      rw [← List.length_eq_zero_iff, sortOutputs, List.length_mergeSort, outputs, List.length_map,
        List.length_eq_zero_iff]
    simp only [bundleIfPrepared, Bundle.emptyKey?, hempty, Option.bind_some]
    split <;> rfl

theorem emptyKeys_bundles {classes : Classes}
    (h : ∀ a ∈ classes.entries, a.entryKey.bind (EntryModule.find? modules) ≠ none) :
    ((b.bundles modules classes).filterMap Bundle.emptyKey?).map BuildError.emptyBundle =
      emptyEntries modules classes.entries := by
  rw [bundles, List.filterMap_map, List.map_filterMap, emptyEntries]
  exact List.filterMap_congr fun a ha => b.emptyKey?_bundleIfPrepared modules (h a ha)

end failures

/-! ## The failure of a build -/

section reported

variable {σ : Type} {b : Build (StateM σ)} {locked : Path → Bool} (hfs : b.host.files.Refuses locked)
include hfs

theorem refusalOf_readyCodes (modules : List EntryModule) (classes : Classes) (s : σ) :
    refusalOf (b.readyCodes modules classes s) = (b.earlyFailures locked modules classes).head? := by
  have hfirst := Step.refusalOf_runAll hfs (b.moduleSteps modules classes) s
  rw [failures_moduleSteps] at hfirst
  rw [readyCodes, refusalOf_bind, hfirst, refusalOf_coreCodes, earlyFailures, List.append_assoc]
  cases hl : b.moduleFailures locked modules classes with
  | cons e l => rfl
  | nil =>
    -- no entry has failed, so each of them has a module and its bundle has an output for every mode
    have hmodules : ∀ a ∈ classes.entries, a.entryKey.bind (EntryModule.find? modules) ≠ none := by
      intro a ha hn
      have hnil := List.flatMap_eq_nil_iff.mp (List.append_eq_nil_iff.mp hl).1 a ha
      rw [entryFailures, hn] at hnil
      cases hnil
    rw [emptyKeys_bundles b modules hmodules]
    rfl

theorem refusalOf_generate (hw : b.host.writer = .ofConfig b.config b.host.files) (modules : List EntryModule)
    (artifacts : List Artifact) (s : σ) :
    refusalOf (b.generate modules artifacts s).1.result =
      (b.failures locked modules (classify artifacts)).head? := by
  have hready := refusalOf_readyCodes hfs modules (classify artifacts) s
  rw [failures, List.head?_append, ← hready]
  cases hr : b.readyCodes modules (classify artifacts) s with
  | error e => rw [(generate_of_error hw hr).1]; rfl
  | ok codes =>
    obtain ⟨hmodules, hcodes⟩ := readyCodes_ok hr
    obtain ⟨data, -, rfl, -⟩ := b.coreCodes_ok hcodes
    have hnone : ((b.moduleSteps modules (classify artifacts)).filterMap (Step.failure? locked)).head? = none := by
      rw [← Step.refusalOf_runAll hfs _ s, hmodules]
      rfl
    rw [(generate_of_codes hw hr).1, refusalOf_map, Step.refusalOf_runAll hfs, List.filterMap_append,
      List.head?_append, hnone, failures_coreSteps b locked (List.length_map _)]
    rfl

theorem exists_ok_of_failures (hw : b.host.writer = .ofConfig b.config b.host.files) (modules : List EntryModule)
    (artifacts : List Artifact) (h : b.failures locked modules (classify artifacts) = []) (s : σ) :
    ∃ bundles, (b.generate modules artifacts s).1.result = .ok bundles := by
  refine refusalOf_eq_none_iff.mp ?_
  rw [refusalOf_generate hfs hw, h]
  rfl

end reported

/-- A build fails exactly when something can go wrong in it, and reports the first of that. -/
theorem generate_error_iff (config : Config) (stages : Stages) (locked : Path → Bool) (threshold : Nat)
    (modules : List EntryModule) (artifacts : List Artifact) (s : Store) :
    let b := standard config stages (Store.fileSystem locked) threshold
    let failures := b.failures locked modules (classify artifacts)
    let result := (b.generate modules artifacts s).1.result
    (∀ e, result = .error e ↔ failures.head? = some e) ∧ ((∃ bundles, result = .ok bundles) ↔ failures = []) := by
  intro b failures result
  have h : refusalOf result = failures.head? :=
    refusalOf_generate (Store.fileSystem_refuses locked) rfl modules artifacts s
  refine ⟨fun e => ?_, ?_⟩
  · rw [← h, refusalOf_eq_some_iff]
  · rw [← List.head?_eq_none_iff, ← h, refusalOf_eq_none_iff]

end Build

end LazyBundle
