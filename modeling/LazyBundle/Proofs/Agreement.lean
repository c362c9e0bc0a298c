import LazyBundle.Proofs.LoaderData
import LazyBundle.Proofs.Replay
import LazyBundle.Proofs.Script

/-!
# Data and files agree

After a build that succeeds, the data in the core bundles describe the entries
in the order of their artifacts: by their key, the first entry module with it,
and the ids of the files that have been written for its modes
(`generate_described`).
-/

namespace LazyBundle

/-! ## Injection -/

/-- The code with the data in the place of its first placeholder, if there is one. -/
def Filled (data code filled : String) : Prop :=
  (∃ before after : List Char, code.toList = before ++ placeholder.toList ++ after ∧
    (∀ b a, code.toList = b ++ placeholder.toList ++ a → before.length ≤ b.length) ∧
    filled.toList = before ++ data.toList ++ after) ∨
  (¬ placeholder.toList <:+: code.toList ∧ filled = code)

theorem filled_inject (data code : String) : Filled data code (inject code data).code := by
  unfold inject
  cases h : Text.splitFirst placeholder.toList code.toList with
  | none => exact .inr ⟨Text.splitFirst_eq_none h, rfl⟩
  | some parts =>
    obtain ⟨before, after⟩ := parts
    refine .inl ⟨before, after, Text.splitFirst_append h, fun b a => Text.splitFirst_first h, ?_⟩
    simp only
    split <;> exact String.toList_ofList

theorem forall₂_filled (data : String) (cores : List Artifact) :
    List.Forall₂ (fun core filled => Filled data core.code filled) cores
      (cores.map fun core => (inject core.code data).code) := by
  rw [List.forall₂_map_right_iff, List.forall₂_same]
  exact fun core _ => filled_inject data core.code

/-! ## Outputs -/

theorem lookup_of_fun {α : Type} (f : String → α) (l : List (String × α)) (h : ∀ e ∈ l, e.2 = f e.1) (k : String) :
    l.lookup k = if k ∈ l.map (·.1) then some (f k) else none := by
  induction l with
  | nil => rfl
  | cons e l ih =>
    rw [Json.lookup_cons_eq_ite, ih fun e he => h e (List.mem_cons_of_mem _ he)]
    by_cases hk : k = e.1
    · rw [if_pos hk, h e List.mem_cons_self, hk]; simp
    · simp only [List.map_cons, List.mem_cons, hk, false_or, if_false]

theorem lookup_written (config : Config) (entryKey code : String) (outputs : List ModeOutput)
    (modes : List String) (h : outputs.Perm (modes.map (outputOf config entryKey code))) (k : String) :
    (BundleIds.written outputs).lookup k = if k ∈ modes then some (bundleId config entryKey code k) else none := by
  have hmem : ∀ e ∈ BundleIds.written outputs, ∃ mode ∈ modes, e = (mode, bundleId config entryKey code mode) := by
    intro e he
    obtain ⟨o, ho, rfl⟩ := List.mem_map.mp (List.mem_reverse.mp he)
    obtain ⟨mode, hm, rfl⟩ := List.mem_map.mp (h.mem_iff.mp ho)
    exact ⟨mode, hm, rfl⟩
  rw [lookup_of_fun (bundleId config entryKey code)]
  · have hk : k ∈ (BundleIds.written outputs).map (·.1) ↔ k ∈ modes := by
      have hp := (h.map fun o => (o.modeName, o.bundleId)).map (·.1)
      rw [BundleIds.written, List.map_reverse, List.mem_reverse, hp.mem_iff]
      simp [outputOf]
    simp only [hk]
  · intro e he
    obtain ⟨mode, -, rfl⟩ := hmem e he
    rfl

namespace Build

variable {m : Type → Type} (b : Build m)

/-- What the data say of an entry, given what the build has written. -/
structure Described (modules : List EntryModule) (written : List Call) (a : Artifact) (pair : Json) (e : EntryModule)
    (ids : List (String × String)) : Prop where
  /-- The entry module is the first one with the key of the artifact. -/
  found : ∃ key, a.entryKey = some key ∧ EntryModule.find? modules key = some e
  /-- The loader reads the ids in the first part of the pair. -/
  read : ∃ first second bundleIds, pair = .list [first, second] ∧ BundleIds.decode? first = some bundleIds ∧
    bundleIds.byMode b.config.defaultMode = ids
  /-- There is an id for every mode of the entry module, and for nothing else. -/
  modes : ∀ mode, (ids.lookup mode).isSome ↔ mode ∈ e.modeNames
  /-- The files of the ids have been written in every destination. -/
  files : ∀ mode id, ids.lookup mode = some id → ∀ d ∈ b.config.destinations,
    .file (d.join (entryFileName id)) (b.finish a.code).code ∈ written

variable {σ : Type}

theorem mem_moduleSteps {b : Build (StateM σ)} {modules : List EntryModule} {classes : Classes} {a : Artifact}
    {e : Entry} {mode : String} {d : Path} (ha : a ∈ classes.entries) (he : (b.prepare modules a).1 = .ok e)
    (hm : mode ∈ e.entryModule.modeNames) (hd : d ∈ b.config.destinations) :
    .write (d.join (entryFileName (bundleId b.config e.entryModule.entryKey e.code mode))) e.code ∈
      b.moduleSteps modules classes := by
  refine List.mem_append_left _ (List.mem_flatMap.mpr ⟨a, ha, ?_⟩)
  rw [he, stepsOf, outputs, List.flatMap_map]
  exact List.mem_flatMap.mpr ⟨mode, hm, List.mem_map.mpr ⟨d, hd, rfl⟩⟩

theorem described_of_read {b : Build (StateM σ)} {modules : List EntryModule} {classes : Classes}
    {a : Artifact} (ha : a ∈ classes.entries) {e : Entry} (he : (b.prepare modules a).1 = .ok e) {pair : Json}
    (h : (b.bundleIfPrepared (.ok e)).ReadAs b.config.defaultMode pair) :
    ∃ ids, b.Described modules ((b.moduleSteps modules classes).filterMap Step.call?) a pair e.entryModule ids := by
  obtain ⟨hfound, hcode⟩ := b.prepare_ok he
  obtain ⟨first, read, hpair, hread, -, hlookup, -⟩ := h
  have hids : ∀ mode, (read.byMode b.config.defaultMode).lookup mode =
      if mode ∈ e.entryModule.modeNames then some (bundleId b.config e.entryModule.entryKey e.code mode)
      else none := by
    intro mode
    rw [hlookup]
    exact lookup_written _ _ _ _ _ (List.mergeSort_perm _ _) mode
  refine ⟨_, Option.bind_eq_some_iff.mp hfound, ⟨first, _, read, hpair, hread, rfl⟩, ?_, ?_⟩
  · intro mode
    rw [hids]
    by_cases hm : mode ∈ e.entryModule.modeNames <;> simp [hm]
  · intro mode id hid d hd
    rw [hids] at hid
    split at hid
    · rename_i hm
      cases hid
      rw [← hcode]
      exact List.mem_filterMap.mpr ⟨_, mem_moduleSteps ha he hm hd, rfl⟩
    · cases hid

/-- When a build succeeds, all of its core bundles have been written last, with the same data in the
place of their first placeholder, and the data describe the entries in their order. -/
theorem generate_described (config : Config) (stages : Stages) (fs : FileSystem (StateM σ)) (threshold : Nat)
    (modules : List EntryModule) (artifacts : List Artifact) (s : σ) (bundles : List Bundle) :
    let b := standard config stages fs.recorded threshold
    let run := b.generate modules artifacts ⟨s, []⟩
    run.1.result = .ok bundles →
      ∃ data pairs codes written,
        List.Forall₂ (fun core code => Filled data core.code code) (classify artifacts).cores codes ∧
        run.2.calls = written ++ b.coreCalls (classify artifacts).cores codes ∧
        Literal.decode? data = some (.list pairs) ∧
        List.Forall₂ (fun a pair => ∃ e ids, b.Described modules written a pair e ids)
          (classify artifacts).entries pairs := by
  intro b run h
  obtain ⟨rfl, codes, hcodes, hrun⟩ := generate_ok rfl h
  obtain ⟨data, hdata, hinjected, -⟩ := b.coreCodes_ok hcodes
  obtain ⟨-, pairs, hpairs, hread⟩ := Bundle.lazyData_read hdata
  let steps := b.moduleSteps modules (classify artifacts)
  have hcalls : run.2.calls = (steps ++ b.coreSteps (classify artifacts).cores codes).filterMap Step.call? :=
    (congrArg (·.2.calls) hrun).symm.trans (Step.calls_runAll fs _ ⟨s, []⟩)
  refine ⟨data, pairs, codes, steps.filterMap Step.call?, hinjected ▸ forall₂_filled data _, ?_, hpairs, ?_⟩
  · rw [hcalls, List.filterMap_append, calls_coreSteps]
  · rw [bundles, List.forall₂_map_left_iff] at hread
    refine ((List.forall₂_and_left _ _).mpr ⟨fun a ha => ha, hread⟩).imp ?_
    rintro a pair ⟨ha, hpair⟩
    obtain ⟨e, he⟩ := exists_prepared rfl h ha
    rw [he] at hpair
    exact ⟨_, described_of_read ha he hpair⟩

/-! An icon for two modes, and a core bundle that mentions the placeholder twice. -/

def iconModules : List EntryModule :=
  [⟨"ion-icon", ["ios", "md"], []⟩]

def iconArtifacts : List Artifact :=
  [⟨"core.js", "a=" ++ placeholder ++ ";b=" ++ placeholder, none, .core⟩,
   ⟨"icon.js", "icon", some "ion-icon", .componentEntry⟩]

def iconBuild : Build (StateM (Journal Store)) :=
  standard {} .identity (Store.fileSystem fun _ => false).recorded 0

theorem iconBuild_ok : ∃ bundles, (iconBuild.generate iconModules iconArtifacts ⟨{}, []⟩).1.result = .ok bundles := by
  have hs : sortOutputs (iconBuild.outputs ⟨⟨"ion-icon", ["ios", "md"], []⟩, "icon"⟩) =
      [⟨"ios", "ion-icon-ios", "ion-icon-ios.entry.js"⟩, ⟨"md", "ion-icon-md", "ion-icon-md.entry.js"⟩] :=
    (sortOutputs_of_sorted (by decide +kernel)).trans (by decide +kernel)
  have hb : iconBuild.bundles iconModules (classify iconArtifacts) =
      [⟨"ion-icon", ["ios", "md"], [],
        [⟨"ios", "ion-icon-ios", "ion-icon-ios.entry.js"⟩, ⟨"md", "ion-icon-md", "ion-icon-md.entry.js"⟩]⟩] := by
    rw [← hs]; rfl
  have hc : iconBuild.coreCodes (classify iconArtifacts).cores
      (iconBuild.bundles iconModules (classify iconArtifacts)) = .ok ["a=JSON.parse(" ++
        "\"[[\x7b\\\"ios\\\":\\\"ion-icon-ios\\\",\\\"md\\\":\\\"ion-icon-md\\\"\x7d,[]]]\");b=" ++ placeholder] := by
    rw [hb]; decide +kernel
  exact ⟨_, (generate_of_steps rfl hc rfl).1⟩

theorem generate_described_icon :
    let run := iconBuild.generate iconModules iconArtifacts ⟨{}, []⟩
    (∃ bundles, run.1.result = .ok bundles) ∧
      ∃ data pairs codes written,
        List.Forall₂ (fun core code => Filled data core.code code) (classify iconArtifacts).cores codes ∧
        run.2.calls = written ++ iconBuild.coreCalls (classify iconArtifacts).cores codes ∧
        Literal.decode? data = some (.list pairs) ∧
        List.Forall₂ (fun a pair => ∃ e ids, iconBuild.Described iconModules written a pair e ids)
          (classify iconArtifacts).entries pairs := by
  obtain ⟨bundles, h⟩ := iconBuild_ok
  exact ⟨⟨bundles, h⟩, generate_described {} .identity (Store.fileSystem fun _ => false) 0 iconModules
    iconArtifacts {} bundles h⟩

end Build

end LazyBundle
