import LazyBundle.Proofs.EntryIds
import LazyBundle.Proofs.Failures
import LazyBundle.Proofs.JoinedPaths
import LazyBundle.Proofs.TimedBuilds

/-!
# Files of entries

After a build into a store, the file of an entry holds the code of the entry if no
entry with other code is written there (`read?_entryPath`). Hashed names keep
entries apart as far as the digest does (`hashed_entries_kept`). Readable names
do not (`readable_entries_overwritten`).
-/

namespace LazyBundle.Build

section paths

variable {m : Type → Type} (b : Build m) (modules : List EntryModule)

def entryPaths (a : Artifact) : List Path :=
  match (b.prepare modules a).1 with
  | .error _ => []
  | .ok e => (b.outputs e).flatMap fun o => b.config.destinations.map fun d => d.join o.fileName

def lastEntryAt? (entries : List Artifact) (p : Path) : Option Artifact :=
  entries.reverse.find? fun a => (b.entryPaths modules a).any fun q => q.Same p

/-- No chunk and no core bundle is written to the path of an entry. -/
def EntriesApart (classes : Classes) : Prop :=
  ∀ a ∈ classes.entries, ∀ p ∈ b.entryPaths modules a, ∀ c ∈ classes.chunks ++ classes.cores,
    ∀ d ∈ b.config.destinations, ¬ (d.join c.fileName).Same p

theorem stepsOf_prepare (a : Artifact) :
    b.stepsOf (b.prepare modules a).1 = match (b.prepare modules a).1 with
      | .error e => [.absent e]
      | .ok _ => (b.entryPaths modules a).map (.write · (b.finish a.code).code) := by
  cases h : (b.prepare modules a).1 with
  | error e => rfl
  | ok e =>
    simp only [entryPaths, h, ← (b.prepare_ok h).2, stepsOf, Step.copies, List.map_flatMap, List.map_map]
    rfl

theorem lastContent?_entry (a : Artifact) (p : Path) :
    Step.lastContent? p (b.stepsOf (b.prepare modules a).1) =
      if (b.entryPaths modules a).any (fun q => q.Same p) then some (b.finish a.code).code else none := by
  rw [stepsOf_prepare]
  cases h : (b.prepare modules a).1 with
  | error e => simp [entryPaths, h, Step.lastContent?, Step.content?]
  | ok e => exact Step.lastContent?_const p _ _

theorem lastContent?_entries (entries : List Artifact) (p : Path) :
    Step.lastContent? p (entries.flatMap fun a => b.stepsOf (b.prepare modules a).1) =
      (b.lastEntryAt? modules entries p).map fun a => (b.finish a.code).code := by
  induction entries with
  | nil => rfl
  | cons a entries ih =>
    rw [List.flatMap_cons, Step.lastContent?_append, ih, lastContent?_entry, lastEntryAt?, lastEntryAt?,
      List.reverse_cons, List.find?_append]
    cases entries.reverse.find? fun a => (b.entryPaths modules a).any fun q => q.Same p with
    | some last => rfl
    | none =>
      by_cases ha : (b.entryPaths modules a).any fun q => q.Same p <;> simp [ha]

end paths

/-! ## After a build -/

section run

variable {b : Build (StateM Store)} {locked : Path → Bool} {modules : List EntryModule} {artifacts : List Artifact}
  {s : Store} {bundles : List Bundle}

/-- What is written to the path of an entry is the code of an entry that is written there. -/
theorem write_entryPath {classes : Classes} (hapart : b.EntriesApart modules classes) {a : Artifact}
    (ha : a ∈ classes.entries) {p : Path} (hp : p ∈ b.entryPaths modules a) {codes : List String} {q : Path}
    {content : String} (h : .write q content ∈ b.moduleSteps modules classes ++ b.coreSteps classes.cores codes)
    (hq : q.Same p) :
    ∃ other ∈ classes.entries, q ∈ b.entryPaths modules other ∧ content = (b.finish other.code).code := by
  rcases List.mem_append.mp h with h | h
  · rcases List.mem_append.mp h with h | h
    · obtain ⟨other, hother, h⟩ := List.mem_flatMap.mp h
      rw [stepsOf_prepare] at h
      cases ho : (b.prepare modules other).1 with
      | error e => rw [ho] at h; cases List.mem_singleton.mp h
      | ok e =>
        rw [ho] at h
        obtain ⟨q', hq', h⟩ := List.mem_map.mp h
        cases h
        exact ⟨other, hother, hq', rfl⟩
    · obtain ⟨c, hc, h⟩ := List.mem_flatMap.mp h
      obtain ⟨d, hd, h⟩ := List.mem_map.mp h
      cases h
      exact absurd hq (hapart a ha p hp c (List.mem_append_left _ hc) d hd)
  · obtain ⟨c, hc, h⟩ := List.mem_flatMap.mp h
    obtain ⟨d, hd, h⟩ := List.mem_map.mp h
    cases h
    exact absurd hq (hapart a ha p hp c.1 (List.mem_append_right _ (List.of_mem_zip hc).1) d hd)

theorem steps_of_ok (hw : b.host.writer = .ofConfig b.config b.host.files)
    (h : (b.generate modules artifacts s).1.result = .ok bundles) :
    ∃ codes, b.steps modules artifacts s =
        b.moduleSteps modules (classify artifacts) ++ b.coreSteps (classify artifacts).cores codes ∧
      (Step.runAll b.host.files (b.steps modules artifacts s) s).1 = .ok () := by
  cases hr : b.readyCodes modules (classify artifacts) s with
  | error e =>
    rw [(generate_of_error hw hr).1] at h
    cases h
  | ok codes =>
    have hsteps : b.steps modules artifacts s =
        b.moduleSteps modules (classify artifacts) ++ b.coreSteps (classify artifacts).cores codes := by
      rw [steps, hr]
    rw [(generate_of_codes hw hr).1, ← hsteps] at h
    obtain ⟨u, hu, -⟩ := map_eq_ok_iff.mp h
    exact ⟨codes, hsteps, hu⟩

/-- In whatever order a build has written its files, an entry finds its own code at a path that no entry
with other code has. -/
theorem read?_entryPath (hw : b.host.writer = .ofConfig b.config b.host.files)
    (hfiles : b.host.files = Store.fileSystem locked) (h : (b.generate modules artifacts s).1.result = .ok bundles)
    (hapart : b.EntriesApart modules (classify artifacts)) {a : Artifact} (ha : a ∈ (classify artifacts).entries)
    {p : Path} (hp : p ∈ b.entryPaths modules a)
    (hown : ∀ other ∈ (classify artifacts).entries, (∃ q ∈ b.entryPaths modules other, q.Same p) →
      (b.finish other.code).code = (b.finish a.code).code)
    {order : List Step} (horder : order.Perm (b.steps modules artifacts s)) :
    (Step.runAll (Store.fileSystem locked) order s).2.read? p = some (b.finish a.code).code := by
  obtain ⟨codes, hsteps, hrun⟩ := steps_of_ok hw h
  rw [hfiles] at hrun
  have hgranted : ∀ step ∈ order, Step.granted locked step := fun step hstep =>
    Step.granted_of_ok (Store.fileSystem_refuses locked) hrun step (horder.mem_iff.mp hstep)
  obtain ⟨e, he⟩ := exists_prepared hw h ha
  have hwritten : .write p (b.finish a.code).code ∈ b.steps modules artifacts s := by
    rw [hsteps]
    refine List.mem_append_left _ (List.mem_append_left _ (List.mem_flatMap.mpr ⟨a, ha, ?_⟩))
    rw [stepsOf_prepare, he]
    exact List.mem_map_of_mem hp
  have hlast : Step.lastContent? p order = some (b.finish a.code).code := by
    refine Step.lastContent?_eq_some (horder.mem_iff.mpr hwritten) (.refl p) fun q content hq hsame => ?_
    obtain ⟨other, hother, hpath, rfl⟩ := write_entryPath hapart ha hp (hsteps ▸ horder.mem_iff.mp hq) hsame
    exact hown other hother ⟨q, hpath, hsame⟩
  rw [Step.read?_runAll, List.filter_eq_self.mpr hgranted, hlast]
  rfl

theorem forall₂_bundles (hw : b.host.writer = .ofConfig b.config b.host.files)
    (h : (b.generate modules artifacts s).1.result = .ok bundles) {P : Artifact → Bundle → Prop}
    (hP : ∀ a ∈ (classify artifacts).entries, ∀ e, (b.prepare modules a).1 = .ok e → P a (b.bundleIfPrepared (.ok e))) :
    List.Forall₂ P (classify artifacts).entries bundles := by
  obtain ⟨rfl, -⟩ := generate_ok hw h
  rw [Build.bundles, List.forall₂_map_right_iff, List.forall₂_same]
  intro a ha
  obtain ⟨e, he⟩ := exists_prepared hw h ha
  rw [he]
  exact hP a ha e he

theorem mem_outputs_iff {e : Entry} {o : ModeOutput} :
    o ∈ (b.bundleIfPrepared (.ok e)).outputs ↔
      ∃ mode ∈ e.entryModule.modeNames, outputOf b.config e.entryModule.entryKey e.code mode = o := by
  rw [(b.outputs_perm e).mem_iff, List.mem_map]

theorem mem_entryPaths_iff {a : Artifact} {e : Entry} (he : (b.prepare modules a).1 = .ok e) {p : Path} :
    p ∈ b.entryPaths modules a ↔ ∃ mode ∈ e.entryModule.modeNames, ∃ d ∈ b.config.destinations,
      d.join (entryFileName (bundleId b.config e.entryModule.entryKey e.code mode)) = p := by
  simp only [entryPaths, he, outputs, List.mem_flatMap, List.mem_map]
  constructor
  · rintro ⟨o, ⟨mode, hm, rfl⟩, d, hd, rfl⟩
    exact ⟨mode, hm, d, hd, rfl⟩
  · rintro ⟨mode, hm, d, hd, rfl⟩
    exact ⟨_, ⟨mode, hm, rfl⟩, d, hd, rfl⟩

end run

/-! ## Hashed names -/

def hashedTexts {m : Type → Type} (b : Build m) (modules : List EntryModule) (entries : List Artifact) :
    List (String × String) :=
  entries.flatMap fun a => match (b.prepare modules a).1 with
    | .error _ => []
    | .ok e => e.entryModule.modeNames.map fun mode => (mode, e.code)

theorem mem_hashedTexts {m : Type → Type} {b : Build m} {modules : List EntryModule} {entries : List Artifact}
    {a : Artifact} {e : Entry} {mode : String} (ha : a ∈ entries) (he : (b.prepare modules a).1 = .ok e)
    (hm : mode ∈ e.entryModule.modeNames) : (mode, e.code) ∈ b.hashedTexts modules entries := by
  refine List.mem_flatMap.mpr ⟨a, ha, ?_⟩
  rw [he]
  exact List.mem_map.mpr ⟨mode, hm, rfl⟩

/-- When the digests tell all modes and codes of a build apart, every entry finds its own code under
each of its names. -/
theorem hashed_entries_kept (config : Config) (stages : Stages) (locked : Path → Bool) (threshold : Nat)
    (modules : List EntryModule) (artifacts : List Artifact) (s : Store) (bundles : List Bundle)
    (hhash : config.hashFileNames = true) (hsuffix : '/' ∉ config.bundleSuffix.toList) :
    let b := standard config stages (Store.fileSystem locked) threshold
    let classes := classify artifacts
    let texts := b.hashedTexts modules classes.entries
    let run := b.generate modules artifacts s
    run.1.result = .ok bundles → b.EntriesApart modules classes →
      (∀ x ∈ texts, '\x00' ∉ x.1.toList) →
      (∀ x ∈ texts, ∀ y ∈ texts, preimage x.2 x.1 ≠ preimage y.2 y.1 →
        shortDigest config.hashLength (preimage x.2 x.1) ≠ shortDigest config.hashLength (preimage y.2 y.1)) →
      List.Forall₂ (fun a bundle =>
        (∃ e, a.entryKey.bind (EntryModule.find? modules) = some e ∧
          ∀ mode, mode ∈ e.modeNames ↔ ∃ o ∈ bundle.outputs, o.modeName = mode) ∧
        ∀ o ∈ bundle.outputs, ∀ d ∈ config.destinations,
          run.2.read? (d.join o.fileName) = some (b.finish a.code).code) classes.entries bundles := by
  intro b classes texts run h hapart hnul hdigest
  refine forall₂_bundles rfl h fun a ha e he => ⟨⟨e.entryModule, (b.prepare_ok he).1, fun mode => ?_⟩, ?_⟩
  · simp only [mem_outputs_iff]
    constructor
    · exact fun hm => ⟨_, ⟨mode, hm, rfl⟩, rfl⟩
    · rintro ⟨_, ⟨mode', hm, rfl⟩, rfl⟩
      exact hm
  · intro o ho d hd
    obtain ⟨mode, hm, rfl⟩ := mem_outputs_iff.mp ho
    have hp : d.join (entryFileName (bundleId config e.entryModule.entryKey e.code mode)) ∈ b.entryPaths modules a :=
      (mem_entryPaths_iff he).mpr ⟨mode, hm, d, hd, rfl⟩
    rw [show run.2 = _ from state_generate rfl]
    refine read?_entryPath rfl rfl h hapart ha hp ?_ (.refl _)
    rintro other hother ⟨q, hq, hsame⟩
    obtain ⟨e', he'⟩ := exists_prepared rfl h hother
    obtain ⟨mode', hm', d', hd', rfl⟩ := (mem_entryPaths_iff he').mp hq
    have hplain : ∀ key code mode, Path.Plain (entryFileName (bundleId config key code mode)) :=
      fun key code mode => Path.plain_entryFileName (slash_notMem_hashed hhash hsuffix key code mode)
    have hid := entryFileName_injective ((Path.same_join_iff (hplain _ _ _) (hplain _ _ _)).mp hsame).2
    have hx := mem_hashedTexts hother he' hm'
    have hy := mem_hashedTexts ha he hm
    -- another entry at the path has the same digest, so the same mode and code
    have hpre : preimage e'.code mode' = preimage e.code mode :=
      Classical.not_not.mp fun hne => hdigest _ hx _ hy hne (shortDigest_of_bundleId hhash hid)
    have hcode := (mode_code_of_preimage (hnul _ hx) (hnul _ hy) hpre).2
    rw [← (b.prepare_ok he').2, ← (b.prepare_ok he).2, hcode]

/-! Two entries with the key of one module, and a chunk. -/

def hashedConfig : Config :=
  { hashFileNames := true, bundleSuffix := ".system" }

def hashedModules : List EntryModule :=
  [⟨"ion-icon", ["$"], []⟩]

def hashedArtifacts : List Artifact :=
  [⟨"1.js", "1", some "ion-icon", .componentEntry⟩, ⟨"2.js", "2", some "ion-icon", .componentEntry⟩,
   ⟨"p-chunk.js", "3", none, .chunk⟩]

def hashedBuild : Build (StateM Store) :=
  standard hashedConfig .identity (Store.fileSystem fun _ => false) Literal.defaultThreshold

theorem hashedBuild_ok : ∃ bundles, (hashedBuild.generate hashedModules hashedArtifacts {}).1.result = .ok bundles :=
  exists_ok_of_failures (b := hashedBuild) (Store.fileSystem_refuses fun _ => false) rfl _ _ (by decide +kernel) {}

theorem hashed_entries_kept_twice :
    let run := hashedBuild.generate hashedModules hashedArtifacts {}
    ∃ bundles, run.1.result = .ok bundles ∧
      List.Forall₂ (fun a bundle =>
        (∃ e, a.entryKey.bind (EntryModule.find? hashedModules) = some e ∧
          ∀ mode, mode ∈ e.modeNames ↔ ∃ o ∈ bundle.outputs, o.modeName = mode) ∧
        ∀ o ∈ bundle.outputs, ∀ d ∈ hashedConfig.destinations,
          run.2.read? (d.join o.fileName) = some (hashedBuild.finish a.code).code)
        (classify hashedArtifacts).entries bundles := by
  obtain ⟨bundles, h⟩ := hashedBuild_ok
  exact ⟨bundles, h, hashed_entries_kept hashedConfig .identity (fun _ => false) Literal.defaultThreshold hashedModules
    hashedArtifacts {} bundles rfl (by decide) h (by unfold EntriesApart; decide +kernel) (by decide +kernel)
    (by decide +kernel)⟩

/-! ## Readable names -/

/-- With readable names an entry finds its own code wherever no entry with other code is written, whatever
time the calls of the build take. Names without slashes meet exactly when the parts of keys and modes do,
which two modes of one key never do. -/
theorem readable_entries_own (config : Config) (stages : Stages) (locked : Path → Bool) (threshold : Nat)
    (early late : Delays) (modules : List EntryModule) (artifacts : List Artifact) (s : Store) (bundles : List Bundle)
    (hhash : config.hashFileNames = false) :
    let b := standard config stages (Store.fileSystem locked) threshold
    let classes := classify artifacts
    let run := (b.timed early late).generate modules artifacts s
    run.1.result = .ok bundles → b.EntriesApart modules classes →
      List.Forall₂ (fun a bundle => ∀ o ∈ bundle.outputs, ∀ d ∈ config.destinations,
        (∀ other ∈ classes.entries, (∃ p ∈ b.entryPaths modules other, p.Same (d.join o.fileName)) →
          (b.finish other.code).code = (b.finish a.code).code) →
        run.2.read? (d.join o.fileName) = some (b.finish a.code).code) classes.entries bundles ∧
      (∀ key key' code code' mode mode' (d d' : Path), '/' ∉ (bundleId config key code mode).toList →
        '/' ∉ (bundleId config key' code' mode').toList →
          ((d.join (entryFileName (bundleId config key code mode))).Same
              (d'.join (entryFileName (bundleId config key' code' mode'))) ↔
            d.Same d' ∧
              keyPart key ++ modePart config.defaultMode mode = keyPart key' ++ modePart config.defaultMode mode')) ∧
      (∀ key code code' mode mode', bundleId config key code mode = bundleId config key code' mode' → mode = mode') := by
  intro b classes run h hapart
  obtain ⟨hmatches, order, horder, hstate⟩ :=
    TimedBuild.generate_timed b (Store.fileSystem_refuses locked) early late rfl modules artifacts s
  have hplain : (b.generate modules artifacts s).1.result = .ok bundles := hmatches.result.symm.trans h
  refine ⟨forall₂_bundles rfl hplain fun a ha e he o ho d hd hown => ?_, ?_, fun key code code' mode mode' h => ?_⟩
  · obtain ⟨mode, hm, rfl⟩ := mem_outputs_iff.mp ho
    have hp := (mem_entryPaths_iff he).mpr ⟨mode, hm, d, hd, rfl⟩
    rw [show run.2 = _ from hstate]
    exact read?_entryPath rfl rfl hplain hapart ha hp hown horder
  · intro key key' code code' mode mode' d d' hs hs'
    rw [Path.same_join_iff (Path.plain_entryFileName hs) (Path.plain_entryFileName hs'),
      ← readable_bundleId_inj hhash code code']
    exact and_congr_right fun _ => ⟨entryFileName_injective, congrArg entryFileName⟩
  · exact (readable_bundleId_eq_iff hhash key code code' mode mode').mp h

/-! Two keys; the second one has two parts, and may begin as the first one. -/

def pairModules (key : String) : List EntryModule :=
  [⟨"a", ["$"], []⟩, ⟨key, ["$"], []⟩]

def pairArtifacts (key : String) : List Artifact :=
  [⟨"1.js", "1", some "a", .componentEntry⟩, ⟨"2.js", "2", some key, .componentEntry⟩]

def pairBuild : Build (StateM Store) :=
  standard {} .identity (Store.fileSystem fun _ => false) Literal.defaultThreshold

theorem readable_entries_own_late :
    let run := (pairBuild.timed { write := fun place _ => 1 - place } {}).generate (pairModules "b.c")
      (pairArtifacts "b.c") {}
    run.2.read? ⟨"dist/a.entry.js"⟩ = some "1" ∧ run.2.read? ⟨"dist/b.entry.js"⟩ = some "2" := by
  intro run
  let early : Delays := { write := fun place _ => 1 - place }
  have hfs : pairBuild.host.files.Refuses fun _ => false := Store.fileSystem_refuses _
  obtain ⟨bundles, hok⟩ := exists_ok_of_failures (b := pairBuild) hfs rfl (pairModules "b.c") (pairArtifacts "b.c")
    (by decide +kernel) {}
  obtain ⟨rfl, -⟩ := generate_ok rfl hok
  have hrun : run.1.result = .ok (pairBuild.bundles (pairModules "b.c") (classify (pairArtifacts "b.c"))) :=
    (TimedBuild.generate_timed pairBuild hfs early {} rfl (pairModules "b.c") (pairArtifacts "b.c") {}).1.result.trans hok
  obtain ⟨hfiles, -⟩ := readable_entries_own {} .identity (fun _ => false) Literal.defaultThreshold early {}
    (pairModules "b.c") (pairArtifacts "b.c") {} _ rfl hrun (by unfold EntriesApart; decide +kernel)
  obtain ⟨hfirst, hsecond⟩ := List.forall₂_cons.mp hfiles
  have hfirst' := hfirst (outputOf {} "a" "1" "$") (mem_outputs_iff.mpr ⟨"$", List.mem_cons_self, rfl⟩) ⟨"dist"⟩
    List.mem_cons_self (by decide +kernel)
  have hsecond' := (List.forall₂_cons.mp hsecond).1 (outputOf {} "b.c" "2" "$")
    (mem_outputs_iff.mpr ⟨"$", List.mem_cons_self, rfl⟩) ⟨"dist"⟩ List.mem_cons_self (by decide +kernel)
  exact ⟨hfirst', hsecond'⟩

/-- Entries with distinct keys and distinct modes may overwrite each other: a key of one part and a key
of two have the same file when the first parts agree. -/
theorem readable_entries_overwritten :
    ¬ ∀ (config : Config) (stages : Stages) (threshold : Nat) (modules : List EntryModule)
        (artifacts : List Artifact) (s : Store) (bundles : List Bundle), config.hashFileNames = false →
      let b := standard config stages (Store.fileSystem fun _ => false) threshold
      let classes := classify artifacts
      let run := b.generate modules artifacts s
      run.1.result = .ok bundles → (classes.entries.map (·.entryKey)).Nodup →
        (∀ e ∈ modules, e.modeNames.Nodup) → b.EntriesApart modules classes →
          List.Forall₂ (fun a bundle => ∀ o ∈ bundle.outputs, ∀ d ∈ config.destinations,
            run.2.read? (d.join o.fileName) = some (b.finish a.code).code) classes.entries bundles := by
  intro h
  have hfs : pairBuild.host.files.Refuses fun _ => false := Store.fileSystem_refuses _
  obtain ⟨bundles, hok⟩ := exists_ok_of_failures (b := pairBuild) hfs rfl (pairModules "a.b") (pairArtifacts "a.b")
    (by decide +kernel) {}
  obtain ⟨rfl, codes, -, hrun⟩ := generate_ok rfl hok
  have hfiles := h {} .identity Literal.defaultThreshold (pairModules "a.b") (pairArtifacts "a.b") {} _ rfl hok
    (by decide) (by decide) (by unfold EntriesApart; decide +kernel)
  have hread : (pairBuild.generate (pairModules "a.b") (pairArtifacts "a.b") {}).2.read? ⟨"dist/a.entry.js"⟩ =
      some "1" :=
    (List.forall₂_cons.mp hfiles).1 (outputOf {} "a" "1" "$") (mem_outputs_iff.mpr ⟨"$", List.mem_cons_self, rfl⟩)
      ⟨"dist"⟩ List.mem_cons_self
  have hcores : pairBuild.coreSteps (classify (pairArtifacts "a.b")).cores codes = [] := rfl
  rw [← congrArg Prod.snd hrun, hcores, List.append_nil] at hread
  exact absurd hread (by decide +kernel)

end LazyBundle.Build
