import LazyBundle.Cli.Run
import LazyBundle.Proofs.Loading

/-!
# The configuration of a run

The options of a run are one more layer, over all others. A run goes on to its
manifest when the configuration with this layer is valid and the one below it
has a destination, even if the options give others (`prepare_of_consulted`).
-/

namespace LazyBundle

theorem Config.validate_eq_ok_iff (c : Config) : c.validate = .ok () ↔
    c.destinations ≠ [] ∧ c.defaultMode ≠ "" ∧ 4 ≤ c.hashLength ∧ c.hashLength ≤ 64 := by
  unfold validate
  by_cases hd : c.destinations = []
  · simp [hd]
  by_cases hm : c.defaultMode = ""
  · simp [hd, hm]
  by_cases hl : c.hashLength < 4 ∨ 64 < c.hashLength
  · simp [hd, hm, hl]
    omega
  · simp [hd, hm, hl]
    omega

namespace Cli

def Options.layer (o : Options) : Layer where
  destinations := if o.outDirs = [] then none else some o.outDirs
  target := o.target
  minify := if o.minify then some true else none
  hashFileNames := if o.hash then some true else none

theorem Options.layer_applyTo (o : Options) (c : Config) : o.layer.applyTo c = o.applyTo c := by
  unfold layer applyTo Layer.applyTo
  ext1
  case destinations => cases o.outDirs <;> rfl
  case minify => cases o.minify <;> cases c.minify <;> rfl
  case hashFileNames => cases o.hash <;> cases c.hashFileNames <;> rfl
  all_goals rfl

theorem Options.validate_applyTo_iff (o : Options) (c : Config) :
    (c.validate = .ok () ∧ (o.applyTo c).validate = .ok ()) ↔
      (o.applyTo c).validate = .ok () ∧ ¬(c.destinations = [] ∧ o.outDirs ≠ []) := by
  rw [Config.validate_eq_ok_iff, Config.validate_eq_ok_iff]
  change _ ↔ (_ ∧ c.defaultMode ≠ "" ∧ 4 ≤ c.hashLength ∧ c.hashLength ≤ 64) ∧ _
  by_cases ho : o.outDirs = []
  · have hd : (o.applyTo c).destinations = c.destinations := if_pos (List.isEmpty_iff.mpr ho)
    rw [hd]
    constructor
    · exact fun h => ⟨h.2, fun hne => hne.2 ho⟩
    · exact fun h => ⟨h.1, h.1⟩
  · constructor
    · exact fun h => ⟨h.2, fun he => h.1.1 he.1⟩
    · exact fun h => ⟨⟨fun hc => h.2 ⟨hc, ho⟩, h.1.2⟩, h.1⟩

/-- A run that prepares so has come to its manifest. -/
def ReachesManifest : Except Failure (Config × Manifest) → Prop
  | .error (.config _) | .error (.options _) => False
  | _ => True

/-- A run loads its configuration, puts the options over it and then loads its manifest; it ends with the
first of these that fails. -/
theorem prepare_eq {σ : Type} (s : Surroundings (StateM σ)) (manifest : Path) (o : Options) (t : σ) :
    let loading := Config.load s.reader s.environment (Config.userFile s.environment) o.config s.projectDir t
    let listing := Manifest.load s.reader manifest loading.2
    s.prepare manifest o t =
      match loading.1 with
      | .error cause => (.error (.config cause), loading.2)
      | .ok loaded =>
        match (o.applyTo loaded).validate with
        | .error cause => (.error (.options cause), loading.2)
        | .ok () =>
          ((listing.1.mapError Failure.manifest).map fun contents => (o.applyTo loaded, contents), listing.2) := by
  intro loading listing
  have hload : (Config.load s.reader s.environment (Config.userFile s.environment) o.config s.projectDir >>= fun r =>
      pure (r.mapError Failure.config)) t = (loading.1.mapError Failure.config, loading.2) := rfl
  unfold Surroundings.prepare
  rw [Step.run_bind_apply hload]
  cases loading.1 with
  | error cause => rfl
  | ok loaded =>
    refine (Step.run_bind_apply (s := loading.2) rfl).trans ?_
    simp only
    cases (o.applyTo loaded).validate with
    | error cause => rfl
    | ok _ =>
      have hmanifest : (Manifest.load s.reader manifest >>= fun r => pure (r.mapError Failure.manifest)) loading.2 =
          (listing.1.mapError Failure.manifest, listing.2) := rfl
      refine (Step.run_bind_apply hmanifest).trans ?_
      simp only
      cases listing.1 <;> rfl

section prepare

variable {σ : Type} {s : Surroundings (StateM σ)} (quiet : s.reader.Quiet) {t : σ} {o : Options}
  {u f e : Layer}
  (consulted : Config.Consulted (s.reader.view t) s.environment (Config.userFile s.environment) o.config
    s.projectDir u f e)
  {lower : Config} (hlower : Layer.LastSet {} [u, f, e] lower)
include quiet consulted hlower

theorem prepare_apply (manifest : Path) :
    s.prepare manifest o t =
      match lower.validate with
      | .error cause => (.error (.config (.invalid cause)), t)
      | .ok () =>
        match (o.applyTo lower).validate with
        | .error cause => (.error (.options cause), t)
        | .ok () =>
          (((Manifest.load s.reader manifest t).1.mapError Failure.manifest).map fun contents =>
            (o.applyTo lower, contents), (Manifest.load s.reader manifest t).2) := by
  rw [prepare_eq, Config.load_of_consulted quiet t consulted hlower]
  cases lower.validate <;> rfl

/-- A run comes to its manifest, with the configuration that its options complete, when this
configuration is valid, but not when only its options give it destinations because the layers below
them leave none. -/
theorem prepare_of_consulted {effective : Config} (heffective : Layer.LastSet {} [u, f, e, o.layer] effective)
    (manifest : Path) :
    (ReachesManifest (s.prepare manifest o t).1 ↔
      effective.validate = .ok () ∧ ¬(lower.destinations = [] ∧ o.outDirs ≠ [])) ∧
    (ReachesManifest (s.prepare manifest o t).1 →
      s.prepare manifest o t =
        (((Manifest.load s.reader manifest t).1.mapError Failure.manifest).map fun contents =>
          (effective, contents), (Manifest.load s.reader manifest t).2)) := by
  have heq : o.applyTo lower = effective := by
    rw [← Options.layer_applyTo, ← Layer.foldl_applyTo_eq_iff.mpr hlower]
    exact Layer.foldl_applyTo_eq_iff.mpr heffective
  rw [← heq, ← Options.validate_applyTo_iff, prepare_apply quiet consulted hlower]
  cases hv : lower.validate with
  | error cause => exact ⟨⟨fun h => h.elim, fun h => nomatch h.1⟩, fun h => h.elim⟩
  | ok _ =>
    cases hv' : (o.applyTo lower).validate with
    | error cause => exact ⟨⟨fun h => h.elim, fun h => nomatch h.2⟩, fun h => h.elim⟩
    | ok _ =>
      refine ⟨⟨fun _ => ⟨rfl, rfl⟩, fun _ => ?_⟩, fun _ => rfl⟩
      cases (Manifest.load s.reader manifest t).1 <;> exact trivial

end prepare

def Surroundings.onDisk : Surroundings (StateM Disk) where
  reader := Disk.fileReader
  files := Disk.fileSystem
  runner _ _ _ _ := .error .notFound
  environment _ := none
  projectDir := ⟨""⟩

theorem prepare_of_consulted_directed :
    let disk : Disk := { files := [(["lazypack.toml"], "destinations = [\"www\"]".toUTF8)] }
    let o : Options := { outDirs := [⟨"dist"⟩] }
    ReachesManifest (Surroundings.onDisk.prepare ⟨"manifest.json"⟩ o disk).1 := by
  intro disk o
  let s := Surroundings.onDisk
  have consulted : Config.Consulted (s.reader.view disk) s.environment (Config.userFile s.environment) o.config
      s.projectDir {} { destinations := some [⟨"www"⟩] } {} := {
    user := ⟨"", rfl, Layer.ofToml_eq_ok_iff.mp rfl⟩
    file := ⟨"destinations = [\"www\"]", by decide +kernel, Layer.ofToml_eq_ok_iff.mp (by decide +kernel)⟩
    environment := Layer.ofEnvironment_eq_ok_iff.mp rfl }
  have reaches := (prepare_of_consulted Disk.quiet_fileReader consulted (Layer.foldl_applyTo_eq_iff.mp rfl)
    (Layer.foldl_applyTo_eq_iff.mp rfl) ⟨"manifest.json"⟩).1
  exact reaches.mpr ⟨by decide +kernel, by decide +kernel⟩

/-- The options give a destination, and the run still fails for the lack of one. -/
theorem prepare_fails_below_options :
    let disk : Disk := { files := [(["lazypack.toml"], "destinations = []".toUTF8)] }
    let s := Surroundings.onDisk
    let o : Options := { outDirs := [⟨"dist"⟩] }
    ∃ u f e effective,
      Config.Consulted (s.reader.view disk) s.environment (Config.userFile s.environment) o.config s.projectDir
        u f e ∧
      Layer.LastSet {} [u, f, e, o.layer] effective ∧ effective.validate = .ok () ∧
      ¬ReachesManifest (s.prepare ⟨"manifest.json"⟩ o disk).1 := by
  intro disk s o
  refine ⟨{}, { destinations := some [] }, {}, { destinations := [⟨"dist"⟩] }, ⟨⟨"", rfl, ?_⟩, ?_, ?_⟩, ?_, ?_, ?_⟩
  · exact Layer.ofToml_eq_ok_iff.mp rfl
  · exact ⟨"destinations = []", by decide +kernel, Layer.ofToml_eq_ok_iff.mp (by decide +kernel)⟩
  · exact Layer.ofEnvironment_eq_ok_iff.mp rfl
  · exact Layer.foldl_applyTo_eq_iff.mp rfl
  · decide +kernel
  · have failed : (s.prepare ⟨"manifest.json"⟩ o disk).1 = .error (.config (.invalid .noDestination)) := by
      decide +kernel
    rw [failed]
    exact id

end Cli

end LazyBundle
