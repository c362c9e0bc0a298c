import LazyBundle.Config.Load
import LazyBundle.Disk
import LazyBundle.Proofs.Layers
import LazyBundle.Proofs.Steps

/-!
# The configuration that is loaded

Loading reads two settings files and the environment, and gives the
configuration in which each setting is the one of the last source that sets it,
provided that every source can be read and that the configuration is valid.
-/

namespace LazyBundle

variable {σ : Type}

structure FileView where
  isFile : Path → Bool
  readText : Path → Except IoError String

def FileReader.view (r : FileReader (StateM σ)) (s : σ) : FileView where
  isFile p := (r.isFile p s).1
  readText p := (r.readText p s).1

/-- Asking about files changes nothing. -/
structure FileReader.Quiet (r : FileReader (StateM σ)) : Prop where
  isFile : ∀ p s, r.isFile p s = ((r.view s).isFile p, s)
  readText : ∀ p s, r.readText p s = ((r.view s).readText p, s)

theorem Disk.quiet_fileReader : Disk.fileReader.Quiet :=
  ⟨fun _ _ => rfl, fun _ _ => rfl⟩

def FileView.withFile (files : FileView) (p : Path) (text : String) : FileView where
  isFile q := q = p || files.isFile q
  readText q := if q = p then .ok text else files.readText q

namespace Config

/-! ## Texts of the settings files -/

def held (files : FileView) (p : Path) : Except IoError String :=
  if files.isFile p then files.readText p else .ok ""

def userText (files : FileView) : Option Path → Except IoError String
  | some p => held files p
  | none => .ok ""

def fileText (files : FileView) (explicit : Option Path) (projectDir : Path) : Except IoError String :=
  match explicit with
  | some p => files.readText p
  | none => held files (projectDir.join projectFile)

theorem held_withFile {files : FileView} {p : Path} (missing : files.isFile p = false) (q : Path) :
    held (files.withFile p "") q = held files q := by
  unfold held FileView.withFile
  by_cases hq : q = p
  · subst hq
    simp [missing]
  · simp [hq]

def layerOfText (path : Path) : Except IoError String → Except LoadError Layer
  | .error e => .error (.unreadable path e)
  | .ok content => (Layer.ofToml content).mapError (.malformed path)

theorem layerOfText_eq_ok_iff {path : Path} {text : Except IoError String} {l : Layer} :
    layerOfText path text = .ok l ↔ ∃ content, text = .ok content ∧ Layer.OfText content l := by
  cases text with
  | error e => exact ⟨fun h => (by cases h), fun ⟨_, h, _⟩ => (by cases h)⟩
  | ok content =>
    unfold layerOfText
    rw [mapError_eq_ok_iff, Layer.ofToml_eq_ok_iff]
    exact ⟨fun h => ⟨content, rfl, h⟩, fun ⟨_, heq, h⟩ => (by cases heq; exact h)⟩

/-- A file that is missing sets as little as an empty one. -/
theorem layerOfText_empty (path : Path) : layerOfText path (.ok "") = .ok {} := rfl

def merge (userLayer fileLayer : Except LoadError Layer) (env : Layer.Environment) : Except LoadError Config := do
  let config := overlay [← userLayer, ← fileLayer, ← (Layer.ofEnvironment env).mapError .environment]
  config.validate.mapError .invalid
  pure config

section reading

variable {reader : FileReader (StateM σ)} (quiet : reader.Quiet) (s : σ)
include quiet

theorem layerOfFile_apply (p : Path) :
    layerOfFile reader p s = (layerOfText p ((reader.view s).readText p), s) := by
  unfold layerOfFile
  rw [Step.bind_apply, quiet.readText p s]
  cases (reader.view s).readText p <;> rfl

theorem layerIfPresent_apply (p : Path) :
    layerIfPresent reader p s = (layerOfText p (held (reader.view s) p), s) := by
  unfold layerIfPresent held
  rw [Step.bind_apply, quiet.isFile p s]
  cases (reader.view s).isFile p with
  | true => exact layerOfFile_apply quiet s p
  | false => exact Prod.ext (layerOfText_empty p).symm rfl

omit quiet in
/-- Two layers that are read without a change of state are merged with the environment. -/
theorem run_merge {x y : StateM σ (Except LoadError Layer)} {u f : Except LoadError Layer}
    (hx : x s = (u, s)) (hy : y s = (f, s)) (env : Layer.Environment) :
    ExceptT.run (do
      let userLayer ← ExceptT.mk x
      let fileLayer ← ExceptT.mk y
      let envLayer ← ExceptT.mk (pure ((Layer.ofEnvironment env).mapError LoadError.environment))
      let config := overlay [userLayer, fileLayer, envLayer]
      match config.validate with
      | .error e => throw (.invalid e)
      | .ok () => pure config) s = (merge u f env, s) := by
  rw [Step.run_bind_apply hx]
  cases u with
  | error e => rfl
  | ok u =>
    refine (Step.run_bind_apply hy).trans ?_
    cases f with
    | error e => rfl
    | ok f =>
      unfold merge
      cases (Layer.ofEnvironment env).mapError LoadError.environment with
      | error e => rfl
      | ok e =>
        change (match (overlay [u, f, e]).validate with
          | .error e => throw (.invalid e)
          | .ok () => pure (overlay [u, f, e]) : ExceptT LoadError (StateM σ) Config).run s =
          ((overlay [u, f, e]).validate.mapError LoadError.invalid >>= fun _ => pure (overlay [u, f, e]), s)
        cases (overlay [u, f, e]).validate <;> rfl

/-- Loading goes by the two texts and the variables alone. -/
theorem load_apply (env : Layer.Environment) (user explicit : Option Path) (projectDir : Path) :
    load reader env user explicit projectDir s =
      (merge (layerOfText (user.getD default) (userText (reader.view s) user))
        (layerOfText (explicit.getD (projectDir.join projectFile)) (fileText (reader.view s) explicit projectDir))
        env, s) := by
  unfold load
  cases user <;> cases explicit
  · exact run_merge s (x := pure (.ok {})) rfl (layerIfPresent_apply quiet s _) env
  · exact run_merge s (x := pure (.ok {})) rfl (layerOfFile_apply quiet s _) env
  · exact run_merge s (layerIfPresent_apply quiet s _) (layerIfPresent_apply quiet s _) env
  · exact run_merge s (layerIfPresent_apply quiet s _) (layerOfFile_apply quiet s _) env

end reading

/-! ## The result -/

structure Consulted (files : FileView) (env : Layer.Environment) (user explicit : Option Path) (projectDir : Path)
    (userLayer fileLayer envLayer : Layer) : Prop where
  user : ∃ text, userText files user = .ok text ∧ Layer.OfText text userLayer
  file : ∃ text, fileText files explicit projectDir = .ok text ∧ Layer.OfText text fileLayer
  environment : Layer.OfVariables env envLayer

theorem merge_eq_ok_iff {userLayer fileLayer : Except LoadError Layer} {env : Layer.Environment} {c : Config} :
    merge userLayer fileLayer env = .ok c ↔ ∃ u f e, userLayer = .ok u ∧ fileLayer = .ok f ∧
      Layer.OfVariables env e ∧ Layer.LastSet {} [u, f, e] c ∧ c.validate = .ok () := by
  simp only [merge, bind_eq_ok_iff, mapError_eq_ok_iff, Layer.ofEnvironment_eq_ok_iff]
  constructor
  · rintro ⟨u, rfl, f, rfl, e, he, _, hvalid, hc⟩
    cases hc
    exact ⟨u, f, e, rfl, rfl, he, Layer.foldl_applyTo_eq_iff.mp rfl, hvalid⟩
  · rintro ⟨u, f, e, rfl, rfl, he, hlast, hvalid⟩
    cases Layer.foldl_applyTo_eq_iff.mpr hlast
    exact ⟨u, rfl, f, rfl, e, he, (), hvalid, rfl⟩

theorem merge_error (userLayer : Except LoadError Layer) (cause : LoadError) (env : Layer.Environment) :
    ∃ e, merge userLayer (.error cause) env = .error e := by
  cases userLayer with
  | error e => exact ⟨e, rfl⟩
  | ok u => exact ⟨cause, rfl⟩

theorem merge_texts_eq_ok_iff {files : FileView} {env : Layer.Environment} {user explicit : Option Path}
    {projectDir userPath filePath : Path} {c : Config} :
    merge (layerOfText userPath (userText files user)) (layerOfText filePath (fileText files explicit projectDir))
        env = .ok c ↔
      ∃ u f e, Consulted files env user explicit projectDir u f e ∧ Layer.LastSet {} [u, f, e] c ∧
        c.validate = .ok () := by
  rw [merge_eq_ok_iff]
  constructor
  · rintro ⟨u, f, e, hu, hf, he, hlast, hvalid⟩
    exact ⟨u, f, e, ⟨layerOfText_eq_ok_iff.mp hu, layerOfText_eq_ok_iff.mp hf, he⟩, hlast, hvalid⟩
  · rintro ⟨u, f, e, ⟨hu, hf, he⟩, hlast, hvalid⟩
    exact ⟨u, f, e, layerOfText_eq_ok_iff.mpr hu, layerOfText_eq_ok_iff.mpr hf, he, hlast, hvalid⟩

variable {reader : FileReader (StateM σ)}

theorem load_of_consulted (quiet : reader.Quiet) (s : σ) {env : Layer.Environment} {user explicit : Option Path}
    {projectDir : Path} {u f e : Layer} (h : Consulted (reader.view s) env user explicit projectDir u f e)
    {c : Config} (hc : Layer.LastSet {} [u, f, e] c) :
    load reader env user explicit projectDir s = ((c.validate.mapError LoadError.invalid).map fun _ => c, s) := by
  rw [load_apply quiet, layerOfText_eq_ok_iff.mpr h.user, layerOfText_eq_ok_iff.mpr h.file,
    ← Layer.foldl_applyTo_eq_iff.mpr hc]
  unfold merge
  rw [Layer.ofEnvironment_eq_ok_iff.mpr h.environment]
  rfl

/-- What is loaded has each setting from the last source that sets it. Only the two texts and the
variables have a say, and a missing file counts as an empty one. -/
theorem load_layered (quiet : reader.Quiet) (s : σ) (env : Layer.Environment) (user explicit : Option Path)
    (projectDir : Path) :
    ∃ loaded, load reader env user explicit projectDir s = (loaded, s) ∧
      (∀ c, loaded = .ok c ↔ ∃ u f e, Consulted (reader.view s) env user explicit projectDir u f e ∧
        Layer.LastSet {} [u, f, e] c ∧ c.validate = .ok ()) ∧
      (∀ p cause, explicit = some p → (reader.view s).readText p = .error cause → ∃ e, loaded = .error e) ∧
      (∀ (reader' : FileReader (StateM σ)) s' projectDir' p, reader'.Quiet → explicit = some p →
        userText (reader'.view s') user = userText (reader.view s) user →
        (reader'.view s').readText p = (reader.view s).readText p →
        load reader' env user explicit projectDir' s' = (loaded, s')) ∧
      (∀ (reader' : FileReader (StateM σ)) s' p, reader'.Quiet → (reader.view s).isFile p = false →
        explicit ≠ some p → reader'.view s' = (reader.view s).withFile p "" →
        load reader' env user explicit projectDir s' = (loaded, s')) ∧
      ∀ (start c : Config) layers, layers.foldl (fun c l => l.applyTo c) start = c ↔
        Layer.LastSet start layers c := by
  refine ⟨_, load_apply quiet s env user explicit projectDir, fun c => merge_texts_eq_ok_iff, ?_, ?_, ?_,
    fun _ _ _ => Layer.foldl_applyTo_eq_iff⟩
  · rintro p cause rfl hcause
    have hf : fileText (reader.view s) (some p) projectDir = .error cause := hcause
    rw [hf]
    exact merge_error _ _ env
  · rintro reader' s' projectDir' p quiet' rfl hu hp
    have hf : fileText (reader'.view s') (some p) projectDir' = fileText (reader.view s) (some p) projectDir := hp
    rw [load_apply quiet' s', hu, hf]
    rfl
  · intro reader' s' p quiet' missing hne hview
    rw [load_apply quiet' s', hview]
    have hu : userText ((reader.view s).withFile p "") user = userText (reader.view s) user := by
      cases user with
      | none => rfl
      | some q => exact held_withFile missing q
    have hf : fileText ((reader.view s).withFile p "") explicit projectDir =
        fileText (reader.view s) explicit projectDir := by
      cases explicit with
      | none => exact held_withFile missing _
      | some q => exact if_neg fun heq : q = p => hne (heq ▸ rfl)
    rw [hu, hf]

theorem load_layered_overridden :
    let disk : Disk := {
      files := [
        (["lazypack.toml"], "bundle-suffix = \"-a\"\nminify-js = true".toUTF8),
        (["user.toml"], "minify-js = false\ntranspile-command = [\"sh\"]".toUTF8)] }
    let env : Layer.Environment := fun name => if name = "LAZYPACK_BUNDLE_SUFFIX" then some "-b" else none
    load Disk.fileReader env (some ⟨"user.toml"⟩) none ⟨""⟩ disk =
      (.ok { minify := true, bundleSuffix := "-b", transpileCommand := some ["sh"] }, disk) := by
  intro disk env
  obtain ⟨loaded, hload, hok, -⟩ := load_layered Disk.quiet_fileReader disk env (some ⟨"user.toml"⟩) none ⟨""⟩
  have consulted : Consulted (Disk.fileReader.view disk) env (some ⟨"user.toml"⟩) none ⟨""⟩
      { minify := some false, transpileCommand := some ["sh"] }
      { minify := some true, bundleSuffix := some "-a" } { bundleSuffix := some "-b" } := {
    user := ⟨"minify-js = false\ntranspile-command = [\"sh\"]", by decide +kernel,
      Layer.ofToml_eq_ok_iff.mp (by decide +kernel)⟩
    file := ⟨"bundle-suffix = \"-a\"\nminify-js = true", by decide +kernel,
      Layer.ofToml_eq_ok_iff.mp (by decide +kernel)⟩
    environment := Layer.ofEnvironment_eq_ok_iff.mp (by decide +kernel) }
  rw [hload, (hok _).mpr ⟨_, _, _, consulted, Layer.foldl_applyTo_eq_iff.mp rfl, by decide +kernel⟩]
  rfl

end Config

end LazyBundle
