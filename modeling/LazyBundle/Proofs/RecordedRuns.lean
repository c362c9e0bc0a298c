import LazyBundle.Cli.Run
import LazyBundle.Build.Journal
import LazyBundle.Proofs.EffectiveConfig
import LazyBundle.Proofs.Following

/-!
# Runs with a journal

A run may keep a journal of what it writes. The journal has no influence on the
run (`follows_recorded`), and until the build starts nothing is entered in it
(`prepare_alike`).
-/

namespace LazyBundle

open Step

/-! ## Actions that only read -/

/-- Two actions give the same, each at its own state, and leave these states as they are. -/
structure GiveAlike {σ τ α : Type} (x : StateM σ α) (s : σ) (y : StateM τ α) (t : τ) : Prop where
  result : (x s).1 = (y t).1
  left : (x s).2 = s
  right : (y t).2 = t

section alike

variable {σ τ α β : Type} {s : σ} {t : τ}

theorem GiveAlike.of_eq {x : StateM σ α} {y : StateM τ α} {a : α} (hx : x s = (a, s)) (hy : y t = (a, t)) :
    GiveAlike x s y t := by
  constructor <;> simp [hx, hy]

theorem giveAlike_pure (a : α) : GiveAlike (pure a) s (pure a) t :=
  ⟨rfl, rfl, rfl⟩

theorem GiveAlike.bind {x : StateM σ α} {y : StateM τ α} (h : GiveAlike x s y t) {f : α → StateM σ β}
    {g : α → StateM τ β} (hfg : ∀ a, GiveAlike (f a) s (g a) t) : GiveAlike (x >>= f) s (y >>= g) t := by
  obtain ⟨hresult, hleft, hright⟩ := hfg (x s).1
  constructor
  · rw [bind_apply, bind_apply, ← h.result, h.left, h.right, hresult]
  · rw [bind_apply, h.left, hleft]
  · rw [bind_apply, ← h.result, h.right, hright]

variable {reader : FileReader (StateM σ)} {reader' : FileReader (StateM τ)} (quiet : reader.Quiet)
  (quiet' : reader'.Quiet) (hview : reader.view s = reader'.view t)
include quiet quiet' hview

theorem readText_alike (p : Path) : GiveAlike (reader.readText p) s (reader'.readText p) t := by
  constructor
  · rw [quiet.readText, quiet'.readText, hview]
  · rw [quiet.readText]
  · rw [quiet'.readText]

namespace Manifest

theorem Listing.code?_alike (base : Path) (l : Listing) :
    GiveAlike (l.code? reader base) s (l.code? reader' base) t := by
  unfold code?
  cases l.code with
  | some code => cases l.codeFile <;> exact giveAlike_pure _
  | none =>
    cases l.codeFile with
    | none => exact giveAlike_pure _
    | some file => exact (readText_alike quiet quiet' hview _).bind fun content => giveAlike_pure _

theorem resolve_alike (base : Path) (ls : List Listing) :
    GiveAlike (resolve reader base ls) s (resolve reader' base ls) t := by
  induction ls with
  | nil => exact giveAlike_pure _
  | cons l ls ih =>
    refine (l.code?_alike quiet quiet' hview base).bind fun code => ?_
    cases code with
    | error e => exact giveAlike_pure _
    | ok code => exact ih.bind fun rest => giveAlike_pure _

theorem parse_alike (content : String) (base : Path) :
    GiveAlike (parse reader content base) s (parse reader' content base) t := by
  unfold parse
  cases Contents.reader.ofText content with
  | error e => exact giveAlike_pure _
  | ok contents =>
    exact (resolve_alike quiet quiet' hview base contents.artifacts).bind fun artifacts => giveAlike_pure _

theorem load_alike (path : Path) : GiveAlike (load reader path) s (load reader' path) t := by
  refine (readText_alike quiet quiet' hview path).bind fun content => ?_
  cases content with
  | error e => exact giveAlike_pure _
  | ok content => exact (parse_alike quiet quiet' hview content _).bind fun manifest => giveAlike_pure _

end Manifest

theorem Config.load_alike (env : Layer.Environment) (user explicit : Option Path) (projectDir : Path) :
    GiveAlike (Config.load reader env user explicit projectDir) s
      (Config.load reader' env user explicit projectDir) t := by
  constructor
  · rw [Config.load_apply quiet, Config.load_apply quiet', hview]
  · rw [Config.load_apply quiet]
  · rw [Config.load_apply quiet']

end alike

namespace Cli

theorem prepare_alike {σ τ : Type} {s : Surroundings (StateM σ)} {s' : Surroundings (StateM τ)} {t : σ} {t' : τ}
    (quiet : s.reader.Quiet) (quiet' : s'.reader.Quiet) (hview : s.reader.view t = s'.reader.view t')
    (henvironment : s.environment = s'.environment) (hproject : s.projectDir = s'.projectDir)
    (manifest : Path) (o : Options) :
    GiveAlike (s.prepare manifest o) t (s'.prepare manifest o) t' := by
  have hload := Config.load_alike quiet quiet' hview s.environment (Config.userFile s.environment) o.config s.projectDir
  have hmanifest := Manifest.load_alike quiet quiet' hview manifest
  have hs := prepare_eq s manifest o t
  have hs' := prepare_eq s' manifest o t'
  rw [← henvironment, ← hproject] at hs'
  simp only [← hload.result, hload.left, hload.right, ← hmanifest.result, hmanifest.left, hmanifest.right] at hs hs'
  cases hl : (Config.load s.reader s.environment (Config.userFile s.environment) o.config s.projectDir t).1 with
  | error cause =>
    simp only [hl] at hs hs'
    exact .of_eq hs hs'
  | ok loaded =>
    simp only [hl] at hs hs'
    cases hv : (o.applyTo loaded).validate with
    | error cause =>
      simp only [hv] at hs hs'
      exact .of_eq hs hs'
    | ok u =>
      simp only [hv] at hs hs'
      exact .of_eq hs hs'

theorem prepare_state {σ : Type} {s : Surroundings (StateM σ)} (quiet : s.reader.Quiet) (manifest : Path) (o : Options)
    (t : σ) : (s.prepare manifest o t).2 = t := by
  have hview : s.reader.view t = s.reader.view t := rfl
  exact (prepare_alike quiet quiet hview rfl rfl manifest o).left

end Cli

/-! ## The journal of a run -/

section recorded

variable {σ : Type}

def FileReader.recorded (r : FileReader (StateM σ)) : FileReader (StateM (Journal σ)) where
  isFile p := fun j => ((r.isFile p j.state).1, { j with state := (r.isFile p j.state).2 })
  readText p := fun j => ((r.readText p j.state).1, { j with state := (r.readText p j.state).2 })

theorem FileReader.Quiet.recorded {r : FileReader (StateM σ)} (quiet : r.Quiet) : r.recorded.Quiet where
  isFile p j := Prod.ext rfl (congrArg (Journal.mk · j.attempts) (congrArg Prod.snd (quiet.isFile p j.state)))
  readText p j := Prod.ext rfl (congrArg (Journal.mk · j.attempts) (congrArg Prod.snd (quiet.readText p j.state)))

namespace Cli

def Surroundings.recorded (s : Surroundings (StateM σ)) : Surroundings (StateM (Journal σ)) where
  reader := s.reader.recorded
  files := s.files.recorded
  runner := s.runner
  environment := s.environment
  projectDir := s.projectDir
  recordRules := s.recordRules

variable {s : Surroundings (StateM σ)} (quiet : s.reader.Quiet)
include quiet

theorem prepare_recorded (manifest : Path) (o : Options) (j : Journal σ) :
    GiveAlike (s.recorded.prepare manifest o) j (s.prepare manifest o) j.state := by
  have hquiet : s.recorded.reader.Quiet := quiet.recorded
  have hview : s.recorded.reader.view j = s.reader.view j.state := rfl
  exact prepare_alike hquiet quiet hview rfl rfl manifest o

/-- A run goes as it would without its journal. -/
theorem follows_recorded (args : List String) : Follows Journal.state (s.recorded.run args) (s.run args) := by
  unfold Surroundings.run
  cases parseArgs args with
  | error stop => exact follows_pure _
  | ok parsed =>
    obtain ⟨manifest, o⟩ := parsed
    refine Follows.bind ?_ fun outcome => follows_pure _
    refine Follows.bind ?_ fun prepared => ?_
    · intro j
      have halike := prepare_recorded quiet manifest o j
      exact ⟨halike.result, (congrArg Journal.state halike.left).trans halike.right.symm⟩
    · cases prepared with
      | error e => exact follows_pure _
      | ok prepared =>
        refine Follows.bind ?_ fun r => follows_pure _
        unfold Surroundings.build
        split
        · exact follows_pure _
        · exact ((Build.over_recorded prepared.1 _ s.files _).generate _ _).bind fun report => follows_pure _

end Cli

end recorded

end LazyBundle
