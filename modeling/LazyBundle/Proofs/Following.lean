import LazyBundle.Build.Journal
import LazyBundle.Proofs.Script

/-!
# Builds on a richer state

A state may hold more than a build works on, such as a list of what its calls
have given. When the file system and the module writer do to the part that
counts what they do to it alone, so does the whole build (`Over.generate`).
-/

namespace LazyBundle

open Step

/-- The action does to a part of its state what the other action does, with the same result. -/
def Follows {σ τ α : Type} (part : τ → σ) (x : StateM τ α) (y : StateM σ α) : Prop :=
  ∀ t, (x t).1 = (y (part t)).1 ∧ part (x t).2 = (y (part t)).2

section actions

variable {σ τ α β ι : Type} {part : τ → σ}

theorem follows_pure (a : α) : Follows part (pure a) (pure a) :=
  fun _ => ⟨rfl, rfl⟩

theorem Follows.bind {x : StateM τ α} {y : StateM σ α} (h : Follows part x y) {f : α → StateM τ β}
    {g : α → StateM σ β} (hfg : ∀ a, Follows part (f a) (g a)) : Follows part (x >>= f) (y >>= g) := by
  intro t
  obtain ⟨hresult, hstate⟩ := h t
  rw [bind_apply, bind_apply, hresult, ← hstate]
  exact hfg _ _

theorem Follows.map {x : StateM τ α} {y : StateM σ α} (h : Follows part x y) (f : α → β) :
    Follows part (f <$> x) (f <$> y) := by
  rw [map_eq_pure_bind, map_eq_pure_bind]
  exact h.bind fun a => follows_pure (f a)

theorem follows_mapM {x : ι → StateM τ α} {y : ι → StateM σ α} (h : ∀ i, Follows part (x i) (y i)) (l : List ι) :
    Follows part (l.mapM x) (l.mapM y) := by
  induction l with
  | nil => exact follows_pure []
  | cons i l ih =>
    rw [List.mapM_cons, List.mapM_cons]
    apply (h i).bind
    intro a
    apply ih.bind
    intro as
    exact follows_pure (a :: as)

/-! ## Jobs -/

structure Job.Follows (part : τ → σ) (j : Job (StateM τ) α) (j' : Job (StateM σ) α) : Prop where
  wait : j.wait = j'.wait
  run : LazyBundle.Follows part j.run j'.run

theorem follows_joinAll {job : ι → Job (StateM τ) α} {job' : ι → Job (StateM σ) α}
    (h : ∀ i, (job i).Follows part (job' i)) (l : List ι) :
    Follows part (Job.joinAll (l.map job)) (Job.joinAll (l.map job')) := by
  have hwait : ∀ i, (job i).wait = (job' i).wait := fun i => (h i).wait
  unfold Job.joinAll
  rw [Job.schedule_map, Job.schedule_map, List.mapM_map, List.mapM_map]
  simp only [hwait]
  apply Follows.bind
  · apply follows_mapM
    intro p
    exact (h p.1).run.map _
  · intro results
    exact follows_pure _

theorem follows_joinGroups {ι' : Type} {job : ι → Job (StateM τ) α} {job' : ι → Job (StateM σ) α}
    {single : ι' → Job (StateM τ) β} {single' : ι' → Job (StateM σ) β} (h : ∀ i, (job i).Follows part (job' i))
    (h' : ∀ i, (single i).Follows part (single' i)) (groups : List (List ι)) (singles : List ι') :
    Follows part (Job.joinGroups (groups.map (·.map job)) (singles.map single))
      (Job.joinGroups (groups.map (·.map job')) (singles.map single')) := by
  rw [Job.joinGroups_map, Job.joinGroups_map]
  apply Follows.map
  apply follows_joinAll
  intro i
  cases i with
  | inl i => exact ⟨(h i).wait, (h i).run.map _⟩
  | inr i => exact ⟨(h' i).wait, (h' i).run.map _⟩

theorem follows_writeAll {fs : FileSystem (StateM τ)} {fs' : FileSystem (StateM σ)}
    (h : ∀ p content, Follows part (fs.write p content) (fs'.write p content)) (code fileName : String)
    (destinations : List Path) :
    Follows part (fs.writeAll code fileName destinations) (fs'.writeAll code fileName destinations) := by
  unfold FileSystem.writeAll
  apply Follows.bind
  · apply follows_mapM
    intro d
    exact h _ _
  · intro outcomes
    exact follows_pure _

end actions

/-! ## Builds -/

namespace Build

variable {σ τ : Type}

/-- The build is the other one on a richer state. -/
structure Over (part : τ → σ) (b : Build (StateM τ)) (b' : Build (StateM σ)) : Prop where
  config : b.config = b'.config
  stages : b.host.stages = b'.host.stages
  threshold : b.host.threshold = b'.host.threshold
  files : ∀ p content, Follows part (b.host.files.write p content) (b'.host.files.write p content)
  writer : ∀ destinations e code mode, Follows part (b.host.writer.write destinations e code mode)
    (b'.host.writer.write destinations e code mode)
  wait : b.host.writer.wait = b'.host.writer.wait

variable {part : τ → σ} {b : Build (StateM τ)} {b' : Build (StateM σ)} (h : b.Over part b')
include h

theorem Over.finish (code : String) : b.finish code = b'.finish code := by
  unfold Build.finish
  rw [h.config, h.stages]

theorem Over.prepare (modules : List EntryModule) (a : Artifact) : b.prepare modules a = b'.prepare modules a := by
  unfold Build.prepare
  simp only [h.finish]

theorem Over.writeFile (code fileName : String) :
    Follows part (b.writeFile code fileName) (b'.writeFile code fileName) := by
  unfold Build.writeFile
  rw [h.config]
  exact follows_writeAll h.files code fileName b'.config.destinations

theorem Over.modeJob (p : Entry × String) : (b.modeJob p).Follows part (b'.modeJob p) where
  wait := congrFun h.wait p.2
  run := by
    unfold Build.modeJob
    rw [h.config]
    exact h.writer _ _ _ _

theorem Over.chunkJob (a : Artifact) : (b.chunkJob a).Follows part (b'.chunkJob a) where
  wait := rfl
  run := by
    unfold Build.chunkJob
    rw [h.finish]
    exact h.writeFile _ _

theorem Over.writeModules (modules : List EntryModule) (classes : Classes) :
    Follows part (b.writeModules modules classes) (b'.writeModules modules classes) := by
  have hprepared : b.prepared modules classes.entries = b'.prepared modules classes.entries := by
    unfold Build.prepared
    simp only [h.prepare]
  have hreport : b.moduleReport modules classes = b'.moduleReport modules classes := by
    funext outcomes
    unfold Build.moduleReport Build.moduleLog
    simp only [hprepared, h.prepare, h.finish]
  rw [writeModules_eq_joinGroups, writeModules_eq_joinGroups, hprepared, hreport]
  apply Follows.map
  exact follows_joinGroups h.modeJob h.chunkJob _ _

theorem Over.writeEntry (modules : List EntryModule) (a : Artifact) :
    Follows part (b.writeEntry modules a) (b'.writeEntry modules a) := by
  rw [writeEntry_eq_joinAll, writeEntry_eq_joinAll, h.prepare]
  apply Follows.map
  exact follows_joinAll h.modeJob _

theorem Over.writeChunk (code fileName : String) :
    Follows part (b.writeChunk code fileName) (b'.writeChunk code fileName) := by
  unfold Build.writeChunk
  rw [h.finish]
  apply (h.writeFile _ _).bind
  intro outcome
  exact follows_pure _

theorem Over.writeInjected (cores : List Artifact) (codes : List String) :
    Follows part (b.writeInjected cores codes) (b'.writeInjected cores codes) := by
  unfold Build.writeInjected
  apply Follows.bind
  · apply follows_mapM
    intro c
    exact h.writeChunk _ _
  · intro reports
    exact follows_pure _

theorem Over.writeCores (cores : List Artifact) (bundles : List Bundle) :
    Follows part (b.writeCores cores bundles) (b'.writeCores cores bundles) := by
  have hinject : ∀ data, b.injectAll data cores = b'.injectAll data cores :=
    fun data => b.injectAll_congr b' (congrArg Config.requirePlaceholder h.config) data cores
  unfold Build.writeCores
  simp only [h.threshold, h.config, hinject]
  cases Bundle.lazyData b'.host.threshold b'.config.defaultMode bundles with
  | error entryKey => exact follows_pure _
  | ok data =>
    simp only
    cases (b'.injectAll data cores).result with
    | error e => exact follows_pure _
    | ok codes =>
      apply (h.writeInjected cores codes).bind
      intro written
      exact follows_pure _

theorem Over.generate (modules : List EntryModule) (artifacts : List Artifact) :
    Follows part (b.generate modules artifacts) (b'.generate modules artifacts) := by
  unfold Build.generate
  apply (h.writeModules modules (classify artifacts)).bind
  intro first
  cases first.result with
  | error e => exact follows_pure _
  | ok bundles =>
    apply (h.writeCores (classify artifacts).cores bundles).bind
    intro second
    exact follows_pure _

omit h in
/-- A build whose writes are entered in a journal goes as it would without. -/
theorem over_recorded (config : Config) (stages : Stages) (fs : FileSystem (StateM σ)) (threshold : Nat) :
    Over Journal.state (standard config stages fs.recorded threshold) (standard config stages fs threshold) where
  config := rfl
  stages := rfl
  threshold := rfl
  files _ _ _ := ⟨rfl, rfl⟩
  writer destinations e code mode := by
    have hfiles : ∀ p content, Follows Journal.state (fs.recorded.write p content) (fs.write p content) :=
      fun _ _ _ => ⟨rfl, rfl⟩
    exact (follows_writeAll hfiles code (entryFileName (bundleId config e.entryKey code mode)) destinations).bind
      fun _ => follows_pure _
  wait := rfl

end Build

end LazyBundle
