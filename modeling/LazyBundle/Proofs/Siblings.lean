import LazyBundle.Proofs.Failures

/-!
# Siblings of a failure

A write that is refused stops no other write of its phase. Whatever paths are
locked, a build makes the same calls for entries and chunks, one for every mode
and destination, and it makes the calls for the core bundles exactly when
nothing has gone wrong before. Every path then holds what the last call that was
granted has put there (`generate_cancelsNothing`).
-/

namespace LazyBundle

/-! ## Calls on a store -/

/-- What a call puts at a path when some paths are locked. -/
def Call.content? (locked : Path → Bool) (p : Path) : Call → Option String
  | .file q content => if q.Same p ∧ ¬ locked q then some content else none
  | .entry _ _ _ => none

namespace Step

theorem content?_granted (locked : Path → Bool) (p : Path) (step : Step) :
    (if granted locked step then content? p step else none) = (call? step).bind (Call.content? locked p) := by
  cases step with
  | absent e => rfl
  | write q content =>
    by_cases hq : locked q <;> simp [granted, failure?, call?, Call.content?, content?, hq]

theorem lastContent?_granted (locked : Path → Bool) (p : Path) (steps : List Step) :
    lastContent? p (steps.filter (granted locked)) =
      (steps.filterMap call?).reverse.findSome? (Call.content? locked p) := by
  induction steps with
  | nil => rfl
  | cons step steps ih =>
    have hstep := content?_granted locked p step
    by_cases hg : granted locked step
    · rw [List.filter_cons_of_pos hg, lastContent?_cons, ih]
      rw [if_pos hg] at hstep
      cases hc : call? step <;> simp [hc, hstep, List.findSome?_append]
    · rw [List.filter_cons_of_neg hg, ih]
      rw [if_neg hg] at hstep
      cases hc : call? step with
      | none => simp [hc]
      | some call =>
        rw [hc, Option.bind_some] at hstep
        simp [hc, ← hstep, List.findSome?_append]

/-- After recorded steps a path holds what the last call that was granted has put there. -/
theorem read_calls {σ : Type} {fs : FileSystem (StateM σ)} {locked : Path → Bool} {read : σ → Path → Option String}
    (hfs : fs.Keeps locked read) (steps : List Step) (s : σ) (p : Path) :
    let j := (runAll fs.recorded steps ⟨s, []⟩).2
    read j.state p = (j.calls.reverse.findSome? (Call.content? locked p)).or (read s p) := by
  intro j
  have hcalls : j.calls = steps.filterMap call? := calls_runAll fs steps ⟨s, []⟩
  have hstate : j.state = (runAll fs steps s).2 := state_runAll fs steps ⟨s, []⟩
  rw [hstate, hcalls, read_runAll hfs, lastContent?_granted]

end Step

namespace Build

/-! ## The calls of a build -/

section calls

variable {m : Type → Type} (b : Build m) (modules : List EntryModule)

def entryFileCalls (a : Artifact) : List Call :=
  match a.entryKey.bind (EntryModule.find? modules) with
  | none => []
  | some e => e.modeNames.flatMap fun mode =>
      b.fileCalls (b.finish a.code).code (entryFileName (bundleId b.config e.entryKey (b.finish a.code).code mode))

def moduleFileCalls (classes : Classes) : List Call :=
  classes.entries.flatMap (b.entryFileCalls modules) ++
    classes.chunks.flatMap fun a => b.fileCalls (b.finish a.code).code a.fileName

theorem calls_stepsOf (a : Artifact) :
    (b.stepsOf (b.prepare modules a).1).filterMap Step.call? = b.entryFileCalls modules a := by
  rw [stepsOf_artifact, entryFileCalls]
  cases a.entryKey.bind (EntryModule.find? modules) with
  | none => rfl
  | some e => simp only [List.filterMap_flatMap, Step.calls_copies, fileCalls]

theorem calls_moduleSteps (classes : Classes) :
    (b.moduleSteps modules classes).filterMap Step.call? = b.moduleFileCalls modules classes := by
  rw [moduleSteps, List.filterMap_append, List.filterMap_flatMap, List.filterMap_flatMap]
  simp only [calls_stepsOf, chunkSteps, Step.calls_copies]
  rfl

end calls

/-- What a build has carried out, whether or not it has failed. -/
theorem exists_steps {σ : Type} {b : Build (StateM σ)} (hw : b.host.writer = .ofConfig b.config b.host.files)
    (modules : List EntryModule) (artifacts : List Artifact) (s : σ) :
    ∃ steps, (b.generate modules artifacts s).2 = (Step.runAll b.host.files steps s).2 ∧
      ((∃ e, b.readyCodes modules (classify artifacts) s = .error e) ∧
          steps = b.moduleSteps modules (classify artifacts) ∨
        ∃ codes, b.readyCodes modules (classify artifacts) s = .ok codes ∧
          steps = b.moduleSteps modules (classify artifacts) ++ b.coreSteps (classify artifacts).cores codes) := by
  cases hr : b.readyCodes modules (classify artifacts) s with
  | error e => exact ⟨_, (generate_of_error hw hr).2, .inl ⟨⟨e, rfl⟩, rfl⟩⟩
  | ok codes => exact ⟨_, (generate_of_codes hw hr).2, .inr ⟨codes, rfl, rfl⟩⟩

/-- Whatever is refused, a build attempts every write of the entries and the chunks, and every write of
the core bundles unless something has gone wrong before. The last write that is granted stays. -/
theorem generate_cancelsNothing (config : Config) (stages : Stages) (threshold : Nat) (modules : List EntryModule)
    (artifacts : List Artifact) (s : Store) :
    let classes := classify artifacts
    let free := standard config stages (Store.fileSystem fun _ => false) threshold
    let early := free.moduleFileCalls modules classes
    ∃ data, ∀ locked : Path → Bool,
      let b := standard config stages (Store.fileSystem locked).recorded threshold
      let late := free.coreCalls classes.cores (classes.cores.map fun core => (inject core.code data).code)
      let run := b.generate modules artifacts ⟨s, []⟩
      run.2.calls = (if b.earlyFailures locked modules classes = [] then early ++ late else early) ∧
        ∀ p, run.2.state.read? p = (run.2.calls.reverse.findSome? (Call.content? locked p)).or (s.read? p) := by
  intro classes free early
  -- the data of the loader depend on the entries alone
  let loaded := Bundle.lazyData threshold config.defaultMode (free.bundles modules classes)
  refine ⟨loaded.toOption.getD "", ?_⟩
  intro locked b late run
  have hready := refusalOf_readyCodes (b := b) (Store.fileSystem_refuses locked).recorded modules classes ⟨s, []⟩
  obtain ⟨steps, hrun, hsteps⟩ := exists_steps (b := b) rfl modules artifacts ⟨s, []⟩
  have hcalls : run.2.calls = steps.filterMap Step.call? := by
    rw [hrun]
    exact Step.calls_runAll (Store.fileSystem locked) steps ⟨s, []⟩
  refine ⟨?_, fun p => ?_⟩
  · rcases hsteps with ⟨⟨e, he⟩, rfl⟩ | ⟨codes, hcodes, rfl⟩
    · rw [he] at hready
      have hne : b.earlyFailures locked modules classes ≠ [] := by
        intro hn
        rw [hn] at hready
        cases hready
      rw [if_neg hne, hcalls]
      exact b.calls_moduleSteps modules classes
    · rw [hcodes] at hready
      obtain ⟨data, hdata, rfl, -⟩ := b.coreCodes_ok (readyCodes_ok hcodes).2
      have hloaded : loaded = .ok data := hdata
      rw [if_pos (List.head?_eq_none_iff.mp hready.symm), hcalls, List.filterMap_append, calls_coreSteps]
      have hlate : late = b.coreCalls classes.cores (classes.cores.map fun core => (inject core.code data).code) := by
        show free.coreCalls classes.cores (classes.cores.map fun core =>
          (inject core.code (loaded.toOption.getD "")).code) = _
        rw [hloaded]
        rfl
      rw [hlate]
      exact congrArg (· ++ _) (b.calls_moduleSteps modules classes)
  · rw [show run.2 = _ from hrun]
    exact Step.read_calls (Store.fileSystem_keeps locked) steps s p

end Build

end LazyBundle
