import LazyBundle.Build.Session
import LazyBundle.Proofs.Replay

/-!
# Building again

What a build does depends on its inputs only, not on the files it finds or on the
log (`generate_report_eq`, `exists_steps_run`). The steps that it carries out,
carried out once more, find every file as they leave it, even where some of them
write to one path (`runAll_again`). So a second build changes no file and
reports what the first one has reported (`generateIn_twice`).
-/

namespace LazyBundle

/-! ## Writes to paths that are there -/

namespace Store

section entries

variable {p q : Path} {l : List (Path × String)}

theorem insertEntry_found {content : String}
    (h : (l.find? fun e => e.1.Same p).map (·.2) = some content) : insertEntry p content l = l := by
  induction l with
  | nil => cases h
  | cons e l ih =>
    obtain ⟨r, old⟩ := e
    by_cases hr : r.Same p
    · have hold : old = content := by simpa [hr] using h
      simp [insertEntry, hr, hold]
    · have hl : (l.find? fun e => e.1.Same p).map (·.2) = some content := by simpa [hr] using h
      simp [insertEntry, hr, ih hl]

/-- The spelling of a path that is there stays, so of two writes to it only the second counts. -/
theorem insertEntry_same (hpq : p.Same q) (hp : (l.find? fun e => e.1.Same p).isSome) (c d : String) :
    insertEntry q d (insertEntry p c l) = insertEntry q d l := by
  induction l with
  | nil => cases hp
  | cons e l ih =>
    obtain ⟨r, old⟩ := e
    by_cases hr : r.Same p
    · simp [insertEntry, hr, hr.trans hpq]
    · have hrq : ¬ r.Same q := fun h => hr (h.trans hpq.symm)
      have hl : (l.find? fun e => e.1.Same p).isSome := by simpa [hr] using hp
      simp [insertEntry, hr, hrq, ih hl]

theorem insertEntry_comm (hpq : ¬ p.Same q) (hp : (l.find? fun e => e.1.Same p).isSome) (c d : String) :
    insertEntry q d (insertEntry p c l) = insertEntry p c (insertEntry q d l) := by
  induction l with
  | nil => cases hp
  | cons e l ih =>
    obtain ⟨r, old⟩ := e
    by_cases hr : r.Same p
    · have hrq : ¬ r.Same q := fun h => hpq (hr.symm.trans h)
      simp [insertEntry, hr, hrq]
    · have hl : (l.find? fun e => e.1.Same p).isSome := by simpa [hr] using hp
      by_cases hrq : r.Same q
      · simp [insertEntry, hr, hrq]
      · simp [insertEntry, hr, hrq, ih hl]

end entries

variable {s : Store} {p q : Path}

theorem write_of_read? {content : String} (h : s.read? p = some content) : s.write p content = s := by
  rw [write, insertEntry_found h]

theorem isSome_find? (h : (s.read? p).isSome) : (s.entries.find? fun e => e.1.Same p).isSome := by
  rwa [read?, Option.isSome_map] at h

theorem write_same (hpq : p.Same q) (hp : (s.read? p).isSome) (c d : String) :
    (s.write p c).write q d = s.write q d := by
  rw [write, write, write, insertEntry_same hpq (isSome_find? hp)]

theorem write_comm (hpq : ¬ p.Same q) (hp : (s.read? p).isSome) (c d : String) :
    (s.write p c).write q d = (s.write q d).write p c := by
  rw [write, write, write, write, insertEntry_comm hpq (isSome_find? hp)]

end Store

/-! ## The same steps once more -/

namespace Step

variable (locked : Path → Bool)

theorem run_not_granted {step : Step} (h : ¬ granted locked step) (s : Store) :
    (run (Store.fileSystem locked) step s).2 = s := by
  cases step with
  | absent e => rfl
  | write p content =>
    have hp : locked p = true := by simpa [granted, failure?] using h
    show (((Store.fileSystem locked).write p content s).2) = s
    simp [Store.fileSystem, hp]

theorem run_granted {step : Step} (h : granted locked step) :
    ∃ p content, step = .write p content ∧ ∀ s, (run (Store.fileSystem locked) step s).2 = s.write p content := by
  cases step with
  | absent e => cases h
  | write p content =>
    have hp : locked p = false := by simpa [granted, failure?] using h
    refine ⟨p, content, rfl, fun s => ?_⟩
    show (((Store.fileSystem locked).write p content s).2) = _
    simp [Store.fileSystem, hp]

/-- A write to a path that is there leaves no trace when the steps write there later. -/
theorem runAll_overwritten {p : Path} {steps : List Step} {s : Store} (hp : (s.read? p).isSome)
    (hlast : lastContent? p (steps.filter (granted locked)) ≠ none) (content : String) :
    (runAll (Store.fileSystem locked) steps (s.write p content)).2 = (runAll (Store.fileSystem locked) steps s).2 := by
  induction steps generalizing s with
  | nil => exact absurd rfl hlast
  | cons step steps ih =>
    simp only [runAll_cons]
    by_cases hg : granted locked step
    · obtain ⟨q, d, rfl, hrun⟩ := run_granted locked hg
      rw [hrun, hrun]
      by_cases hpq : p.Same q
      · rw [Store.write_same hpq hp]
      · -- the step goes elsewhere, so the later write is among the others
        have hqp : ¬ q.Same p := fun h => hpq h.symm
        rw [List.filter_cons_of_pos hg, lastContent?_cons, content?, if_neg hqp, Option.or_none] at hlast
        have hp' : ((s.write q d).read? p).isSome := by rwa [Store.read?_write, if_neg hqp]
        rw [Store.write_comm hpq hp, ih hp' hlast]
    · rw [run_not_granted locked hg, run_not_granted locked hg]
      rw [List.filter_cons_of_neg hg] at hlast
      exact ih hp hlast

/-- Steps change nothing in a store that holds what each path gets from the last of them. -/
theorem runAll_settled {steps : List Step} {s : Store}
    (h : ∀ p content, lastContent? p (steps.filter (granted locked)) = some content → s.read? p = some content) :
    (runAll (Store.fileSystem locked) steps s).2 = s := by
  induction steps with
  | nil => rfl
  | cons step steps ih =>
    have hrest : (runAll (Store.fileSystem locked) steps s).2 = s := by
      refine ih fun p content hp => h p content ?_
      by_cases hg : granted locked step
      · rw [List.filter_cons_of_pos hg, lastContent?_cons, hp, Option.some_or]
      · rw [List.filter_cons_of_neg hg, hp]
    rw [runAll_cons]
    by_cases hg : granted locked step
    · obtain ⟨p, content, rfl, hrun⟩ := run_granted locked hg
      have hstep : content? p (.write p content) = some content := if_pos (Path.Same.refl p)
      have hp := h p
      rw [List.filter_cons_of_pos hg, lastContent?_cons, hstep] at hp
      simp only [hrun]
      cases hlast : lastContent? p (steps.filter (granted locked)) with
      | none =>
        -- this is the last step that writes to the path, and its content is there
        rw [hlast] at hp
        rw [Store.write_of_read? (hp content rfl), hrest]
      | some last =>
        rw [hlast] at hp
        have hread : (s.read? p).isSome := by rw [hp last rfl]; rfl
        rw [runAll_overwritten locked hread (by rw [hlast]; exact Option.some_ne_none last), hrest]
    · simp only [run_not_granted locked hg, hrest]

theorem runAll_again (steps : List Step) (s : Store) :
    let t := (runAll (Store.fileSystem locked) steps s).2
    (runAll (Store.fileSystem locked) steps t).2 = t := by
  intro t
  refine runAll_settled locked fun p content hp => ?_
  rw [read?_runAll, hp, Option.some_or]

end Step

/-! ## A build that does not look -/

theorem eq_of_refusalOf {ε : Type} {x y : Except ε Unit} (h : refusalOf x = refusalOf y) : x = y := by
  cases x with
  | error e => exact (refusalOf_eq_some_iff.mp h.symm).symm
  | ok u =>
    obtain ⟨v, rfl⟩ := refusalOf_eq_none_iff.mp h.symm
    rfl

namespace Build

open Step

section

variable {σ : Type} {b : Build (StateM σ)} {locked : Path → Bool} (hfs : b.host.files.Refuses locked)
  (modules : List EntryModule) (artifacts : List Artifact)
include hfs

theorem outcome_eq (steps : List Step) (s t : σ) :
    (runAll b.host.files steps s).1 = (runAll b.host.files steps t).1 := by
  apply eq_of_refusalOf
  rw [refusalOf_runAll hfs, refusalOf_runAll hfs]

theorem writeCores_report_eq (cores : List Artifact) (bundles : List Bundle) (s t : σ) :
    (b.writeCores cores bundles s).1 = (b.writeCores cores bundles t).1 := by
  cases hc : b.coreCodes cores bundles with
  | error e =>
    obtain ⟨r, -, hcores⟩ := b.writeCores_error hc
    rw [hcores]
    rfl
  | ok codes =>
    obtain ⟨report, -, hcores⟩ := b.writeCores_ok hc
    rw [hcores, map_apply, map_apply, outcome_eq hfs _ s t]

variable (hw : b.host.writer = .ofConfig b.config b.host.files)
include hw

/-- The report of a build does not depend on the files that are there. -/
theorem generate_report_eq (s t : σ) :
    (b.generate modules artifacts s).1 = (b.generate modules artifacts t).1 := by
  rw [generate_eq b hw, bind_apply, bind_apply, outcome_eq hfs _ s t]
  cases (runAll b.host.files (b.moduleSteps modules (classify artifacts)) t).1 with
  | error e => rfl
  | ok u =>
    simp only [map_apply]
    rw [writeCores_report_eq hfs _ _ _ (runAll b.host.files (b.moduleSteps modules (classify artifacts)) t).2]

/-- Neither do the steps that it carries out. -/
theorem exists_steps_run :
    ∃ steps, ∀ s, (b.generate modules artifacts s).2 = (runAll b.host.files steps s).2 := by
  have hready : ∀ s t, b.readyCodes modules (classify artifacts) s = b.readyCodes modules (classify artifacts) t := by
    intro s t
    rw [readyCodes, readyCodes, outcome_eq hfs _ s t]
  by_cases h : ∃ s codes, b.readyCodes modules (classify artifacts) s = .ok codes
  · obtain ⟨s, codes, hs⟩ := h
    exact ⟨_, fun t => (generate_of_codes hw ((hready t s).trans hs)).2⟩
  · refine ⟨b.moduleSteps modules (classify artifacts), fun s => ?_⟩
    cases hs : b.readyCodes modules (classify artifacts) s with
    | error e => exact (generate_of_error hw hs).2
    | ok codes => exact absurd ⟨s, codes, hs⟩ h

end

/-- A second build in a session ends as the first one did, leaves all files with their places and
spellings, and reports the same once more. -/
theorem generateIn_twice (config : Config) (stages : Stages) (locked : Path → Bool) (threshold : Nat)
    (modules : List EntryModule) (artifacts : List Artifact) (s : Store) :
    let b := standard config stages (Store.fileSystem locked) threshold
    let first := b.generateIn modules artifacts ⟨s, []⟩
    let second := b.generateIn modules artifacts first.2
    second.1 = first.1 ∧ second.2.state = first.2.state ∧ second.2.log = first.2.log ++ first.2.log := by
  intro b first second
  have hfs := Store.fileSystem_refuses locked
  have hreport : (b.generate modules artifacts first.2.state).1 = (b.generate modules artifacts s).1 :=
    generate_report_eq (b := b) hfs modules artifacts rfl _ s
  obtain ⟨steps, hsteps⟩ := exists_steps_run (b := b) hfs modules artifacts rfl
  have hfirst : first.2.state = (runAll b.host.files steps s).2 := hsteps s
  refine ⟨congrArg Report.result hreport, ?_, ?_⟩
  · show (b.generate modules artifacts first.2.state).2 = first.2.state
    rw [hsteps, hfirst]
    exact runAll_again locked steps s
  · show first.2.log ++ (b.generate modules artifacts first.2.state).1.log = _
    rw [hreport]
    rfl

end Build

end LazyBundle
