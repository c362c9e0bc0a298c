import LazyBundle.Proofs.TimedBuilds

/-!
# Stages that report

Code that comes with a report is dropped (`Stages.Agree.finish`). What a build does
depends on its stages only through the code they leave and what they report: two
builds that finish code alike end alike, with logs that are related as the
reports of their stages are (`generate_refinished`).
-/

namespace LazyBundle

open Step

/-! ## Finished code -/

theorem Transformed.code_outcome (t : Transformed) (code : String) :
    t.outcome.code code = if t.diagnostics = [] then t.code else code := by
  unfold outcome
  split
  · rename_i h
    rw [h]
    rfl
  · rename_i h
    rw [if_neg h]
    rfl

theorem Optimized.code_outcome (o : Optimized) (code : String) :
    o.outcome.code code = if o.diagnostics = [] then o.output.getD code else code := by
  unfold outcome
  split
  · rename_i h hout
    rw [h, hout]
    rfl
  · rename_i h hout
    rw [h, hout]
    rfl
  · rename_i hsome hnone
    have hne : o.diagnostics ≠ [] := by
      intro h
      cases ho : o.output with
      | none => exact hnone h ho
      | some code => exact hsome code h ho
    rw [if_neg hne]
    rfl

namespace Stages

/-- The stages report the same everywhere, and give the same wherever they report nothing. -/
structure Agree (s s' : Stages) : Prop where
  transformed : ∀ code target, (s.transform code target).diagnostics = (s'.transform code target).diagnostics
  transformedCode : ∀ code target, (s.transform code target).diagnostics = [] →
    (s.transform code target).code = (s'.transform code target).code
  optimized : ∀ code target, (s.optimize code target).diagnostics = (s'.optimize code target).diagnostics
  optimizedCode : ∀ code target, (s.optimize code target).diagnostics = [] →
    (s.optimize code target).output = (s'.optimize code target).output

def AlwaysReport (s : Stages) : Prop :=
  ∀ code target, (s.transform code target).diagnostics ≠ [] ∧ (s.optimize code target).diagnostics ≠ []

variable {s s' : Stages} (code : String) (target : Target) (minified : Bool)

theorem Agree.downlevel (h : s.Agree s') : s.downlevel code target = s'.downlevel code target := by
  unfold Stages.downlevel
  by_cases ht : target.isLegacy
  · simp only [ht, if_true, Transformed.code_outcome, ← h.transformed]
    by_cases hd : (s.transform code target).diagnostics = []
    · rw [if_pos hd, if_pos hd, h.transformedCode code target hd]
    · rw [if_neg hd, if_neg hd]
  · rw [if_neg ht, if_neg ht]

theorem Agree.minify (h : s.Agree s') : s.minify minified code target = s'.minify minified code target := by
  unfold Stages.minify
  cases minified with
  | false => rfl
  | true =>
    simp only [if_true, Optimized.code_outcome, ← h.optimized]
    by_cases hd : (s.optimize code target).diagnostics = []
    · rw [if_pos hd, if_pos hd, h.optimizedCode code target hd]
    · rw [if_neg hd, if_neg hd]

theorem Agree.finish (h : s.Agree s') : s.finish code target minified = s'.finish code target minified := by
  rw [Stages.finish, Stages.finish, h.downlevel, h.minify]

theorem AlwaysReport.downlevel (h : s.AlwaysReport) : (s.downlevel code target).code = code := by
  unfold Stages.downlevel
  by_cases ht : target.isLegacy
  · rw [if_pos ht]
    exact ((s.transform code target).code_outcome code).trans (if_neg (h code target).1)
  · rw [if_neg ht]

theorem AlwaysReport.minify (h : s.AlwaysReport) : (s.minify minified code target).code = code := by
  cases minified with
  | false => rfl
  | true => exact ((s.optimize code target).code_outcome code).trans (if_neg (h code target).2)

theorem AlwaysReport.finish (h : s.AlwaysReport) : (s.finish code target minified).code = code := by
  show (s.minify minified (s.downlevel code target).code target).code = code
  rw [h.minify, h.downlevel]

/-- Where the stages always report, it does not matter which of them are called. -/
theorem AlwaysReport.finish_congr (h : s.AlwaysReport) (target' : Target) (minified' : Bool) :
    (s.finish code target minified).code = (s.finish code target' minified').code :=
  (h.finish code target minified).trans (h.finish code target' minified').symm

end Stages

/-! ## Reports that differ in their logs -/

structure Log.Additive (R : Log → Log → Prop) : Prop where
  refl : ∀ log, R log log
  append : ∀ {a a' b b'}, R a a' → R b b' → R (a ++ b) (a' ++ b')

theorem Log.Additive.flatMap {R : Log → Log → Prop} (hR : Log.Additive R) {ι : Type} {f g : ι → Log}
    (h : ∀ i, R (f i) (g i)) (l : List ι) : R (l.flatMap f) (l.flatMap g) := by
  induction l with
  | nil => exact hR.refl []
  | cons i l ih =>
    rw [List.flatMap_cons, List.flatMap_cons]
    exact hR.append (h i) ih

def EndAlike {σ α : Type} (R : Log → Log → Prop) (x y : StateM σ (Report α)) : Prop :=
  ∀ s, (x s).1.Matches R (y s).1 ∧ (x s).2 = (y s).2

namespace Build

variable {σ : Type}

/-- The build with other stages, or other parts of its configuration that concern them. -/
def refinished (b : Build (StateM σ)) (target : Target) (minify : Bool) (stages : Stages) : Build (StateM σ) where
  config := { b.config with target, minify }
  host := { b.host with stages }

section refinished

variable {R : Log → Log → Prop} (hR : Log.Additive R) {b : Build (StateM σ)} {target : Target} {minify : Bool}
  {stages : Stages}
  (hcode : ∀ code, (b.finish code).code = ((b.refinished target minify stages).finish code).code)
  (hlog : ∀ code, R (b.finish code).diagnostics ((b.refinished target minify stages).finish code).diagnostics)
include hR hcode hlog

omit hR in
theorem prepare_refinished (modules : List EntryModule) (a : Artifact) (hnil : R [] []) :
    (b.prepare modules a).1 = ((b.refinished target minify stages).prepare modules a).1 ∧
      R (b.prepare modules a).2 ((b.refinished target minify stages).prepare modules a).2 := by
  unfold prepare
  cases a.entryKey.bind (EntryModule.find? modules) with
  | none => exact ⟨rfl, hnil⟩
  | some e => exact ⟨by simp only [hcode], hlog a.code⟩

theorem writeModules_refinished (modules : List EntryModule) (classes : Classes) :
    EndAlike R (b.writeModules modules classes) ((b.refinished target minify stages).writeModules modules classes) := by
  have hprepare := fun a => prepare_refinished hcode hlog modules a (hR.refl [])
  have hprepared : b.prepared modules classes.entries =
      (b.refinished target minify stages).prepared modules classes.entries :=
    List.map_congr_left fun a _ => (hprepare a).1
  have hchunks : b.chunkJob = (b.refinished target minify stages).chunkJob := by
    funext a
    unfold chunkJob
    rw [hcode]
    rfl
  have hentries := hR.flatMap (fun a => (hprepare a).2) classes.entries
  have hchunkLogs := hR.flatMap (fun a : Artifact => hlog a.code) classes.chunks
  intro s
  rw [writeModules_eq_joinGroups, writeModules_eq_joinGroups, hprepared, hchunks, map_apply, map_apply]
  refine ⟨⟨?_, hR.append hentries hchunkLogs, rfl⟩, rfl⟩
  simp only [moduleReport, hprepared]
  rfl

theorem writeCores_refinished (cores : List Artifact) (bundles : List Bundle) :
    EndAlike R (b.writeCores cores bundles) ((b.refinished target minify stages).writeCores cores bundles) := by
  have hreport : b.coreReport cores bundles = (b.refinished target minify stages).coreReport cores bundles :=
    b.coreReport_congr (b.refinished target minify stages) rfl rfl rfl cores bundles
  have hsteps : ∀ codes, b.coreSteps cores codes = (b.refinished target minify stages).coreSteps cores codes := by
    intro codes
    simp only [coreSteps, hcode]
    rfl
  intro s
  rw [writeCores_eq, writeCores_eq, ← result_coreReport, ← result_coreReport, ← hreport]
  cases (b.coreReport cores bundles).result with
  | error e => exact ⟨⟨rfl, hR.refl _, rfl⟩, rfl⟩
  | ok codes =>
    have hcoreLogs := hR.flatMap (fun c : Artifact × String => hlog c.2) (cores.zip codes)
    simp only [← hsteps]
    exact ⟨⟨rfl, hR.append (hR.refl _) hcoreLogs, rfl⟩, rfl⟩

/-- Builds that finish code alike end alike, with related logs. -/
theorem generate_refinished (modules : List EntryModule) (artifacts : List Artifact) :
    EndAlike R (b.generate modules artifacts) ((b.refinished target minify stages).generate modules artifacts) := by
  intro s
  obtain ⟨hfirst, hstate⟩ := writeModules_refinished hR hcode hlog modules (classify artifacts) s
  rw [generate, generate, bind_apply, bind_apply, ← hstate, ← hfirst.result]
  cases (b.writeModules modules (classify artifacts) s).1.result with
  | error e => exact ⟨⟨rfl, hfirst.log, rfl⟩, rfl⟩
  | ok bundles =>
    obtain ⟨hsecond, hend⟩ := writeCores_refinished hR hcode hlog (classify artifacts).cores bundles
      (b.writeModules modules (classify artifacts) s).2
    refine ⟨⟨?_, hR.append hfirst.log hsecond.log, hsecond.unplaced⟩, hend⟩
    exact congrArg (Except.map fun _ => bundles) hsecond.result

end refinished

end Build

end LazyBundle
