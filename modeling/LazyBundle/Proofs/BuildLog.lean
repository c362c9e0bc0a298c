import LazyBundle.Build.Session
import LazyBundle.Proofs.Failures
import LazyBundle.Proofs.ReportedStages

/-!
# The log of a build

Every code that a build finishes adds what the stages report on it, once, in the
order of entries, chunks and core bundles. Between chunks and core bundles stand
the warnings about core bundles without placeholder. A build that does not come
to its core bundles stops after the chunks (`generateIn_log`).
-/

namespace LazyBundle

open Step

theorem flatMap_filter {α β : Type} (p : α → Bool) (f : α → List β) (l : List α) :
    (l.filter p).flatMap f = l.flatMap fun a => if p a then f a else [] := by
  induction l with
  | nil => rfl
  | cons a l ih => by_cases ha : p a <;> simp [ha, ih]

/-! ## What stages report -/

namespace Stages

variable (s : Stages) (code : String) (target : Target) (minified : Bool)

def lowered : String :=
  if target = .es5 ∧ (s.transform code target).diagnostics = [] then (s.transform code target).code else code

def reports : Log :=
  (if target = .es5 then (s.transform code target).diagnostics else []) ++
    (if minified then (s.optimize (s.lowered code target) target).diagnostics else [])

theorem code_downlevel : (s.downlevel code target).code = s.lowered code target := by
  unfold downlevel lowered
  cases target with
  | es2017 => simp [Target.isLegacy]
  | es5 => simp [Target.isLegacy, Transformed.code_outcome]

theorem diagnostics_downlevel :
    (s.downlevel code target).diagnostics = if target = .es5 then (s.transform code target).diagnostics else [] := by
  unfold downlevel
  cases target <;> simp [Target.isLegacy]

theorem diagnostics_minify :
    (s.minify minified code target).diagnostics = if minified then (s.optimize code target).diagnostics else [] := by
  unfold minify
  cases minified <;> simp

theorem diagnostics_finish : (s.finish code target minified).diagnostics = s.reports code target minified := by
  simp only [finish, reports, code_downlevel, diagnostics_downlevel, diagnostics_minify]

end Stages

namespace Build

section

variable {m : Type → Type} (b : Build m)

def reports (code : String) : Log :=
  b.host.stages.reports code b.config.target b.config.minify

theorem diagnostics_finish (code : String) : (b.finish code).diagnostics = b.reports code :=
  b.host.stages.diagnostics_finish code b.config.target b.config.minify

theorem moduleLog_eq (modules : List EntryModule) (classes : Classes) :
    b.moduleLog modules classes =
      (classes.entries.filter fun a => (a.entryKey.bind (EntryModule.find? modules)).isSome).flatMap
          (fun a => b.reports a.code) ++
        classes.chunks.flatMap fun a => b.reports a.code := by
  have hentry : ∀ a, (b.prepare modules a).2 =
      if (a.entryKey.bind (EntryModule.find? modules)).isSome then b.reports a.code else [] := by
    intro a
    unfold prepare
    cases a.entryKey.bind (EntryModule.find? modules) with
    | none => rfl
    | some e => exact b.diagnostics_finish a.code
  simp only [moduleLog, hentry, flatMap_filter, diagnostics_finish]

/-! ## Warnings about placeholders -/

def warnings (cores : List Artifact) : Log :=
  (cores.filter fun core => ¬ placeholder.toList <:+: core.code.toList).map fun core => unplacedWarning core.fileName

theorem log_injectLazyData {data : String} (hdata : data.isEmpty = false) (core : Artifact) :
    (b.injectLazyData core data).log = if b.config.requirePlaceholder then [] else warnings [core] := by
  rw [injectLazyData, warnings]
  rcases inject_of_data hdata core.code with ⟨⟨code, hcode⟩, hin⟩ | ⟨hcode, hout⟩
  · rw [hcode]
    cases hr : b.config.requirePlaceholder <;> simp [hin]
  · rw [hcode]
    cases hr : b.config.requirePlaceholder <;> simp [hout]

theorem log_injectAll {data : String} (hdata : data.isEmpty = false) (cores : List Artifact) :
    (b.injectAll data cores).log = if b.config.requirePlaceholder then [] else warnings cores := by
  induction cores with
  | nil => simp [injectAll, warnings]
  | cons core cores ih =>
    have hfirst := b.log_injectLazyData hdata core
    have hresult := b.refusalOf_injectLazyData hdata core
    have hcons : warnings (core :: cores) = warnings [core] ++ warnings cores := by
      rw [warnings, warnings, warnings, ← List.map_append, ← List.filter_append, List.singleton_append]
    rw [injectAll]
    cases hr : b.config.requirePlaceholder with
    | true =>
      rw [hr, if_pos rfl] at hfirst ih
      cases (b.injectLazyData core data).result with
      | error e => simp [hfirst]
      | ok code => simp [hfirst, ih]
    | false =>
      -- where no placeholder is required, every core bundle gets a code
      rw [hr, if_neg Bool.false_ne_true] at hfirst ih
      rw [unplaceable, hr, if_neg Bool.false_ne_true] at hresult
      cases hc : (b.injectLazyData core data).result with
      | error e => rw [hc] at hresult; cases hresult
      | ok code => simp [hfirst, ih, hcons]

/-- Where a placeholder is required there is nothing to warn about, unless a core bundle lacks it. -/
theorem log_injectAll_of_unplaceable {data : String} (hdata : data.isEmpty = false) (cores : List Artifact) :
    (b.injectAll data cores).log = if b.unplaceable cores = [] then warnings cores else [] := by
  rw [log_injectAll b hdata]
  unfold unplaceable
  by_cases hr : b.config.requirePlaceholder
  · simp only [hr, if_true, List.map_eq_nil_iff]
    by_cases hnil : (cores.filter fun core => ¬ placeholder.toList <:+: core.code.toList) = []
    · rw [if_pos hnil, warnings, hnil, List.map_nil]
    · rw [if_neg hnil]
  · simp [hr]

end

/-! ## The log of the core bundles -/

variable {σ : Type} (b : Build (StateM σ))

/-- The data for the core bundles, if they have a form and no core bundle lacks a placeholder that it must
have. -/
def dataFor? (cores : List Artifact) (bundles : List Bundle) : Option String :=
  match Bundle.lazyData b.host.threshold b.config.defaultMode bundles with
  | .error _ => none
  | .ok data => if b.unplaceable cores = [] then some data else none

/-- The data that a build puts into its core bundles, if it comes to that. -/
def placedData? (modules : List EntryModule) (classes : Classes) (s : σ) : Option String :=
  match (b.writeModules modules classes s).1.result with
  | .error _ => none
  | .ok bundles => b.dataFor? classes.cores bundles

def coreLog (cores : List Artifact) : Option String → Log
  | none => []
  | some data => warnings cores ++ cores.flatMap fun core => b.reports (inject core.code data).code

theorem log_writeCores (cores : List Artifact) (bundles : List Bundle) (s : σ) :
    (b.writeCores cores bundles s).1.log = b.coreLog cores (b.dataFor? cores bundles) := by
  unfold dataFor?
  unfold writeCores
  cases hd : Bundle.lazyData b.host.threshold b.config.defaultMode bundles with
  | error key => rfl
  | ok data =>
    have hdata := (Bundle.lazyData_read hd).1
    have hlog := b.log_injectAll_of_unplaceable hdata cores
    have hresult := b.refusalOf_injectAll hdata cores
    simp only
    cases hi : (b.injectAll data cores).result with
    | error e =>
      rw [hi] at hresult
      have hne : b.unplaceable cores ≠ [] := by
        intro hn
        rw [hn] at hresult
        cases hresult
      rw [if_neg hne] at hlog ⊢
      exact hlog
    | ok codes =>
      rw [hi] at hresult
      have hnil : b.unplaceable cores = [] := List.head?_eq_none_iff.mp hresult.symm
      obtain ⟨rfl, -⟩ := b.injectAll_ok hi
      have hcodes : cores.zip (cores.map fun core => (inject core.code data).code) =
          cores.map fun core => (core, (inject core.code data).code) := by
        have := List.zip_map' (f := id) (g := fun core : Artifact => (inject core.code data).code) (l := cores)
        rwa [List.map_id] at this
      simp only [writeInjected_eq, hcodes, List.flatMap_map, diagnostics_finish]
      rw [if_pos hnil] at hlog ⊢
      rw [coreLog, ← hlog]
      rfl

theorem log_writeModules (modules : List EntryModule) (classes : Classes) (s : σ) :
    (b.writeModules modules classes s).1.log = b.moduleLog modules classes := by
  rw [writeModules_eq_joinGroups, map_apply]
  rfl

theorem log_generate (modules : List EntryModule) (artifacts : List Artifact) (s : σ) :
    (b.generate modules artifacts s).1.log = b.moduleLog modules (classify artifacts) ++
      b.coreLog (classify artifacts).cores (b.placedData? modules (classify artifacts) s) := by
  have hfirst := b.log_writeModules modules (classify artifacts) s
  unfold placedData?
  cases hr : (b.writeModules modules (classify artifacts) s).1.result with
  | error e =>
    rw [generate_of_modules_error hr]
    exact hfirst.trans (List.append_nil _).symm
  | ok bundles =>
    rw [generate_of_modules_ok hr]
    show (b.writeModules modules (classify artifacts) s).1.log ++ _ = _
    rw [hfirst, log_writeCores]

/-- A build adds to the log what the stages report on the entries, the chunks and the core bundles, each
once, with the warnings about placeholders before the core bundles. -/
theorem generateIn_log (modules : List EntryModule) (artifacts : List Artifact) (session : Session σ) :
    let classes := classify artifacts
    let after := (b.generateIn modules artifacts session).2.log
    after = session.log ++
        (classes.entries.filter fun a => (a.entryKey.bind (EntryModule.find? modules)).isSome).flatMap
          (fun a => b.reports a.code) ++
        classes.chunks.flatMap (fun a => b.reports a.code) ++
        b.coreLog classes.cores (b.placedData? modules classes session.state) ∧
      (after.hasErrors ↔ ∃ d ∈ after, d.level = .error) := by
  intro classes after
  have hlog : after = session.log ++ (b.generate modules artifacts session.state).1.log := rfl
  constructor
  · rw [hlog, log_generate, moduleLog_eq]
    simp only [List.append_assoc, classes]
  · simp [Log.hasErrors, Diagnostic.isError]

end Build

end LazyBundle
