import LazyBundle.Proofs.EffectiveConfig

/-!
# Exit codes

A run exits with success exactly when it tells no error. That is the case when
the configuration and the manifest can be loaded, the build succeeds, and no
error has been reported in it (`run_exitCode`).
-/

namespace LazyBundle.Cli

/-! ## Errors among the records -/

def Record.isError (r : Record) : Bool :=
  r.severity == .error

theorem isError_diagnosticRecord (d : Diagnostic) : (diagnosticRecord d).isError = d.isError := by
  unfold diagnosticRecord
  cases d.isError <;> rfl

/-- The errors that a build tells: its own, or those that were reported. -/
theorem errors_records (r : Result) (config : Config) :
    (r.records config).filter Record.isError =
      match r.report.result with
      | .error e => [tell .error e.message]
      | .ok _ => (r.report.log.filter Diagnostic.isError).map diagnosticRecord := by
  have hunplaced : (r.report.unplaced.map unplacedRecord).filter Record.isError = [] := by
    simp [Record.isError, unplacedRecord]
  unfold Result.records
  rw [List.filter_append, hunplaced, List.nil_append]
  cases r.report.result with
  | error e => rfl
  | ok bundles =>
    have hplanned : (r.planned.map fun p => tell .info ("Would write " ++ p.text)).filter Record.isError = [] := by
      simp [Record.isError, tell]
    have hlog : (r.report.log.map diagnosticRecord).filter Record.isError =
        (r.report.log.filter Diagnostic.isError).map diagnosticRecord := by
      rw [List.filter_map]
      congr 2
      funext d
      exact isError_diagnosticRecord d
    have hsummary (n k l : Nat) : [tell .info (summary n k l)].filter Record.isError = [] := rfl
    simp only [List.filter_append, hplanned, hlog, hsummary, List.nil_append, List.append_nil]

theorem succeeded_iff (r : Result) :
    r.succeeded ↔ (∃ bundles, r.report.result = .ok bundles) ∧ ∀ d ∈ r.report.log, d.level ≠ .error := by
  unfold Result.succeeded
  cases r.report.result with
  | error e => simp [Except.toBool]
  | ok bundles => simp [Except.toBool, Log.hasErrors, Diagnostic.isError]

theorem noError_iff_succeeded (r : Result) (config : Config) :
    (∀ d ∈ r.records config, d.severity ≠ .error) ↔ r.succeeded := by
  have hfilter : (∀ d ∈ r.records config, d.severity ≠ .error) ↔ (r.records config).filter Record.isError = [] := by
    simp [List.filter_eq_nil_iff, Record.isError]
  rw [hfilter, errors_records, succeeded_iff]
  cases r.report.result with
  | error e => simp
  | ok bundles => simp [List.filter_eq_nil_iff, Diagnostic.isError]

/-! ## The whole run -/

section run

variable {σ : Type} (s : Surroundings (StateM σ)) (manifest : Path) (o : Options) (t : σ)

/-- The run loads its configuration, which is valid with the options, and its manifest, and then builds with
this report. -/
def Surroundings.Reports (report : Report (List Bundle)) : Prop :=
  let loading := Config.load s.reader s.environment (Config.userFile s.environment) o.config s.projectDir t
  let listing := Manifest.load s.reader manifest loading.2
  ∃ loaded contents, loading.1 = .ok loaded ∧ (o.applyTo loaded).validate = .ok () ∧ listing.1 = .ok contents ∧
    report = (s.build (o.applyTo loaded) contents o.dryRun listing.2).1.report

theorem reports_of_prepared {config : Config} {contents : Manifest}
    (h : (s.prepare manifest o t).1 = .ok (config, contents)) (report : Report (List Bundle)) :
    s.Reports manifest o t report ↔
      report = (s.build config contents o.dryRun (s.prepare manifest o t).2).1.report := by
  unfold Surroundings.Reports
  rw [prepare_eq] at h ⊢
  cases hl : (Config.load s.reader s.environment (Config.userFile s.environment) o.config s.projectDir t).1 with
  | error cause => rw [hl] at h; cases h
  | ok loaded =>
    cases hv : (o.applyTo loaded).validate with
    | error cause => rw [hl] at h; simp only [hv] at h; cases h
    | ok _ =>
      simp only [hl, hv] at h ⊢
      obtain ⟨listed, hlisted, heq⟩ := map_eq_ok_iff.mp h
      cases heq
      rw [mapError_eq_ok_iff.mp hlisted]
      simp [hv]

theorem not_reports_of_error {e : Failure} (h : (s.prepare manifest o t).1 = .error e) (report : Report (List Bundle)) :
    ¬s.Reports manifest o t report := by
  rintro ⟨loaded, contents, hl, hv, hm, -⟩
  rw [prepare_eq, hl] at h
  simp only [hv, hm] at h
  cases h

/-- A run fails before its build, or it ends as the result of the build says. -/
theorem runWith_cases :
    (∃ e : Failure, (s.runWith manifest o t).1 = ⟨1, [tell .error e.message], none⟩ ∧
      ∀ report, ¬s.Reports manifest o t report) ∨
    ∃ (r : Result) (config : Config), (s.runWith manifest o t).1 = ⟨if r.succeeded then 0 else 1, r.records config, none⟩ ∧
      ∀ report, s.Reports manifest o t report ↔ report = r.report := by
  unfold Surroundings.runWith
  rw [Step.bind_apply]
  cases hp : (s.prepare manifest o t).1 with
  | error e => exact .inl ⟨e, rfl, not_reports_of_error s manifest o t hp⟩
  | ok prepared =>
    obtain ⟨config, contents⟩ := prepared
    exact .inr ⟨(s.build config contents o.dryRun (s.prepare manifest o t).2).1, config, rfl,
      reports_of_prepared s manifest o t hp⟩

variable {s manifest o t}

/-- A run whose arguments are right exits with success exactly when none of its records, shown or not, is an
error, and exactly when its build succeeds and no error was reported in it. Warnings do not count, and an
error counts even though all files are written. -/
theorem run_exitCode {args : List String} (hargs : parseArgs args = .ok (manifest, o)) :
    let exitCode := (s.run args t).1.exitCode
    let told := (s.runWith manifest o t).1.records
    (exitCode = 0 ∨ exitCode = 1) ∧
    (s.run args t).1.records = told.filter (recordFilter s.recordRules o.verbosity).shows ∧
    (exitCode = 0 ↔ ∀ r ∈ told, r.severity ≠ .error) ∧
    (exitCode = 0 ↔ ∃ report, s.Reports manifest o t report ∧ (∃ bundles, report.result = .ok bundles) ∧
      ∀ d ∈ report.log, d.level ≠ .error) ∧
    ∀ report bundles, s.Reports manifest o t report → report.result = .ok bundles →
      ((∀ d ∈ report.log, d.level = .warning) → exitCode = 0) ∧
      ((∃ d ∈ report.log, d.level = .error) → exitCode = 1) := by
  intro exitCode told
  have hcode : exitCode = (s.runWith manifest o t).1.exitCode := by
    unfold exitCode Surroundings.run
    rw [hargs]
    rfl
  have hrecords : (s.run args t).1.records = told.filter (recordFilter s.recordRules o.verbosity).shows := by
    unfold Surroundings.run
    rw [hargs]
    rfl
  rw [hrecords, hcode]
  unfold told
  rcases runWith_cases s manifest o t with ⟨e, hrun, hnone⟩ | ⟨r, config, hrun, hreport⟩
  · rw [hrun]
    refine ⟨.inr rfl, rfl, ?_, ?_, ?_⟩
    · simp [tell]
    · exact ⟨fun h => (by cases h), fun ⟨report, h, _⟩ => absurd h (hnone report)⟩
    · exact fun report _ h => absurd h (hnone report)
  · rw [hrun]
    have hzero : (if r.succeeded then 0 else 1) = 0 ↔ r.succeeded := by simp
    refine ⟨?_, rfl, ?_, ?_, ?_⟩
    · cases r.succeeded <;> simp
    · exact hzero.trans (noError_iff_succeeded r config).symm
    · rw [hzero, succeeded_iff]
      simp [hreport]
    · intro report bundles h hok
      obtain rfl := (hreport report).mp h
      refine ⟨fun hwarnings => ?_, fun ⟨d, hd, hlevel⟩ => ?_⟩
      · refine hzero.mpr ((succeeded_iff r).mpr ⟨⟨bundles, hok⟩, fun d hd => ?_⟩)
        rw [hwarnings d hd]
        decide
      · refine if_neg fun hs => ?_
        exact ((succeeded_iff r).mp hs).2 d hd hlevel

end run

/-- The minifier cannot be started, so the file is written as it came and the run fails. -/
theorem run_exitCode_unminified :
    let disk : Disk := { files := [(["lazypack.toml"], "minify-command = [\"terser\"]".toUTF8),
      (["manifest.json"], "\x7b\"artifacts\":[\x7b\"fileName\":\"b.js\",\"code\":\"2\"\x7d]\x7d".toUTF8)] }
    let s := Surroundings.onDisk
    let o : Options := { manifest := some ⟨"manifest.json"⟩, minify := true }
    let args := ["--manifest", "manifest.json", "--minify"]
    parseArgs args = .ok (⟨"manifest.json"⟩, o) ∧
      ∃ report, s.Reports ⟨"manifest.json"⟩ o disk report ∧ report.result = .ok [] ∧
        (∃ d ∈ report.log, d.level = .error) ∧ (s.run args disk).1.exitCode = 1 := by
  intro disk s o args
  have hargs : parseArgs args = .ok (⟨"manifest.json"⟩, o) := by decide +kernel
  let config : Config := { minify := true, minifyCommand := some ["terser"] }
  let contents : Manifest := ⟨[⟨"b.js", "2", none, .chunk⟩], []⟩
  have prepared : (s.prepare ⟨"manifest.json"⟩ o disk).1 = .ok (config, contents) := by decide +kernel
  let report := (s.build config contents o.dryRun (s.prepare ⟨"manifest.json"⟩ o disk).2).1.report
  have hreport : s.Reports ⟨"manifest.json"⟩ o disk report := (reports_of_prepared s _ o disk prepared report).mpr rfl
  have hresult : report.result = .ok [] := by decide +kernel
  have herror : ∃ d ∈ report.log, d.level = .error := by decide +kernel
  have hfails := ((run_exitCode (s := s) (t := disk) hargs).2.2.2.2 report [] hreport hresult).2 herror
  exact ⟨hargs, report, hreport, hresult, herror, hfails⟩

end LazyBundle.Cli
