import LazyBundle.Proofs.EffectiveConfig
import LazyBundle.Proofs.TextOrder

/-!
# Diagnostics that a run tells

The alerts of a run whose build succeeds are the diagnostics of the build, each
at its level and in the order of the log. A run whose build fails has its error
as the only alert and tells no diagnostic (`run_alerts`).
-/

namespace LazyBundle

theorem Diagnostic.head?_text (d : Diagnostic) : d.text.toList.head? = some '[' := by
  unfold text
  iterate 6 refine head?_toList_append ?_ _
  rfl

theorem WriteError.head?_message (e : WriteError) : ∃ c ≠ '[', e.message.toList.head? = some c := by
  cases e with
  | createDirectory directory cause | writeFile path cause =>
    refine ⟨'F', by decide, ?_⟩
    iterate 3 refine head?_toList_append ?_ _
    rfl
  | refused path => exact ⟨'r', by decide, head?_toList_append rfl _⟩
  | refusedMode mode => exact ⟨'w', by decide, head?_toList_append rfl _⟩

theorem BuildError.head?_message (e : BuildError) : ∃ c ≠ '[', e.message.toList.head? = some c := by
  cases e with
  | missingEntryModule fileName entryKey =>
    refine ⟨'n', by decide, ?_⟩
    iterate 4 refine head?_toList_append ?_ _
    rfl
  | emptyBundle entryKey =>
    refine ⟨'b', by decide, ?_⟩
    iterate 2 refine head?_toList_append ?_ _
    rfl
  | missingPlaceholder fileName =>
    refine ⟨'c', by decide, ?_⟩
    iterate 2 refine head?_toList_append ?_ _
    rfl
  | write cause => exact cause.head?_message

namespace Cli

/-- Whether a record tells an error or a warning of the command line itself. -/
def Record.isAlert (r : Record) : Bool :=
  r.source == commandLine && (r.severity == .error || r.severity == .warn)

theorem isAlert_diagnosticRecord (d : Diagnostic) : (diagnosticRecord d).isAlert = true := by
  unfold diagnosticRecord
  cases d.isError <;> rfl

theorem isAlert_unplacedRecord (fileName : String) : (unplacedRecord fileName).isAlert = false := by
  unfold Record.isAlert unplacedRecord
  rfl

theorem diagnosticRecord_ne_error (d : Diagnostic) (e : BuildError) : diagnosticRecord d ≠ tell .error e.message := by
  intro h
  have hm : d.text = e.message := congrArg Record.message h
  obtain ⟨c, hc, he⟩ := e.head?_message
  rw [← hm, d.head?_text] at he
  exact hc (Option.some.inj he).symm

def alerts (report : Report (List Bundle)) : List Record :=
  match report.result with
  | .error e => [tell .error e.message]
  | .ok _ => report.log.map diagnosticRecord

theorem alerts_of_error {report : Report (List Bundle)} {e : BuildError} (h : report.result = .error e) :
    alerts report = [tell .error e.message] := by
  rw [alerts, h]

theorem alerts_of_ok {report : Report (List Bundle)} {bundles : List Bundle} (h : report.result = .ok bundles) :
    alerts report = report.log.map diagnosticRecord := by
  rw [alerts, h]

theorem filter_records (r : Result) (config : Config) :
    (r.records config).filter Record.isAlert = alerts r.report := by
  have hunplaced : (r.report.unplaced.map unplacedRecord).filter Record.isAlert = [] := by
    simp [isAlert_unplacedRecord]
  unfold Result.records alerts
  rw [List.filter_append, hunplaced, List.nil_append]
  cases r.report.result with
  | error e => rfl
  | ok bundles =>
    have hplanned : (r.planned.map fun p => tell .info ("Would write " ++ p.text)).filter Record.isAlert = [] := by
      simp [Record.isAlert, tell]
    have hlog : (r.report.log.map diagnosticRecord).filter Record.isAlert = r.report.log.map diagnosticRecord := by
      simp [List.filter_eq_self, isAlert_diagnosticRecord]
    simp only [List.filter_append, hplanned, hlog]
    simp [Record.isAlert, tell]

theorem map_diagnosticRecord_sublist_iff {report : Report (List Bundle)} {records : List Record}
    (h : records.filter Record.isAlert = alerts report) :
    (report.log.map diagnosticRecord).Sublist records ↔
      (∃ bundles, report.result = .ok bundles) ∨ report.log = [] := by
  constructor
  · intro hsub
    cases hr : report.result with
    | ok bundles => exact .inl ⟨bundles, rfl⟩
    | error e =>
      refine .inr (List.eq_nil_iff_forall_not_mem.mpr fun d hd => ?_)
      have hmem : diagnosticRecord d ∈ records.filter Record.isAlert :=
        List.mem_filter.mpr ⟨hsub.subset (List.mem_map_of_mem hd), isAlert_diagnosticRecord d⟩
      rw [h, alerts_of_error hr] at hmem
      exact diagnosticRecord_ne_error d e (List.mem_singleton.mp hmem)
  · rintro (⟨bundles, hr⟩ | hnil)
    · rw [← alerts_of_ok hr, ← h]
      exact List.filter_sublist
    · rw [hnil]
      exact List.nil_sublist _

/-! ## What is shown -/

theorem shows_upTo (limit : Record.Limit) (r : Record) :
    (Record.Filter.upTo limit).shows r = decide (r.severity.rank ≤ limit) := by
  unfold Record.Filter.shows Record.Filter.deciding? Record.Filter.upTo
  simp

/-- Without rules of the environment a run shows all its alerts. -/
theorem shows_of_isAlert {r : Record} (h : r.isAlert = true) (verbosity : Nat) :
    (recordFilter none verbosity).shows r = true := by
  have hrank : r.severity.rank ≤ 2 := by
    unfold Record.isAlert at h
    cases hs : r.severity with
    | error | warn => decide
    | info | debug | trace => simp [hs] at h
  have hupTo {limit : Record.Limit} (hlimit : 2 ≤ limit) : (Record.Filter.upTo limit).shows r = true :=
    (shows_upTo limit r).trans (decide_eq_true (Nat.le_trans hrank hlimit))
  unfold recordFilter
  match verbosity with
  | 0 | 1 | _ + 2 => exact hupTo (by decide)

/-! ## The whole run -/

section run

variable {σ : Type} {s : Surroundings (StateM σ)} {manifest : Path} {o : Options} {t : σ}

theorem filter_records_run {args : List String} (hargs : parseArgs args = .ok (manifest, o))
    (hrules : s.recordRules = none) :
    (s.run args t).1.records.filter Record.isAlert = (s.runWith manifest o t).1.records.filter Record.isAlert := by
  unfold Surroundings.run
  rw [hargs, hrules]
  change (((s.runWith manifest o t).1.records.filter (recordFilter none o.verbosity).shows).filter Record.isAlert) = _
  rw [List.filter_filter]
  refine List.filter_congr fun r _ => ?_
  cases hr : r.isAlert with
  | false => rfl
  | true => exact shows_of_isAlert hr o.verbosity

/-- A run that comes to its build tells the diagnostics of the build if it succeeds, and only its
error if it fails. So it tells all diagnostics exactly when it succeeds or there are none. What it
tells is shown unless the environment has rules for it. -/
theorem run_alerts {config : Config} {contents : Manifest}
    (prepared : (s.prepare manifest o t).1 = .ok (config, contents)) :
    let report := (s.build config contents o.dryRun (s.prepare manifest o t).2).1.report
    let told := (s.runWith manifest o t).1.records
    told.filter Record.isAlert = alerts report ∧
      ((report.log.map diagnosticRecord).Sublist told ↔
        (∃ bundles, report.result = .ok bundles) ∨ report.log = []) ∧
      ∀ args, parseArgs args = .ok (manifest, o) → s.recordRules = none →
        (s.run args t).1.records.filter Record.isAlert = alerts report := by
  intro report told
  have halerts : told.filter Record.isAlert = alerts report := by
    unfold told Surroundings.runWith
    rw [Step.bind_apply, prepared]
    exact filter_records _ config
  exact ⟨halerts, map_diagnosticRecord_sublist_iff halerts, fun _ hargs hrules =>
    (filter_records_run hargs hrules).trans halerts⟩

end run

def diskOf (artifacts : String) : Disk where
  files := [(["manifest.json"], ("\x7b\"artifacts\":[" ++ artifacts ++ "]\x7d").toUTF8)]

theorem run_alerts_unminified :
    let disk := diskOf "\x7b\"fileName\":\"b.js\",\"code\":\"2\"\x7d"
    (Surroundings.onDisk.run ["--manifest", "manifest.json", "--minify"] disk).1.records.filter Record.isAlert =
      [tell .warn "[warning] Minify: no command configured for target es2017, code left unchanged"] := by
  intro disk
  let o : Options := { manifest := some ⟨"manifest.json"⟩, minify := true }
  have prepared : (Surroundings.onDisk.prepare ⟨"manifest.json"⟩ o disk).1 =
      .ok ({ minify := true }, ⟨[⟨"b.js", "2", none, .chunk⟩], []⟩) := by decide +kernel
  have shown := (run_alerts prepared).2.2 ["--manifest", "manifest.json", "--minify"] (by decide +kernel) rfl
  exact shown.trans (by decide +kernel)

/-- An entry without entry module ends the build, and what the minifier has reported is not told. -/
theorem run_hides_diagnostic :
    let disk := diskOf ("\x7b\"fileName\":\"a.js\",\"code\":\"1\",\"isComponent\":true\x7d," ++
      "\x7b\"fileName\":\"b.js\",\"code\":\"2\"\x7d")
    let s := Surroundings.onDisk
    let o : Options := { manifest := some ⟨"manifest.json"⟩, minify := true }
    ∃ config contents d, (s.prepare ⟨"manifest.json"⟩ o disk).1 = .ok (config, contents) ∧
      d ∈ (s.build config contents o.dryRun (s.prepare ⟨"manifest.json"⟩ o disk).2).1.report.log ∧
      diagnosticRecord d ∉ (s.run ["--manifest", "manifest.json", "--minify"] disk).1.records := by
  intro disk s o
  refine ⟨{ minify := true }, ⟨[⟨"a.js", "1", none, .componentEntry⟩, ⟨"b.js", "2", none, .chunk⟩], []⟩,
    ⟨.warning, "Minify", "no command configured for target es2017, code left unchanged", none⟩, ?_, ?_, ?_⟩
  · decide +kernel
  · decide +kernel
  · decide +kernel

end Cli

end LazyBundle
