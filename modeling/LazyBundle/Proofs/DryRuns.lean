import LazyBundle.Proofs.Arguments
import LazyBundle.Proofs.ExitCodes
import LazyBundle.Proofs.RecordedRuns
import LazyBundle.Proofs.TextOrder
import LazyBundle.Proofs.UnrefusedBuilds

/-!
# Dry runs

A dry run builds into a store. If no write of the run in earnest is refused, both
build with the same report, and the store lists what the run in earnest writes, each
path once (`run_dryRun`). On the disk a file may be reached by several paths; the
store has the content of a file that is written only once, by whatever path.
-/

namespace LazyBundle

/-! ## The same writes on a disk and in a store -/

namespace Disk.Writes

variable {d d' : Disk} {writes : List (Path × String)} (h : d.Writes writes d') {w : Path × String} (hw : w ∈ writes)
include h hw

/-- Two spellings of a path lead to one file. -/
theorem fileAt?_eq_of_same {v : Path × String} (hv : v ∈ writes) (hsame : v.1.Same w.1) :
    d'.fileAt? v.1 = d'.fileAt? w.1 := by
  obtain ⟨place, _, hplace, -⟩ := h.held hw
  obtain ⟨place', _, hplace', -⟩ := h.held hv
  rw [hplace, hplace', fileAt?_same hsame hplace' hplace]

/-- A file that is reached by spellings of one path only has in the store what it has on the disk. -/
theorem store_agrees (hpath : ∀ v ∈ writes, d'.fileAt? v.1 = d'.fileAt? w.1 → v.1.Same w.1) :
    ∃ content, (Store.writeAll {} writes).read? w.1 = some content ∧ d'.readText w.1 = .ok content := by
  obtain ⟨place, content, hplace, hlast, hread⟩ := h.readText hw
  refine ⟨content, ?_, hread⟩
  rw [Store.read?_writeAll, ← hlast, lastAt?, ← hplace]
  congr 1
  refine List.find?_congr fun v hv => decide_eq_decide.mpr ?_
  have hmem := List.mem_reverse.mp hv
  exact ⟨h.fileAt?_eq_of_same hw hmem, hpath v hmem⟩

/-- A file that is written once has what is written then. -/
theorem store_agrees_once (honce : (writes.filter fun v => d'.fileAt? v.1 = d'.fileAt? w.1) = [w]) :
    (Store.writeAll {} writes).read? w.1 = some w.2 ∧ d'.readText w.1 = .ok w.2 := by
  have hunique : ∀ v ∈ writes, d'.fileAt? v.1 = d'.fileAt? w.1 → v = w := by
    intro v hv hfile
    have hmem : v ∈ [w] := by
      rw [← honce]
      exact List.mem_filter.mpr ⟨hv, by simpa using hfile⟩
    exact List.mem_singleton.mp hmem
  obtain ⟨content, hstore, hdisk⟩ := h.store_agrees hw fun v hv hfile => by rw [hunique v hv hfile]; exact .refl _
  rw [Store.read?_writeAll, Option.map_eq_some_iff] at hstore
  obtain ⟨v, hfind, rfl⟩ := hstore
  have hv := List.mem_reverse.mp (List.mem_of_find?_eq_some hfind)
  have hsame : v.1.Same w.1 := by simpa using List.find?_some hfind
  obtain rfl := hunique v hv (h.fileAt?_eq_of_same hw hv hsame)
  exact ⟨by rw [Store.read?_writeAll, hfind]; rfl, hdisk⟩

end Disk.Writes

/-- What a store tells of the writes on a disk: it lists each path that is written once, in a spelling that is
used, and has the content of every file that is written only once. -/
structure Store.Foretells (memory : Store) (written : List (Path × String)) (disk : Disk) : Prop where
  paths_written : memory.paths ⊆ written.map (·.1)
  written_listed : ∀ w ∈ written, ∃ p ∈ memory.paths, p.Same w.1
  paths_distinct : memory.paths.Pairwise fun p q => ¬p.Same q
  contentOnce : ∀ w ∈ written, (written.filter fun v => disk.fileAt? v.1 = disk.fileAt? w.1) = [w] →
    memory.read? w.1 = some w.2 ∧ disk.readText w.1 = .ok w.2

theorem Disk.Writes.foretells {d d' : Disk} {writes : List (Path × String)} (h : d.Writes writes d') :
    (Store.writeAll {} writes).Foretells writes d' where
  paths_written := by
    rw [Store.paths_writeAll]
    exact Path.firsts_subset _
  written_listed w hw := by
    rw [Store.paths_writeAll]
    exact (Path.exists_mem_firsts_iff _ w.1).mpr ⟨w.1, List.mem_map_of_mem hw, .refl w.1⟩
  paths_distinct := by
    rw [Store.paths_writeAll]
    exact Path.pairwise_firsts _
  contentOnce _ hw := h.store_agrees_once hw

/-! ## Two runs -/

namespace Cli

def wouldWrite (p : Path) : Record :=
  tell .info ("Would write " ++ p.text)

def Result.outcome (r : Result) (config : Config) : Outcome :=
  ⟨if r.succeeded then 0 else 1, r.records config, none⟩

/-! ### What the runs tell -/

theorem wouldWrite_ne_error (p : Path) (message : String) : wouldWrite p ∉ [tell .error message] := by
  intro h
  have hseverity := congrArg Record.severity (List.mem_singleton.mp h)
  cases hseverity

theorem wouldWrite_ne_summary (p : Path) (bundles destinations diagnostics : Nat) :
    wouldWrite p ∉ [tell .info (summary bundles destinations diagnostics)] := by
  intro h
  have hmessage : "Would write " ++ p.text = summary bundles destinations diagnostics :=
    congrArg Record.message (List.mem_singleton.mp h)
  have hfirst : ("Would write " ++ p.text).toList.head? = some 'W' := head?_toList_append (by decide) _
  have hother : (summary bundles destinations diagnostics).toList.head? = some 'G' := by
    unfold summary
    iterate 6 refine head?_toList_append ?_ _
    rfl
  rw [hmessage, hother] at hfirst
  cases hfirst

theorem wouldWrite_notMem_records (report : Report (List Bundle)) (config : Config) (p : Path) :
    wouldWrite p ∉ (Result.mk report []).records config := by
  intro h
  rcases List.mem_append.mp h with h | h
  · obtain ⟨fileName, -, hwarning⟩ := List.mem_map.mp h
    have hseverity := congrArg Record.severity hwarning
    cases hseverity
  cases hr : report.result with
  | error e =>
    rw [hr] at h
    exact wouldWrite_ne_error p e.message h
  | ok bundles =>
    rw [hr] at h
    rcases List.mem_append.mp h with h | h
    · obtain ⟨d, -, hdiagnostic⟩ := List.mem_map.mp h
      have hseverity := congrArg Record.severity hdiagnostic
      cases hd : d.isError <;> rw [diagnosticRecord, hd] at hseverity <;> cases hseverity
    · exact wouldWrite_ne_summary p _ _ _ h

def listed (report : Report (List Bundle)) (planned : List Path) : List Path :=
  match report.result with
  | .error _ => []
  | .ok _ => planned

/-- The second list of records is the first one with a list of paths somewhere in it. -/
def ListsAlso (paths : List Path) (records records' : List Record) : Prop :=
  (∀ p, wouldWrite p ∉ records) ∧
    ∃ front back, records = front ++ back ∧ records' = front ++ paths.map wouldWrite ++ back

theorem records_listed (report : Report (List Bundle)) (planned : List Path) (config : Config) :
    ListsAlso (listed report planned) ((Result.mk report []).records config)
      ((Result.mk report planned).records config) := by
  refine ⟨wouldWrite_notMem_records report config, ?_⟩
  unfold Result.records listed
  cases report.result with
  | error e => exact ⟨_, [], (List.append_nil _).symm, by simp⟩
  | ok bundles =>
    refine ⟨report.unplaced.map unplacedRecord, _, rfl, ?_⟩
    simp only [List.append_assoc]
    rfl

/-! ### How the runs go -/

section run

variable {σ : Type}

/-- What a dry run leaves in the store that it builds into. -/
def Surroundings.memory (s : Surroundings (StateM σ)) (manifest : Path) (o : Options) (t : σ) : Store :=
  match (s.prepare manifest o t).1 with
  | .error _ => {}
  | .ok (config, contents) =>
    (Build.generate ⟨config, Host.ofConfig config s.runner (Store.fileSystem fun _ => false)⟩
      contents.entryModules contents.artifacts {}).2

variable {s : Surroundings (StateM σ)} (quiet : s.reader.Quiet) {manifest : Path} {o : Options} {t : σ}
include quiet

theorem runWith_apply :
    s.runWith manifest o t = match (s.prepare manifest o t).1 with
      | .error e => (⟨1, [tell .error e.message], none⟩, t)
      | .ok (config, contents) =>
        ((s.build config contents o.dryRun t).1.outcome config, (s.build config contents o.dryRun t).2) := by
  unfold Surroundings.runWith
  rw [Step.bind_apply, prepare_state quiet manifest o t]
  cases (s.prepare manifest o t).1 with
  | error e => rfl
  | ok prepared => rfl

theorem runWith_failed {e : Failure} (hp : (s.prepare manifest o t).1 = .error e) :
    s.recorded.runWith manifest o ⟨t, []⟩ = (⟨1, [tell .error e.message], none⟩, ⟨t, []⟩) ∧
      s.runWith manifest (o.withDryRun true) t = (⟨1, [tell .error e.message], none⟩, t) ∧
      s.memory manifest o t = {} := by
  have hreal := (prepare_recorded quiet manifest o ⟨t, []⟩).result
  have hquiet : s.recorded.reader.Quiet := quiet.recorded
  rw [runWith_apply hquiet, runWith_apply quiet, hreal, Surroundings.memory, hp]
  refine ⟨rfl, ?_, rfl⟩
  rw [show s.prepare manifest (o.withDryRun true) t = s.prepare manifest o t from rfl, hp]

/-- Both runs have prepared the same, so one builds what the other one rehearses. -/
theorem runWith_prepared (hreal : o.dryRun = false) {config : Config} {contents : Manifest}
    (hp : (s.prepare manifest o t).1 = .ok (config, contents)) :
    let b : Build (StateM (Journal σ)) := ⟨config, Host.ofConfig config s.runner s.files.recorded⟩
    let built := b.generate contents.entryModules contents.artifacts ⟨t, []⟩
    let rehearsed := b.rehearsal.generate contents.entryModules contents.artifacts {}
    s.recorded.runWith manifest o ⟨t, []⟩ = (Result.outcome ⟨built.1, []⟩ config, built.2) ∧
      s.runWith manifest (o.withDryRun true) t = (Result.outcome ⟨rehearsed.1, rehearsed.2.paths⟩ config, t) ∧
      s.memory manifest o t = rehearsed.2 := by
  intro b built rehearsed
  have halike := (prepare_recorded quiet manifest o ⟨t, []⟩).result
  have hquiet : s.recorded.reader.Quiet := quiet.recorded
  rw [runWith_apply hquiet, runWith_apply quiet, halike, Surroundings.memory, hp, hreal]
  refine ⟨rfl, ?_, rfl⟩
  rw [show s.prepare manifest (o.withDryRun true) t = s.prepare manifest o t from rfl, hp]
  rfl

theorem reports_built (hreal : o.dryRun = false) {config : Config} {contents : Manifest}
    (hp : (s.prepare manifest o t).1 = .ok (config, contents)) (report : Report (List Bundle)) :
    let b : Build (StateM (Journal σ)) := ⟨config, Host.ofConfig config s.runner s.files.recorded⟩
    s.Reports manifest o t report ↔
      report = (b.generate contents.entryModules contents.artifacts ⟨t, []⟩).1 := by
  intro b
  have hover : Build.Over Journal.state b ⟨config, Host.ofConfig config s.runner s.files⟩ :=
    Build.over_recorded config _ s.files _
  have hfollows := (hover.generate contents.entryModules contents.artifacts ⟨t, []⟩).1
  rw [reports_of_prepared s manifest o t hp, prepare_state quiet manifest o t, hreal, hfollows]
  rfl

omit quiet in
theorem reports_rehearsed {config : Config} {contents : Manifest}
    (hp : (s.prepare manifest o t).1 = .ok (config, contents)) (report : Report (List Bundle)) :
    let b : Build (StateM (Journal σ)) := ⟨config, Host.ofConfig config s.runner s.files.recorded⟩
    s.Reports manifest (o.withDryRun true) t report ↔
      report = (b.rehearsal.generate contents.entryModules contents.artifacts {}).1 :=
  reports_of_prepared s manifest (o.withDryRun true) t hp report

theorem runWith_dry_state (hdry : o.dryRun = true) : (s.runWith manifest o t).2 = t := by
  rw [runWith_apply quiet, hdry]
  cases (s.prepare manifest o t).1 with
  | error e => rfl
  | ok prepared => rfl

def Surroundings.Succeeds (s : Surroundings (StateM σ)) (manifest : Path) (o : Options) (t : σ) : Prop :=
  ∃ report bundles, s.Reports manifest o t report ∧ report.result = .ok bundles

theorem runWith_dryRun (hreal : o.dryRun = false) (h : (s.recorded.runWith manifest o ⟨t, []⟩).2.Unrefused) :
    let real := s.recorded.runWith manifest o ⟨t, []⟩
    let dry := s.runWith manifest (o.withDryRun true) t
    let memory := s.memory manifest o t
    dry.1.exitCode = real.1.exitCode ∧ dry.1.stop = real.1.stop ∧
      memory = Store.writeAll {} real.2.writes ∧
      (∀ report, s.Reports manifest (o.withDryRun true) t report ↔ s.Reports manifest o t report) ∧
      ∃ paths, ListsAlso paths real.1.records dry.1.records ∧ (s.Succeeds manifest o t → paths = memory.paths) ∧
        (¬s.Succeeds manifest o t → paths = []) := by
  intro real dry memory
  cases hp : (s.prepare manifest o t).1 with
  | error e =>
    obtain ⟨hrun, hdry, hmemory⟩ := runWith_failed quiet hp
    have hnone : ∀ report, ¬s.Reports manifest o t report := not_reports_of_error s manifest o t hp
    unfold real dry memory
    rw [hrun, hdry, hmemory]
    have hlists : ListsAlso [] [tell .error e.message] [tell .error e.message] :=
      ⟨fun p => wouldWrite_ne_error p _, [_], [], rfl, rfl⟩
    refine ⟨rfl, rfl, rfl, fun report => ?_, [], hlists, ?_, fun _ => rfl⟩
    · exact iff_of_false (not_reports_of_error s manifest (o.withDryRun true) t hp report) (hnone report)
    · rintro ⟨report, _, hreport, -⟩
      exact absurd hreport (hnone report)
  | ok prepared =>
    obtain ⟨config, contents⟩ := prepared
    let b : Build (StateM (Journal σ)) := ⟨config, Host.ofConfig config s.runner s.files.recorded⟩
    let built := b.generate contents.entryModules contents.artifacts ⟨t, []⟩
    let rehearsed := b.rehearsal.generate contents.entryModules contents.artifacts {}
    obtain ⟨hrun, hdry, hmemory⟩ := runWith_prepared quiet hreal hp
    have hbuilt : built.2.Unrefused := by rwa [hrun] at h
    have hreport : built.1 = rehearsed.1 := Build.generate_unrefused rfl rfl hbuilt {}
    have hwrites : rehearsed.2 = Store.writeAll {} built.2.writes :=
      Build.rehearsal_writes (j := ⟨t, []⟩) rfl rfl hbuilt
    have hreports := reports_built quiet hreal hp
    unfold real dry memory
    rw [hrun, hdry, hmemory]
    refine ⟨?_, rfl, hwrites, fun report => ?_, listed built.1 rehearsed.2.paths, ?_, ?_, ?_⟩
    · show (if Result.succeeded ⟨rehearsed.1, _⟩ then 0 else 1) = _
      rw [← hreport]
      rfl
    · have hsame : report = rehearsed.1 ↔ report = built.1 := by rw [hreport]
      exact (reports_rehearsed hp report).trans (hsame.trans (hreports report).symm)
    · have hlists := records_listed built.1 rehearsed.2.paths config
      rw [show Result.mk built.1 rehearsed.2.paths = ⟨rehearsed.1, rehearsed.2.paths⟩ by rw [hreport]] at hlists
      exact hlists
    · rintro ⟨report, bundles, hr, hok⟩
      rw [(hreports report).mp hr] at hok
      unfold listed
      rw [hok]
    · intro hfails
      unfold listed
      cases hr : built.1.result with
      | error e => rfl
      | ok bundles => exact absurd ⟨built.1, bundles, (hreports built.1).mpr rfl, hr⟩ hfails

end run

theorem writes_runWith {s : Surroundings (StateM Disk)} (quiet : s.reader.Quiet) (hfiles : s.files = Disk.fileSystem)
    {manifest : Path} {o : Options} (hreal : o.dryRun = false) {disk : Disk}
    (h : (s.recorded.runWith manifest o ⟨disk, []⟩).2.Unrefused) :
    let t := (s.recorded.runWith manifest o ⟨disk, []⟩).2
    disk.Writes t.writes t.state := by
  intro t
  cases hp : (s.prepare manifest o disk).1 with
  | error e =>
    unfold t
    rw [(runWith_failed quiet hp).1]
    exact .nil
  | ok prepared =>
    have hrun := (runWith_prepared quiet hreal hp).1
    unfold t
    rw [hrun] at h ⊢
    exact Build.diskWrites_generate (congrArg FileSystem.recorded hfiles) rfl h

/-! ### Both command lines -/

section commandLines

variable {σ : Type} (s : Surroundings (StateM σ)) {args : List String} {manifest : Path} {o : Options} (t : σ)

theorem run_of_parsed (hparse : parseArgs args = .ok (manifest, o)) :
    let run := s.runWith manifest o t
    s.run args t =
      ({ run.1 with records := run.1.records.filter (recordFilter s.recordRules o.verbosity).shows }, run.2) := by
  unfold Surroundings.run
  rw [hparse]
  rfl

theorem recorded_of_parsed (quiet : s.reader.Quiet) (hparse : parseArgs args = .ok (manifest, o)) :
    let inner := s.recorded.runWith manifest o ⟨t, []⟩
    (s.recorded.run args ⟨t, []⟩).2 = inner.2 ∧
      s.run args t =
        ({ inner.1 with records := inner.1.records.filter (recordFilter s.recordRules o.verbosity).shows },
          inner.2.state) := by
  intro inner
  have hrecorded := run_of_parsed s.recorded ⟨t, []⟩ hparse
  obtain ⟨hresult, hstate⟩ := follows_recorded quiet args ⟨t, []⟩
  rw [hrecorded] at hresult hstate ⊢
  exact ⟨rfl, Prod.ext hresult.symm hstate.symm⟩

theorem run_of_stop {stop : Stop} (hparse : parseArgs args = .error stop) :
    s.run args t = (⟨stop.exitCode, [], some stop⟩, t) := by
  unfold Surroundings.run
  rw [hparse]
  rfl

end commandLines

/-- If no write of a run in earnest is refused, the run with a dry run asked for exits as it does, builds with the
same report, tells the same and writes nothing. If the build succeeds, it also lists the paths of a store that
foretells what the run in earnest writes; if the build fails, it lists nothing. -/
theorem run_dryRun (runner : Runner) (environment : Layer.Environment) (projectDir : Path)
    (recordRules : Option String) (disk : Disk) {before after : List String} (hplace : AsksBehind {} none before)
    (hplain : dryRunArg ∉ before ++ after) :
    let s : Surroundings (StateM Disk) :=
      ⟨Disk.fileReader, Disk.fileSystem, runner, environment, projectDir, recordRules⟩
    let args := before ++ after
    let dryArgs := before ++ dryRunArg :: after
    let real := s.run args disk
    let dry := s.run dryArgs disk
    let journal := (s.recorded.run args ⟨disk, []⟩).2
    journal.Unrefused →
      dry.1.exitCode = real.1.exitCode ∧ dry.1.stop = real.1.stop ∧ dry.2 = disk ∧
      (s.recorded.run dryArgs ⟨disk, []⟩).2.attempts = [] ∧
      (∀ stop, parseArgs args = .error stop → real = (⟨stop.exitCode, [], some stop⟩, disk) ∧ dry = real) ∧
      ∀ manifest o, parseArgs args = .ok (manifest, o) →
        let shown := fun records : List Record => records.filter (recordFilter recordRules o.verbosity).shows
        let memory := s.memory manifest o disk
        parseArgs dryArgs = .ok (manifest, o.withDryRun true) ∧
        (∀ report, s.Reports manifest (o.withDryRun true) disk report ↔ s.Reports manifest o disk report) ∧
        (∃ paths records records', ListsAlso paths records records' ∧ real.1.records = shown records ∧
          dry.1.records = shown records' ∧ (s.Succeeds manifest o disk → paths = memory.paths) ∧
          (¬s.Succeeds manifest o disk → paths = [])) ∧
        memory.Foretells journal.writes real.2 := by
  intro s args dryArgs real dry journal hjournal
  have hquiet : s.reader.Quiet := Disk.quiet_fileReader
  have hdryParse : parseArgs dryArgs = (parseArgs args).map fun parsed => (parsed.1, parsed.2.withDryRun true) :=
    parseArgs_dryRun hplace fun h => hplain (List.mem_append_right _ h)
  cases hparse : parseArgs args with
  | error stop =>
    have hstop : parseArgs dryArgs = .error stop := by rw [hdryParse, hparse]; rfl
    have hreal : real = (⟨stop.exitCode, [], some stop⟩, disk) := run_of_stop s disk hparse
    have hdry : dry = (⟨stop.exitCode, [], some stop⟩, disk) := run_of_stop s disk hstop
    rw [hdry, hreal, run_of_stop s.recorded ⟨disk, []⟩ hstop]
    refine ⟨rfl, rfl, rfl, rfl, fun stop' h => ?_, fun manifest o h => (by cases h)⟩
    cases h
    exact ⟨rfl, rfl⟩
  | ok parsed =>
    obtain ⟨manifest, o⟩ := parsed
    have hplainRun : o.dryRun = false := parseArgs_plain hplain hparse
    have hasked : parseArgs dryArgs = .ok (manifest, o.withDryRun true) := by rw [hdryParse, hparse]; rfl
    obtain ⟨hinner, hreal⟩ := recorded_of_parsed s disk hquiet hparse
    have hdry := run_of_parsed s disk hasked
    have hdryJournal : (s.recorded.run dryArgs ⟨disk, []⟩).2 = ⟨disk, []⟩ := by
      have hrecordedQuiet : s.recorded.reader.Quiet := hquiet.recorded
      exact (recorded_of_parsed s disk hquiet hasked).1.trans (runWith_dry_state hrecordedQuiet rfl)
    -- what is known of the two runs behind their arguments
    have hunrefused : (s.recorded.runWith manifest o ⟨disk, []⟩).2.Unrefused := by
      rw [← hinner]
      exact hjournal
    obtain ⟨hexit, hstop, hmemory, hreports, paths, hlists, hlisted, hsilent⟩ :=
      runWith_dryRun hquiet hplainRun hunrefused
    have hwrites := writes_runWith hquiet rfl hplainRun hunrefused
    unfold real dry journal
    rw [hreal, hdry, hinner, hdryJournal, runWith_dry_state hquiet rfl]
    refine ⟨hexit, hstop, rfl, rfl, fun stop h => (by cases h), ?_⟩
    rintro _ _ ⟨rfl, rfl⟩
    refine ⟨hasked, hreports, ⟨paths, _, _, hlists, rfl, rfl, hlisted, hsilent⟩, ?_⟩
    rw [hmemory]
    exact hwrites.foretells

theorem run_dryRun_chunk :
    let disk : Disk := { files := [
      (["manifest.json"], "\x7b\"artifacts\":[\x7b\"fileName\":\"b.js\",\"code\":\"2\"\x7d]\x7d".toUTF8)] }
    let s := Surroundings.onDisk
    let args := ["--manifest", "manifest.json"]
    let real := s.run args disk
    let dry := s.run (args ++ [dryRunArg]) disk
    let journal := (s.recorded.run args ⟨disk, []⟩).2
    let memory := s.memory ⟨"manifest.json"⟩ { manifest := some ⟨"manifest.json"⟩ } disk
    AsksBehind {} none args ∧ dryRunArg ∉ args ∧ journal.Unrefused ∧ journal.writes = [(⟨"dist/b.js"⟩, "2")] ∧
      dry.1.exitCode = real.1.exitCode ∧ dry.2 = disk ∧ memory.read? ⟨"dist/b.js"⟩ = some "2" ∧
      real.2.readText ⟨"dist/b.js"⟩ = .ok "2" := by
  intro disk s args real dry journal memory
  let o : Options := { manifest := some ⟨"manifest.json"⟩ }
  have hplace : AsksBehind {} none args := ⟨o.withDryRun true, by decide +kernel⟩
  have hplain : dryRunArg ∉ args ++ [] := by decide
  have hunrefused : journal.Unrefused := by decide +kernel
  have hwrites : journal.writes = [(⟨"dist/b.js"⟩, "2")] := by decide +kernel
  have hparse : parseArgs args = .ok (⟨"manifest.json"⟩, o) := by decide +kernel
  obtain ⟨hexit, -, hdisk, -, -, hrun⟩ := run_dryRun s.runner s.environment s.projectDir s.recordRules disk
    hplace hplain hunrefused
  obtain ⟨-, -, -, hforetells⟩ := hrun ⟨"manifest.json"⟩ o hparse
  have hwritten : (⟨"dist/b.js"⟩, "2") ∈ journal.writes := by rw [hwrites]; exact List.mem_singleton_self _
  have honce : ∀ d : Disk, (journal.writes.filter fun v => d.fileAt? v.1 = d.fileAt? ⟨"dist/b.js"⟩) =
      [(⟨"dist/b.js"⟩, "2")] := by
    intro d
    rw [hwrites]
    exact List.filter_cons_of_pos (decide_eq_true rfl)
  obtain ⟨hstored, hread⟩ := hforetells.contentOnce _ hwritten (honce real.2)
  exact ⟨hplace, hplain, hunrefused, hwrites, hexit, hdisk, hstored, hread⟩

/-- An entry without module ends the run before it lists anything, and one file is reached by two paths. -/
theorem run_dryRun_unlisted :
    let disk : Disk := { files := [(["manifest.json"], ("\x7b\"artifacts\":[" ++
      "\x7b\"fileName\":\"a.js\",\"code\":\"0\",\"isComponent\":true\x7d," ++
      "\x7b\"fileName\":\"b.js\",\"code\":\"1\"\x7d," ++
      "\x7b\"fileName\":\"../dist/b.js\",\"code\":\"2\"\x7d]\x7d").toUTF8)] }
    let s := Surroundings.onDisk
    let args := ["--manifest", "manifest.json"]
    let real := s.run args disk
    let dry := s.run (dryRunArg :: args) disk
    let journal := (s.recorded.run args ⟨disk, []⟩).2
    let memory := s.memory ⟨"manifest.json"⟩ { manifest := some ⟨"manifest.json"⟩ } disk
    journal.Unrefused ∧ journal.writes = [(⟨"dist/b.js"⟩, "1"), (⟨"dist/../dist/b.js"⟩, "2")] ∧
      (∀ p, wouldWrite p ∉ dry.1.records) ∧ memory.read? ⟨"dist/b.js"⟩ = some "1" ∧
      real.2.readText ⟨"dist/b.js"⟩ = .ok "2" := by
  intro disk s args real dry journal memory
  let o : Options := { manifest := some ⟨"manifest.json"⟩ }
  let contents : Manifest :=
    ⟨[⟨"a.js", "0", none, .componentEntry⟩, ⟨"b.js", "1", none, .chunk⟩, ⟨"../dist/b.js", "2", none, .chunk⟩], []⟩
  let b : Build (StateM (Journal Disk)) := ⟨{}, Host.ofConfig {} s.runner s.files.recorded⟩
  have hparse : parseArgs args = .ok (⟨"manifest.json"⟩, o) := by decide +kernel
  have hp : (s.prepare ⟨"manifest.json"⟩ o disk).1 = .ok ({}, contents) := by decide +kernel
  have hrun := (runWith_prepared Disk.quiet_fileReader rfl hp).1
  have hjournal : journal = (Step.runAll b.host.files (b.steps contents.entryModules contents.artifacts ⟨disk, []⟩)
      ⟨disk, []⟩).2 := by
    unfold journal
    rw [run_of_parsed s.recorded _ hparse, hrun]
    exact Build.state_generate rfl
  have hunrefused : journal.Unrefused := by rw [hjournal]; decide +kernel
  have hwrites : journal.writes = [(⟨"dist/b.js"⟩, "1"), (⟨"dist/../dist/b.js"⟩, "2")] := by
    rw [hjournal]; decide +kernel
  have hmemory : memory = Store.writeAll {} journal.writes := by
    have hinner : journal = (s.recorded.runWith ⟨"manifest.json"⟩ o ⟨disk, []⟩).2 :=
      (recorded_of_parsed s disk Disk.quiet_fileReader hparse).1
    rw [hinner] at hunrefused ⊢
    exact (runWith_dryRun Disk.quiet_fileReader rfl hunrefused).2.2.1
  have hdisk : real.2 = journal.state := (follows_recorded Disk.quiet_fileReader args ⟨disk, []⟩).2.symm
  have hrecords : dry.1.records = [tell .error (BuildError.missingEntryModule "a.js" none).message] := by decide +kernel
  refine ⟨hunrefused, hwrites, fun p => ?_, ?_, ?_⟩
  · rw [hrecords]
    exact wouldWrite_ne_error p _
  · rw [hmemory, hwrites]
    decide
  · rw [hdisk, hjournal]
    decide +kernel

end Cli

end LazyBundle
