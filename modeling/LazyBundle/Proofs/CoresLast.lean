import LazyBundle.Proofs.LoaderData
import LazyBundle.Proofs.Replay
import LazyBundle.Proofs.Script

/-!
# Core bundles come last

Whatever the module writer and the file system do, a build attempts to write all
entries and all chunks before the first core bundle, and it attempts no core
bundle at all when something before it has gone wrong (`generate_coresLast`).
-/

namespace LazyBundle.Build

open Job (Emits Rows)

variable {σ : Type}

def recorded (config : Config) (stages : Stages) (fs : FileSystem (StateM σ)) (w : ModuleWriter (StateM σ))
    (threshold : Nat) : Build (StateM (Journal σ)) where
  config := config
  host := { stages, files := fs.recorded, writer := w.recorded, threshold }

section calls

variable {m : Type → Type} (b : Build m)

def entryCall (p : Entry × String) : Call :=
  .entry p.1.entryModule.entryKey p.2 p.1.code

def chunkCalls (a : Artifact) : List Call :=
  b.fileCalls (b.finish a.code).code a.fileName

def moduleCalls (modules : List EntryModule) (classes : Classes) : List Call :=
  classes.entries.flatMap (fun a => (modesOf (b.prepare modules a).1).map entryCall) ++
    classes.chunks.flatMap b.chunkCalls

end calls

/-! ## Entries and chunks -/

section modules

variable (config : Config) (stages : Stages) (fs : FileSystem (StateM σ)) (w : ModuleWriter (StateM σ))
  (threshold : Nat)

def EntryAttempt (p : Entry × String) (outcome : Except WriteError ModeOutput) (ks : List Attempt) : Prop :=
  ks = [⟨entryCall p, refusalOf outcome⟩]

def ChunkAttempts (b : Build (StateM (Journal σ))) (a : Artifact) (outcome : Except WriteError Unit)
    (ks : List Attempt) : Prop :=
  ks.map (·.call) = b.chunkCalls a ∧ (outcome = .ok () → ∀ t ∈ ks, t.refusal = none)

theorem emits_mode (p : Entry × String) :
    Emits Journal.attempts (w.recorded.write config.destinations p.1.entryModule p.1.code p.2) (EntryAttempt p) :=
  fun _ => ⟨_, rfl, rfl⟩

theorem emits_chunk (a : Artifact) :
    let b := recorded config stages fs w threshold
    Emits Journal.attempts (b.writeFile (b.finish a.code).code a.fileName) (ChunkAttempts b a) := by
  intro b j
  obtain ⟨ks, h1, h2, h3⟩ := Step.attempts_of_runs (Step.runs_writeAll fs.recorded (b.finish a.code).code a.fileName
    config.destinations) j
  rw [Step.calls_copies] at h2
  exact ⟨ks, h1, h2, fun ho => h3 () (congrArg (Except.mapError BuildError.write) ho)⟩

theorem entry_ok {p : Except BuildError Entry} {part : List ((Entry × String) × Except WriteError ModeOutput × List Attempt)}
    (hrows : Rows EntryAttempt (modesOf p) part) {bundle : Bundle} (h : bundleOf p (part.map (·.2.1)) = .ok bundle) :
    (∀ t ∈ part.flatMap (·.2.2), t.refusal = none) ∧
      ∃ e, p = .ok e ∧ bundle.outputs.length = e.entryModule.modeNames.length := by
  cases p with
  | error e => cases h
  | ok e =>
    have hb : e.bundle (part.map (·.2.1)) = .ok bundle := h
    unfold Entry.bundle at hb
    cases hc : collect (part.map (·.2.1)) with
    | error cause => rw [hc] at hb; cases hb
    | ok outputs =>
      rw [hc] at hb
      cases hb
      have ho := eq_map_of_collect hc
      refine ⟨fun t ht => ?_, e, rfl, ?_⟩
      · obtain ⟨r, hr, ht⟩ := List.mem_flatMap.mp ht
        rw [hrows.2 r hr, List.mem_singleton] at ht
        -- the outcome of the row is one of the outputs, so the call was not refused
        obtain ⟨output, -, hout⟩ := List.mem_map.mp (ho ▸ List.mem_map_of_mem hr)
        rw [ht, ← hout]
        rfl
      · have hl := congrArg List.length hrows.1
        have hl' := congrArg List.length ho
        rw [List.length_map] at hl hl'
        rw [List.length_map] at hl'
        show (sortOutputs outputs).length = _
        rw [sortOutputs, List.length_mergeSort, ← hl', hl, modesOf, List.length_map]

theorem entries_ok {ps : List (Except BuildError Entry)}
    {parts : List (List ((Entry × String) × Except WriteError ModeOutput × List Attempt))}
    (hparts : List.Forall₂ (Rows EntryAttempt) (ps.map modesOf) parts) {bundles : List Bundle}
    (h : collect (List.zipWith bundleOf ps (parts.map (·.map (·.2.1)))) = .ok bundles) :
    (∀ t ∈ parts.flatten.flatMap (·.2.2), t.refusal = none) ∧
      ∀ p ∈ ps, ∃ e, p = .ok e ∧ ∃ bundle ∈ bundles, bundle.outputs.length = e.entryModule.modeNames.length := by
  induction ps generalizing parts bundles with
  | nil =>
    cases hparts
    exact ⟨by simp, by simp⟩
  | cons p ps ih =>
    obtain ⟨part, parts, hp, hps, rfl⟩ := List.forall₂_cons_left_iff.mp hparts
    obtain ⟨bundle, bundles, hb, hbs, rfl⟩ := collect_cons_ok h
    obtain ⟨ht, e, rfl, hlen⟩ := entry_ok hp hb
    obtain ⟨hts, hes⟩ := ih hps hbs
    refine ⟨?_, List.forall_mem_cons.mpr ⟨⟨e, rfl, bundle, List.mem_cons_self, hlen⟩, fun p hp => ?_⟩⟩
    · rw [List.flatten_cons, List.flatMap_append]
      exact List.forall_mem_append.mpr ⟨ht, hts⟩
    · obtain ⟨e', he', bundle', hb', hlen'⟩ := hes p hp
      exact ⟨e', he', bundle', List.mem_cons_of_mem _ hb', hlen'⟩

theorem chunks_ok {b : Build (StateM (Journal σ))} {chunks : List Artifact}
    {rows : List (Artifact × Except WriteError Unit × List Attempt)} (hrows : Rows (ChunkAttempts b) chunks rows)
    {us : List Unit} (h : collect (rows.map (·.2.1)) = .ok us) : ∀ t ∈ rows.flatMap (·.2.2), t.refusal = none := by
  intro t ht
  obtain ⟨r, hr, ht⟩ := List.mem_flatMap.mp ht
  obtain ⟨u, -, hu⟩ := List.mem_map.mp (eq_map_of_collect h ▸ List.mem_map_of_mem hr)
  exact (hrows.2 r hr).2 hu.symm t ht

section report

variable {b : Build (StateM (Journal σ))} {modules : List EntryModule} {classes : Classes}
  {parts : List (List ((Entry × String) × Except WriteError ModeOutput × List Attempt))}
  {rows : List (Artifact × Except WriteError Unit × List Attempt)}
  (hparts : List.Forall₂ (Rows EntryAttempt) ((b.prepared modules classes.entries).map modesOf) parts)
  (hrows : Rows (ChunkAttempts b) classes.chunks rows)
include hparts hrows

theorem calls_of_rows :
    (parts.flatten.flatMap (·.2.2) ++ rows.flatMap (·.2.2)).map (·.call) = b.moduleCalls modules classes := by
  have hentries := (Job.rows_of_parts hparts).map_flatMap (c := (·.call)) (f := fun p => [entryCall p])
    fun p _ ks hks => by rw [hks]; rfl
  have hchunks := hrows.map_flatMap (c := (·.call)) (f := b.chunkCalls) fun a _ ks hks => hks.1
  rw [List.map_append, hentries, hchunks, ← List.map_eq_flatMap, List.map_flatten, moduleCalls]
  simp only [prepared, List.flatMap_def, List.map_map, Function.comp_def]

theorem gone_well {bundles : List Bundle}
    (h : (b.moduleReport modules classes (parts.map (·.map (·.2.1)), rows.map (·.2.1))).result = .ok bundles) :
    (∀ t ∈ parts.flatten.flatMap (·.2.2) ++ rows.flatMap (·.2.2), t.refusal = none) ∧
      ∀ a ∈ classes.entries, ∃ e, (b.prepare modules a).1 = .ok e ∧
        ∃ bundle ∈ bundles, bundle.outputs.length = e.entryModule.modeNames.length := by
  obtain ⟨hes, us, hcs⟩ := moduleReport_ok h
  obtain ⟨hts, hps⟩ := entries_ok hparts hes
  refine ⟨?_, fun a ha => hps _ (List.mem_map_of_mem ha)⟩
  exact List.forall_mem_append.mpr ⟨hts, chunks_ok hrows hcs⟩

end report

/-- What the first phase attempts, in some order, and what has gone well when it succeeds. -/
theorem writeModules_attempts (modules : List EntryModule) (classes : Classes) (j : Journal σ) :
    let b := recorded config stages fs w threshold
    ∃ early, (b.writeModules modules classes j).2.attempts = j.attempts ++ early ∧
      (early.map (·.call)).Perm (b.moduleCalls modules classes) ∧
      ∀ bundles, (b.writeModules modules classes j).1.result = .ok bundles →
        (∀ t ∈ early, t.refusal = none) ∧
          ∀ a ∈ classes.entries, ∃ e, (b.prepare modules a).1 = .ok e ∧
            ∃ bundle ∈ bundles, bundle.outputs.length = e.entryModule.modeNames.length := by
  intro b
  obtain ⟨early, hearly, parts, rows, hparts, hrows, hres, hperm⟩ := Job.joinGroups_emits Journal.attempts b.modeJob
    b.chunkJob (fun g (_ : g ∈ (b.prepared modules classes.entries).map modesOf) p _ => emits_mode config w p)
    (fun a (_ : a ∈ classes.chunks) => emits_chunk config stages fs w threshold a) j
  rw [writeModules_eq_joinGroups, Step.map_apply]
  refine ⟨early, hearly, ?_, fun bundles hb => ?_⟩
  · rw [← calls_of_rows hparts hrows]
    exact hperm.map _
  · rw [hres] at hb
    obtain ⟨hts, hes⟩ := gone_well hparts hrows hb
    exact ⟨fun t ht => hts t (hperm.mem_iff.mp ht), hes⟩

end modules

/-! ## The whole build -/

/-- What must keep a build from writing core bundles, given what it has attempted before. -/
inductive Fatal {m : Type → Type} (b : Build m) (modules : List EntryModule) (classes : Classes)
    (early : List Attempt) : Prop
  /-- An entry without a key, or with one that no entry module has. -/
  | noModule (a : Artifact) (ha : a ∈ classes.entries) (h : a.entryKey.bind (EntryModule.find? modules) = none)
  /-- A write of an entry or a chunk that was refused. -/
  | refused (t : Attempt) (ht : t ∈ early) (h : t.refusal ≠ none)
  /-- An entry whose module has no mode. -/
  | noMode (a : Artifact) (e : EntryModule) (ha : a ∈ classes.entries)
      (h : a.entryKey.bind (EntryModule.find? modules) = some e) (he : e.modeNames = [])
  /-- A core bundle without the placeholder, where it is required. -/
  | noPlaceholder (core : Artifact) (hc : core ∈ classes.cores) (hr : b.config.requirePlaceholder)
      (h : ¬ placeholder.toList <:+: core.code.toList)

theorem not_fatal {b : Build (StateM (Journal σ))} {modules : List EntryModule} {classes : Classes}
    {early : List Attempt} {bundles : List Bundle} {codes : List String}
    (hearly : ∀ t ∈ early, t.refusal = none)
    (hentries : ∀ a ∈ classes.entries, ∃ e, (b.prepare modules a).1 = .ok e ∧
      ∃ bundle ∈ bundles, bundle.outputs.length = e.entryModule.modeNames.length)
    (hcodes : b.coreCodes classes.cores bundles = .ok codes) : ¬ b.Fatal modules classes early := by
  obtain ⟨data, hdata, -, hplaceholder⟩ := b.coreCodes_ok hcodes
  intro h
  cases h with
  | noModule a ha hn =>
    obtain ⟨e, he, -⟩ := hentries a ha
    rw [(b.prepare_ok he).1] at hn
    cases hn
  | refused t ht hn => exact hn (hearly t ht)
  | noMode a e ha hf he =>
    obtain ⟨e', he', bundle, hb, hlen⟩ := hentries a ha
    rw [(b.prepare_ok he').1, Option.some.injEq] at hf
    rw [hf, he] at hlen
    exact Bundle.outputs_ne_nil hdata bundle hb (List.length_eq_zero_iff.mp hlen)
  | noPlaceholder core hc hr hn => exact hn (Text.contains_iff.mp (hplaceholder hr core hc))

/-- What the second phase attempts: nothing, or all core bundles, when each of them has got code. -/
theorem writeCores_attempts (config : Config) (stages : Stages) (fs : FileSystem (StateM σ))
    (w : ModuleWriter (StateM σ)) (threshold : Nat) (cores : List Artifact) (bundles : List Bundle)
    (j : Journal σ) :
    let b := recorded config stages fs w threshold
    ∃ late, (b.writeCores cores bundles j).2.attempts = j.attempts ++ late ∧
      ((late = [] ∧ ∃ e, (b.writeCores cores bundles j).1.result = .error e) ∨
        ∃ data, b.coreCodes cores bundles = .ok (cores.map fun core => (inject core.code data).code) ∧
          late.map (·.call) = b.coreCalls cores (cores.map fun core => (inject core.code data).code)) := by
  intro b
  cases hc : b.coreCodes cores bundles with
  | error e =>
    obtain ⟨r, hr, hcores⟩ := b.writeCores_error hc
    rw [hcores]
    exact ⟨[], (List.append_nil _).symm, .inl ⟨rfl, e, hr⟩⟩
  | ok codes =>
    obtain ⟨data, -, rfl, -⟩ := b.coreCodes_ok hc
    obtain ⟨report, -, hcores⟩ := b.writeCores_ok hc
    obtain ⟨late, h1, h2, -⟩ := Step.attempts_runAll fs
      (b.coreSteps cores (cores.map fun core => (inject core.code data).code)) j
    refine ⟨late, ?_, .inr ⟨data, rfl, ?_⟩⟩
    · rw [hcores, Step.map_apply]
      exact h1
    · rw [h2, calls_coreSteps]

/-- A build attempts all entries and all chunks before it attempts a core bundle. It attempts all of
the core bundles or, at the latest when something fatal has happened, none, and then it fails. -/
theorem generate_coresLast (config : Config) (stages : Stages) (fs : FileSystem (StateM σ))
    (w : ModuleWriter (StateM σ)) (threshold : Nat) (modules : List EntryModule) (artifacts : List Artifact)
    (j : Journal σ) :
    let b := recorded config stages fs w threshold
    let classes := classify artifacts
    let run := b.generate modules artifacts j
    ∃ early late, run.2.attempts = j.attempts ++ early ++ late ∧
      (early.map (·.call)).Perm (b.moduleCalls modules classes) ∧
      (late = [] ∨ ∃ data, late.map (·.call) =
        b.coreCalls classes.cores (classes.cores.map fun core => (inject core.code data).code)) ∧
      (b.Fatal modules classes early → (∃ e, run.1.result = .error e) ∧ late = []) := by
  intro b classes run
  obtain ⟨early, hearly, hperm, hok⟩ := writeModules_attempts config stages fs w threshold modules classes j
  -- three ways to end: the first phase fails, some core bundle has no code, or all of them are written
  have hrun : run = b.generate modules artifacts j := rfl
  rw [generate, Step.bind_apply] at hrun
  cases hm : b.writeModules modules classes j with
  | mk first j' =>
    rw [hm] at hearly hok hrun
    cases hr : first.result with
    | error e =>
      simp only [hr] at hrun
      rw [hrun]
      refine ⟨early, [], ?_, hperm, .inl rfl, fun _ => ⟨⟨e, rfl⟩, rfl⟩⟩
      rw [List.append_nil]
      exact hearly
    | ok bundles =>
      simp only [hr] at hrun
      obtain ⟨hts, hes⟩ := hok bundles hr
      obtain ⟨late, hlate, hcores⟩ := writeCores_attempts config stages fs w threshold classes.cores bundles j'
      rw [Step.bind_apply] at hrun
      have hattempts : run.2.attempts = j.attempts ++ early ++ late := by
        rw [hrun, ← hearly]
        exact hlate
      rcases hcores with ⟨rfl, e, he⟩ | ⟨data, hcodes, hcalls⟩
      · refine ⟨early, [], hattempts, hperm, .inl rfl, fun _ => ⟨⟨e, ?_⟩, rfl⟩⟩
        rw [hrun]
        exact congrArg (Except.map fun _ => bundles) he
      · exact ⟨early, late, hattempts, hperm, .inr ⟨data, hcalls⟩,
          fun hf => absurd hf (not_fatal hts hes hcodes)⟩

theorem generate_coresLast_unknown :
    let b := recorded {} .identity (Store.fileSystem fun _ => false) (.ofConfig {} (Store.fileSystem fun _ => false)) 0
    let run := b.generate [] [⟨"core.js", placeholder, none, .core⟩, ⟨"a.js", "1", some "a", .componentEntry⟩] ⟨{}, []⟩
    (∃ e, run.1.result = .error e) ∧ run.2.attempts = [] := by
  intro b run
  obtain ⟨early, late, hattempts, hperm, -, hfatal⟩ := generate_coresLast {} .identity (Store.fileSystem fun _ => false)
    (.ofConfig {} (Store.fileSystem fun _ => false)) 0 []
    [⟨"core.js", placeholder, none, .core⟩, ⟨"a.js", "1", some "a", .componentEntry⟩] ⟨{}, []⟩
  obtain ⟨he, rfl⟩ := hfatal (.noModule ⟨"a.js", "1", some "a", .componentEntry⟩ (by decide) rfl)
  have hearly : early = [] := List.map_eq_nil_iff.mp hperm.eq_nil
  rw [hearly] at hattempts
  exact ⟨he, hattempts⟩

end LazyBundle.Build
