import LazyBundle.Build.Ledger
import LazyBundle.Proofs.Following
import LazyBundle.Proofs.LoaderData
import LazyBundle.Proofs.Reordering
import LazyBundle.Proofs.TextOrder

/-!
# Bundles of what has been written

A build that succeeds gives a bundle for each entry artifact, in order. The
bundle has the key of the artifact, what the first entry module with that key
says, and the outputs that the module writer has given for the modes, sorted and
never none (`generate_wellFormed`).
-/

namespace LazyBundle

open Job (Emits Rows)

variable {σ : Type}

def ModuleWriter.NamesModes (w : ModuleWriter (StateM σ)) : Prop :=
  ∀ destinations e code modeName s output,
    (w.write destinations e code modeName s).1 = .ok output → output.modeName = modeName

namespace ModuleWriter

variable (fs : FileSystem (StateM σ))

theorem namesModes_named (idOf : EntryModule → String → String → String) : (named idOf fs).NamesModes := by
  intro destinations e code modeName s output h
  unfold named at h
  simp only [Step.bind_apply] at h
  cases ho : (fs.writeAll code (entryFileName (idOf e code modeName)) destinations s).1 with
  | error cause => rw [ho] at h; cases h
  | ok u => rw [ho] at h; cases h; rfl

theorem namesModes_ofConfig (config : Config) : (ofConfig config fs).NamesModes :=
  namesModes_named fs _

theorem namesModes_scripted (idOf : String → String → String) (refuses : String → Bool) (wait : String → Nat) :
    (scripted idOf refuses wait fs).NamesModes := by
  intro destinations e code modeName s output h
  unfold scripted at h
  by_cases hr : refuses modeName
  · simp only [if_pos hr] at h
    cases h
  · simp only [if_neg hr] at h
    exact namesModes_named fs _ destinations e code modeName s output h

end ModuleWriter

namespace Build

def onLedger (b : Build (StateM σ)) : Build (StateM (Ledger σ)) where
  config := b.config
  host := Ledger.host b.host

theorem over_onLedger (b : Build (StateM σ)) : b.onLedger.Over Ledger.state b where
  config := rfl
  stages := rfl
  threshold := rfl
  files _ _ _ := ⟨rfl, rfl⟩
  writer _ _ _ _ _ := ⟨rfl, rfl⟩
  wait := rfl

/-- The bundle tells what the module writer has given for an artifact. -/
structure WellFormed {m : Type → Type} (b : Build m) (modules : List EntryModule) (a : Artifact)
    (deliveries : List Delivery) (bundle : Bundle) : Prop where
  entryKey : a.entryKey = some bundle.entryKey
  /-- It is about the first entry module with the key, and so are the calls, with the finished code. -/
  entryModule : ∃ e, EntryModule.find? modules bundle.entryKey = some e ∧ bundle.modeNames = e.modeNames ∧
    bundle.components = e.components ∧ ∀ d ∈ deliveries, d.entryModule = e ∧ d.code = (b.finish a.code).code
  /-- The calls are one for every mode name, in order. -/
  asked : deliveries.map (·.modeName) = bundle.modeNames
  outputs : bundle.outputs.Perm (deliveries.map (·.output))
  modes : (bundle.outputs.map (·.modeName)).Perm bundle.modeNames
  nonempty : bundle.outputs ≠ []
  /-- The mode names rise in the order of their bytes. -/
  sorted : bundle.outputs.Pairwise fun o o' => o.modeName.toUTF8.toList ≤ o'.modeName.toUTF8.toList

/-! ## What the calls deliver -/

section emits

variable {b : Build (StateM σ)}

theorem emits_nothing_mapM {α ι : Type} {x : ι → StateM (Ledger σ) α} {l : List ι}
    (h : ∀ i ∈ l, Emits Ledger.deliveries (x i) fun _ ds => ds = []) :
    Emits Ledger.deliveries (l.mapM x) fun _ ds => ds = [] := by
  intro ledger
  obtain ⟨ds, hds, rows, ⟨-, hrows⟩, -, rfl⟩ := Job.mapM_emits Ledger.deliveries h ledger
  exact ⟨_, hds, List.flatMap_eq_nil_iff.mpr hrows⟩

theorem emits_write (p : Path) (content : String) :
    Emits Ledger.deliveries (b.onLedger.host.files.write p content) fun _ ds => ds = [] :=
  fun _ => ⟨[], (List.append_nil _).symm, rfl⟩

theorem emits_chunkJob (a : Artifact) :
    Emits Ledger.deliveries (b.onLedger.chunkJob a).run fun _ ds => ds = [] :=
  emits_nothing_mapM fun d _ => emits_write (b := b) (d.join a.fileName) (b.onLedger.finish a.code).code

theorem deliveries_runAll (steps : List Step) (ledger : Ledger σ) :
    (Step.runAll b.onLedger.host.files steps ledger).2.deliveries = ledger.deliveries := by
  have hstep : ∀ step ∈ steps, Emits Ledger.deliveries (Step.run b.onLedger.host.files step) fun _ ds => ds = [] := by
    intro step _
    cases step with
    | absent e => exact fun _ => ⟨[], (List.append_nil _).symm, rfl⟩
    | write p content => exact emits_write (b := b) p content
  obtain ⟨ds, hds, rfl⟩ := emits_nothing_mapM hstep ledger
  rw [List.append_nil] at hds
  exact hds

theorem deliveries_writeCores (cores : List Artifact) (bundles : List Bundle) (ledger : Ledger σ) :
    (b.onLedger.writeCores cores bundles ledger).2.deliveries = ledger.deliveries := by
  cases hc : b.onLedger.coreCodes cores bundles with
  | error e =>
    obtain ⟨r, -, hcores⟩ := b.onLedger.writeCores_error hc
    rw [hcores]
    rfl
  | ok codes =>
    obtain ⟨report, -, hcores⟩ := b.onLedger.writeCores_ok hc
    rw [hcores, Step.map_apply]
    exact deliveries_runAll _ ledger

def Delivers (p : Entry × String) (outcome : Except WriteError ModeOutput) (ds : List Delivery) : Prop :=
  ds = Ledger.delivered p.1.entryModule p.1.code p.2 outcome ∧ ∀ output, outcome = .ok output → output.modeName = p.2

theorem emits_modeJob (hw : b.host.writer.NamesModes) (p : Entry × String) :
    Emits Ledger.deliveries (b.onLedger.modeJob p).run (Delivers p) :=
  fun _ => ⟨_, rfl, rfl, fun output => hw _ _ _ _ _ output⟩

end emits

/-! ## Bundles -/

section rows

variable {b : Build (StateM σ)} {modules : List EntryModule}

abbrev ModeRow := (Entry × String) × Except WriteError ModeOutput × List Delivery

theorem deliveries_of_rows {part : List ModeRow} (hrows : ∀ r ∈ part, Delivers r.1 r.2.1 r.2.2)
    {outputs : List ModeOutput} (hc : collect (part.map (·.2.1)) = .ok outputs) :
    let ds := part.flatMap (·.2.2)
    ds.map (·.output) = outputs ∧ ds.map (·.modeName) = part.map (·.1.2) ∧
      outputs.map (·.modeName) = part.map (·.1.2) ∧
      ∀ d ∈ ds, ∃ p ∈ part.map (·.1.1), d.entryModule = p.entryModule ∧ d.code = p.code := by
  induction part generalizing outputs with
  | nil =>
    cases hc
    exact ⟨rfl, rfl, rfl, by simp⟩
  | cons r part ih =>
    obtain ⟨output, outputs, ho, hos, rfl⟩ := collect_cons_ok hc
    obtain ⟨hr, hrs⟩ := List.forall_mem_cons.mp hrows
    obtain ⟨h1, h2, h3, h4⟩ := ih hrs hos
    obtain ⟨hd, hmode⟩ := hr
    have ho : r.2.1 = .ok output := ho
    have hds : (r :: part).flatMap (·.2.2) =
        ⟨r.1.1.entryModule, r.1.1.code, r.1.2, output⟩ :: part.flatMap (·.2.2) := by
      rw [List.flatMap_cons, hd, ho]
      rfl
    simp only [hds, List.map_cons, List.mem_cons, h1, h2, h3, hmode output ho]
    refine ⟨trivial, trivial, trivial, ?_⟩
    rintro d (rfl | hd)
    · exact ⟨r.1.1, .inl rfl, rfl, rfl⟩
    · obtain ⟨p, hp, he⟩ := h4 d hd
      exact ⟨p, .inr hp, he⟩

theorem sorted_sortOutputs (outputs : List ModeOutput) :
    (sortOutputs outputs).Pairwise fun o o' => o.modeName.toUTF8.toList ≤ o'.modeName.toUTF8.toList := by
  have hsorted := pairwise_mergeSort_of (r := fun o o' : ModeOutput => o.modeName ≤ o'.modeName)
    (fun _ _ _ => String.le_trans) (fun _ _ => String.le_total _ _) outputs
  exact hsorted.imp toUTF8_le_iff.mpr

theorem wellFormed_of_rows {a : Artifact} {e : Entry} (he : (b.onLedger.prepare modules a).1 = .ok e)
    {part : List ModeRow} (hrows : Rows Delivers (modesOf (.ok e)) part) {bundle : Bundle}
    (hb : e.bundle (part.map (·.2.1)) = .ok bundle) (hne : bundle.outputs ≠ []) :
    b.WellFormed modules a (part.flatMap (·.2.2)) bundle := by
  obtain ⟨hfound, hcode⟩ := b.onLedger.prepare_ok he
  obtain ⟨key, hkey, hfind⟩ := Option.bind_eq_some_iff.mp hfound
  have hentryKey : e.entryModule.entryKey = key := by simpa using List.find?_some hfind
  unfold Entry.bundle at hb
  cases hc : collect (part.map (·.2.1)) with
  | error cause => rw [hc] at hb; cases hb
  | ok outputs =>
    rw [hc] at hb
    cases hb
    obtain ⟨houtput, hmode, hmodes, hcalls⟩ := deliveries_of_rows hrows.2 hc
    have hasked : part.map (·.1.2) = e.entryModule.modeNames := by
      have := congrArg (List.map (·.2)) hrows.1
      simpa [modesOf, Function.comp_def] using this
    have hperm : (sortOutputs outputs).Perm outputs := List.mergeSort_perm _ _
    refine
      { entryKey := by rw [hkey, hentryKey]
        entryModule := ⟨e.entryModule, by rw [hentryKey, hfind], rfl, rfl, ?_⟩
        asked := hmode.trans hasked
        outputs := by rw [houtput]; exact hperm
        modes := by rw [← hasked, ← hmodes]; exact hperm.map _
        nonempty := hne
        sorted := sorted_sortOutputs outputs }
    intro d hd
    obtain ⟨p, hp, hmodule, hfinished⟩ := hcalls d hd
    -- every row of the part is about this entry
    have hentry : p = e := by
      have := congrArg (List.map (·.1)) hrows.1
      rw [List.map_map] at this
      have hp' : p ∈ (modesOf (.ok e)).map (·.1) := by rw [← this]; exact hp
      simp only [modesOf, List.map_map, List.mem_map] at hp'
      obtain ⟨-, -, rfl⟩ := hp'
      rfl
    rw [hmodule, hfinished, hentry]
    exact ⟨rfl, hcode⟩

theorem rows_of_entries {entries : List Artifact} {parts : List (List ModeRow)}
    (hparts : List.Forall₂ (Rows Delivers) ((b.onLedger.prepared modules entries).map modesOf) parts)
    {bundles : List Bundle} (hne : ∀ bundle ∈ bundles, bundle.outputs ≠ [])
    (hc : collect (List.zipWith bundleOf (b.onLedger.prepared modules entries) (parts.map (·.map (·.2.1)))) =
      .ok bundles) :
    ∃ rows : List (List Delivery × Bundle), rows.map (·.2) = bundles ∧
      rows.flatMap (·.1) = parts.flatten.flatMap (·.2.2) ∧
      List.Forall₂ (fun a row => b.WellFormed modules a row.1 row.2) entries rows := by
  induction entries generalizing parts bundles with
  | nil =>
    cases hparts
    cases hc
    exact ⟨[], rfl, rfl, .nil⟩
  | cons a entries ih =>
    obtain ⟨part, parts, hpart, hrest, rfl⟩ := List.forall₂_cons_left_iff.mp hparts
    obtain ⟨bundle, bundles, hb, hbs, rfl⟩ := collect_cons_ok hc
    obtain ⟨hfirst, hothers⟩ := List.forall_mem_cons.mp hne
    obtain ⟨rows, rfl, hflat, hrows⟩ := ih hrest hothers hbs
    have hb : bundleOf (b.onLedger.prepare modules a).1 (part.map (·.2.1)) = .ok bundle := hb
    have hpart : Rows Delivers (modesOf (b.onLedger.prepare modules a).1) part := hpart
    cases hp : (b.onLedger.prepare modules a).1 with
    | error e => rw [hp] at hb; cases hb
    | ok e =>
      rw [hp] at hpart hb
      refine ⟨(part.flatMap (·.2.2), bundle) :: rows, rfl, ?_, .cons (wellFormed_of_rows hp hpart hb hfirst) hrows⟩
      rw [List.flatMap_cons, hflat, List.flatten_cons, List.flatMap_append]

end rows

/-! ## The whole build -/

theorem writeModules_rows {b : Build (StateM σ)} (hw : b.host.writer.NamesModes) {modules : List EntryModule}
    {classes : Classes} {ledger : Ledger σ} {bundles : List Bundle}
    (h : (b.onLedger.writeModules modules classes ledger).1.result = .ok bundles)
    (hne : ∀ bundle ∈ bundles, bundle.outputs ≠ []) :
    ∃ rows : List (List Delivery × Bundle), rows.map (·.2) = bundles ∧
      List.Forall₂ (fun a row => b.WellFormed modules a row.1 row.2) classes.entries rows ∧
      ∃ ds, (b.onLedger.writeModules modules classes ledger).2.deliveries = ledger.deliveries ++ ds ∧
        ds.Perm (rows.flatMap (·.1)) := by
  obtain ⟨ds, hds, parts, singles, hparts, hsingles, hres, hperm⟩ := Job.joinGroups_emits Ledger.deliveries
    b.onLedger.modeJob b.onLedger.chunkJob
    (fun g (_ : g ∈ (b.onLedger.prepared modules classes.entries).map modesOf) p _ => emits_modeJob hw p)
    (fun a (_ : a ∈ classes.chunks) => emits_chunkJob a) ledger
  rw [writeModules_eq_joinGroups, Step.map_apply] at h ⊢
  rw [hres] at h
  obtain ⟨rows, hbundles, hflat, hrows⟩ := rows_of_entries hparts hne (moduleReport_ok h).1
  refine ⟨rows, hbundles, hrows, ds, hds, ?_⟩
  have hnothing : singles.flatMap (·.2.2) = [] := List.flatMap_eq_nil_iff.mpr hsingles.2
  rw [hflat]
  rwa [hnothing, List.append_nil] at hperm

theorem outputs_ne_nil_of_writeCores {b : Build (StateM σ)} {cores : List Artifact} {bundles : List Bundle} {s : σ}
    (h : (b.writeCores cores bundles s).1.result = .ok ()) : ∀ bundle ∈ bundles, bundle.outputs ≠ [] := by
  obtain ⟨codes, hc⟩ := codes_of_writeCores h
  obtain ⟨data, hdata, -⟩ := b.coreCodes_ok hc
  exact Bundle.outputs_ne_nil hdata

/-- When a build succeeds, there is one bundle for each entry artifact, in order, and it tells what the
module writer has given for the modes of its first entry module. A ledger looks on only. -/
theorem generate_wellFormed (b : Build (StateM σ)) (hw : b.host.writer.NamesModes) (modules : List EntryModule)
    (artifacts : List Artifact) (s : σ) (bundles : List Bundle)
    (h : (b.generate modules artifacts s).1.result = .ok bundles) :
    let run := b.onLedger.generate modules artifacts ⟨s, []⟩
    run.1 = (b.generate modules artifacts s).1 ∧ run.2.state = (b.generate modules artifacts s).2 ∧
      ∃ rows : List (List Delivery × Bundle), rows.map (·.2) = bundles ∧
        List.Forall₂ (fun a row => b.WellFormed modules a row.1 row.2) (classify artifacts).entries rows ∧
        run.2.deliveries.Perm (rows.flatMap (·.1)) := by
  intro run
  obtain ⟨hresult, hstate⟩ := b.over_onLedger.generate modules artifacts ⟨s, []⟩
  refine ⟨hresult, hstate, ?_⟩
  have hrun : run.1.result = .ok bundles := (congrArg Report.result hresult).trans h
  obtain ⟨hmodules, hcores, hledger⟩ := generate_phases hrun
  obtain ⟨rows, hbundles, hrows, ds, hds, hperm⟩ := writeModules_rows hw hmodules (outputs_ne_nil_of_writeCores hcores)
  refine ⟨rows, hbundles, hrows, ?_⟩
  rw [hledger, deliveries_writeCores, hds]
  exact hperm

/-! An icon with a mode that is named twice, a writer that is slow with it, and no core bundle. -/

def pacedModules : List EntryModule :=
  [⟨"ion-icon", ["md", "ios", "md"], []⟩, ⟨"ion-icon", ["wp"], []⟩]

def pacedArtifacts : List Artifact :=
  [⟨"shared.js", "shared", none, .chunk⟩, ⟨"icon.js", "icon", some "ion-icon", .componentEntry⟩]

def pacedWait (mode : String) : Nat :=
  if mode = "md" then 3 else 0

def pacedId (key mode : String) : String :=
  key ++ "-" ++ mode

def pacedBuild : Build (StateM Store) where
  config := {}
  host :=
    { stages := .identity
      files := Store.fileSystem fun _ => false
      writer := .scripted pacedId (fun _ => false) pacedWait (Store.fileSystem fun _ => false) }

theorem pacedBuild_ok : ∃ bundles, (pacedBuild.generate pacedModules pacedArtifacts {}).1.result = .ok bundles := by
  have hfs := Store.fileSystem_refuses fun _ => false
  have hgives := ModuleWriter.gives_scripted hfs pacedId (fun _ => false) pacedWait pacedBuild.config.destinations
  have hresult := result_writeModules (b := pacedBuild) _ hfs hgives pacedModules (classify pacedArtifacts) {}
  let bundle : Bundle := ⟨"ion-icon", ["md", "ios", "md"], [], sortOutputs
    [⟨"md", "ion-icon-md", "ion-icon-md.entry.js"⟩, ⟨"ios", "ion-icon-ios", "ion-icon-ios.entry.js"⟩,
      ⟨"md", "ion-icon-md", "ion-icon-md.entry.js"⟩]⟩
  have hmodules : (pacedBuild.writeModules pacedModules (classify pacedArtifacts) {}).1.result = .ok [bundle] := by
    rw [hresult]
    rfl
  have hne : bundle.outputs ≠ [] := by
    intro hnil
    have hlen := congrArg List.length hnil
    simp [bundle, sortOutputs] at hlen
  have hnone : refusalOf (Bundle.lazyData pacedBuild.host.threshold pacedBuild.config.defaultMode [bundle]) = none := by
    rw [Bundle.refusalOf_lazyData, List.filterMap_cons, Bundle.emptyKey?_eq_none_iff.mpr hne]
    rfl
  obtain ⟨data, hdata⟩ := refusalOf_eq_none_iff.mp hnone
  have hcodes : pacedBuild.coreCodes [] [bundle] = .ok [] := by
    unfold coreCodes
    rw [hdata]
    rfl
  obtain ⟨report, hreport, hcores⟩ := pacedBuild.writeCores_ok hcodes
  have hwritten : (pacedBuild.writeCores [] [bundle]
      (pacedBuild.writeModules pacedModules (classify pacedArtifacts) {}).2).1.result = .ok () := by
    rw [hcores]
    exact hreport _
  refine ⟨[bundle], ?_⟩
  rw [generate_of_modules_ok hmodules]
  exact congrArg (Except.map fun _ => [bundle]) hwritten

theorem generate_wellFormed_paced :
    let run := pacedBuild.onLedger.generate pacedModules pacedArtifacts ⟨{}, []⟩
    pacedBuild.host.writer.NamesModes ∧ ∃ bundles,
      (pacedBuild.generate pacedModules pacedArtifacts {}).1.result = .ok bundles ∧
      run.1 = (pacedBuild.generate pacedModules pacedArtifacts {}).1 ∧
      run.2.state = (pacedBuild.generate pacedModules pacedArtifacts {}).2 ∧
      ∃ rows : List (List Delivery × Bundle), rows.map (·.2) = bundles ∧
        List.Forall₂ (fun a row => pacedBuild.WellFormed pacedModules a row.1 row.2)
          (classify pacedArtifacts).entries rows ∧
        run.2.deliveries.Perm (rows.flatMap (·.1)) := by
  intro run
  have hw : pacedBuild.host.writer.NamesModes :=
    ModuleWriter.namesModes_scripted (Store.fileSystem fun _ => false) pacedId (fun _ => false) pacedWait
  obtain ⟨bundles, h⟩ := pacedBuild_ok
  exact ⟨hw, bundles, h, generate_wellFormed pacedBuild hw pacedModules pacedArtifacts {} bundles h⟩

end Build

end LazyBundle
