import Mathlib.Data.List.Nodup
import LazyBundle.Proofs.Agreement
import LazyBundle.Proofs.EntryFiles
import LazyBundle.Proofs.Rebuilding
import LazyBundle.Proofs.Siblings

/-!
# Order that makes no difference

The order of the modes of an entry module, the order of the entry modules and the
time that the writing of a mode takes leave no trace in what a build gives to the
loader: outputs are sorted by mode, the first entry module of a key counts, and
results come back at the place of their jobs (`generate_reordered`).
-/

namespace LazyBundle

open Step

/-! ## Both or neither -/

inductive SameSuccess {ε α β : Type} (R : α → β → Prop) : Except ε α → Except ε β → Prop
  | error (e e' : ε) : SameSuccess R (.error e) (.error e')
  | ok {a : α} {a' : β} (h : R a a') : SameSuccess R (.ok a) (.ok a')

section

variable {ε α β γ δ : Type} {R : α → β → Prop} {S : γ → δ → Prop}

theorem SameSuccess.error_or_ok {x : Except ε α} {y : Except ε β} (h : SameSuccess R x y) :
    (∃ e e', x = .error e ∧ y = .error e') ∨ ∃ a a', x = .ok a ∧ y = .ok a' ∧ R a a' := by
  cases h with
  | error e e' => exact .inl ⟨e, e', rfl, rfl⟩
  | ok h => exact .inr ⟨_, _, rfl, rfl, h⟩

theorem SameSuccess.bind {x : Except ε α} {y : Except ε β} {f : α → Except ε γ} {g : β → Except ε δ}
    (h : SameSuccess R x y) (hfg : ∀ a a', R a a' → SameSuccess S (f a) (g a')) :
    SameSuccess S (x.bind f) (y.bind g) := by
  cases h with
  | error e e' => exact .error e e'
  | ok h => exact hfg _ _ h

theorem SameSuccess.map {x : Except ε α} {y : Except ε β} {f : α → γ} {g : β → δ} (h : SameSuccess R x y)
    (hfg : ∀ a a', R a a' → S (f a) (g a')) : SameSuccess S (x.map f) (y.map g) := by
  cases h with
  | error e e' => exact .error e e'
  | ok h => exact .ok (hfg _ _ h)

theorem sameSuccess_collect {l : List (Except ε α)} {l' : List (Except ε β)}
    (h : List.Forall₂ (SameSuccess R) l l') : SameSuccess (List.Forall₂ R) (collect l) (collect l') := by
  induction h with
  | nil => exact .ok .nil
  | cons hx _ ih =>
    rw [collect_cons, collect_cons]
    apply hx.bind
    intro a a' ha
    apply ih.map
    intro as as' has
    exact .cons ha has

/-- Whether all have succeeded does not depend on the order. -/
theorem collect_perm {l l' : List (Except ε α)} (h : l.Perm l') :
    SameSuccess List.Perm (collect l) (collect l') := by
  induction h with
  | nil => exact .ok .nil
  | cons x _ ih =>
    rw [collect_cons, collect_cons]
    cases x with
    | error e => exact .error e e
    | ok a => exact ih.map fun as as' has => .cons a has
  | swap x y l =>
    simp only [collect_cons]
    cases x with
    | error e => cases y <;> exact .error _ _
    | ok a =>
      cases y with
      | error e => exact .error _ _
      | ok b =>
        cases collect l with
        | error e => exact .error _ _
        | ok as => exact .ok (.swap a b as)
  | trans _ _ ih ih' =>
    rcases ih.error_or_ok with ⟨e, e', he, he'⟩ | ⟨as, as', hs, hs', hperm⟩
    · rw [he'] at ih'
      rcases ih'.error_or_ok with ⟨-, e'', -, he''⟩ | ⟨_, _, hok, -⟩
      · rw [he, he'']
        exact .error e e''
      · cases hok
    · rw [hs'] at ih'
      rcases ih'.error_or_ok with ⟨_, _, herr, -⟩ | ⟨_, as'', hok, hs'', hperm'⟩
      · cases herr
      · cases hok
        rw [hs, hs'']
        exact .ok (hperm.trans hperm')

end

/-! ## Entry modules and bundles in another order -/

namespace EntryModule

structure Reordered (e e' : EntryModule) : Prop where
  entryKey : e.entryKey = e'.entryKey
  components : e.components = e'.components
  modeNames : e.modeNames.Perm e'.modeNames
  nodup : e.modeNames.Nodup

/-- Every key has the same first entry module in both lists, but for the order of the modes. -/
def SameIndex (modules modules' : List EntryModule) : Prop :=
  ∀ key, Option.Rel Reordered (find? modules key) (find? modules' key)

end EntryModule

namespace Bundle

structure Alike (b b' : Bundle) : Prop where
  entryKey : b.entryKey = b'.entryKey
  components : b.components = b'.components
  outputs : b.outputs = b'.outputs

variable {bundles bundles' : List Bundle} (h : List.Forall₂ Alike bundles bundles')
include h

theorem encodeAll_alike (defaultMode : String) : encodeAll defaultMode bundles = encodeAll defaultMode bundles' := by
  induction h with
  | nil => rfl
  | cons hb _ ih =>
    unfold encodeAll runtimeData
    rw [hb.entryKey, hb.components, hb.outputs, ih]

theorem lazyData_alike (threshold : Nat) (defaultMode : String) :
    lazyData threshold defaultMode bundles = lazyData threshold defaultMode bundles' := by
  rw [lazyData, lazyData, encodeAll_alike h]

end Bundle

namespace Build

/-- Outputs for different modes can be sorted in one way only. -/
theorem sortOutputs_perm {os os' : List ModeOutput} (h : os.Perm os') (hd : (os.map (·.modeName)).Nodup) :
    sortOutputs os = sortOutputs os' := by
  refine mergeSort_of_perm (r := fun a b : ModeOutput => a.modeName ≤ b.modeName) (fun _ _ _ => String.le_trans)
    (fun _ _ => String.le_total _ _) h ?_
  intro a ha b hb hab hba
  exact List.inj_on_of_nodup_map hd ha hb (String.le_antisymm hab hba)

end Build

/-! ## Writers whose outcomes do not depend on the state -/

theorem FileSystem.writeAll_granted {σ : Type} {fs : FileSystem (StateM σ)} (hfs : fs.Refuses fun _ => false)
    (code fileName : String) (destinations : List Path) (s : σ) :
    (fs.writeAll code fileName destinations s).1 = .ok () := by
  have hruns := congrArg Prod.fst (congrFun (runs_writeAll fs code fileName destinations) s)
  have hnone : refusalOf (runAll fs (copies destinations code fileName) s).1 = none := by
    rw [refusalOf_runAll hfs, copies, List.filterMap_map]
    simp [Function.comp_def, failure?]
  obtain ⟨u, hok⟩ := refusalOf_eq_none_iff.mp hnone
  simp only [map_apply, hok] at hruns
  cases ho : (fs.writeAll code fileName destinations s).1 with
  | ok u => rfl
  | error e => rw [ho] at hruns; cases hruns

namespace ModuleWriter

/-- The writing of a mode ends in the outcome whatever has been written before. -/
structure Gives {σ : Type} (w : ModuleWriter (StateM σ)) (destinations : List Path)
    (outcome : String → String → String → Except WriteError ModeOutput) : Prop where
  write : ∀ e code mode s, (w.write destinations e code mode s).1 = outcome e.entryKey code mode
  modeName : ∀ key code mode o, outcome key code mode = .ok o → o.modeName = mode

section

variable {σ : Type} {fs : FileSystem (StateM σ)} (hfs : fs.Refuses fun _ => false)
include hfs

theorem gives_ofConfig (config : Config) :
    (ofConfig config fs).Gives config.destinations fun key code mode => .ok (outputOf config key code mode) where
  write e code mode s := by
    unfold ofConfig named
    simp only [bind_apply, FileSystem.writeAll_granted hfs]
    rfl
  modeName key code mode o h := by cases h; rfl

theorem gives_scripted (idOf : String → String → String) (refuses : String → Bool) (wait : String → Nat)
    (destinations : List Path) :
    (scripted idOf refuses wait fs).Gives destinations fun key _ mode =>
      if refuses mode then .error (.refusedMode mode)
      else .ok ⟨mode, idOf key mode, entryFileName (idOf key mode)⟩ where
  write e code mode s := by
    unfold scripted named
    by_cases h : refuses mode
    · simp only [if_pos h]
      rfl
    · simp only [if_neg h, bind_apply, FileSystem.writeAll_granted hfs]
      rfl
  modeName key code mode o h := by
    by_cases hr : refuses mode
    · simp [hr] at h
    · simp only [hr] at h
      cases h
      rfl

end

end ModuleWriter

namespace Build

/-! ## Entries and chunks -/

section modules

variable {m : Type → Type} (b : Build m) (outcome : String → String → String → Except WriteError ModeOutput)
  {modules modules' : List EntryModule}

def givenBundles (modules : List EntryModule) (entries : List Artifact) : Except BuildError (List Bundle) :=
  collect ((b.prepared modules entries).map fun p =>
    bundleOf p ((modesOf p).map fun q => outcome q.1.entryModule.entryKey q.1.code q.2))

theorem result_writeModules {σ : Type} {b : Build (StateM σ)} (hfs : b.host.files.Refuses fun _ => false)
    (hw : b.host.writer.Gives b.config.destinations outcome) (modules : List EntryModule) (classes : Classes) (s : σ) :
    (b.writeModules modules classes s).1.result = b.givenBundles outcome modules classes.entries := by
  have hjoin := Job.joinGroups_results b.modeJob b.chunkJob
    (f := fun q => outcome q.1.entryModule.entryKey q.1.code q.2) (g := fun _ => .ok ())
    (fun q s => hw.write q.1.entryModule q.1.code q.2 s)
    (fun a s => FileSystem.writeAll_granted hfs (b.finish a.code).code a.fileName b.config.destinations s)
    ((b.prepared modules classes.entries).map modesOf) classes.chunks s
  have hchunks : collect (ε := WriteError) (classes.chunks.map fun _ => Except.ok ()) =
      .ok (classes.chunks.map fun _ => ()) := by
    rw [← collect_map_ok, List.map_map]
    rfl
  rw [writeModules_eq_joinGroups, map_apply, hjoin, moduleReport, hchunks, givenBundles]
  simp only [List.map_map, Function.comp_def, List.zipWith_map_right, List.zipWith_self]
  cases collect _ <;> rfl

variable {b outcome}
variable (hmode : ∀ key code mode o, outcome key code mode = .ok o → o.modeName = mode)
  (h : EntryModule.SameIndex modules modules')

include h in
theorem prepare_reordered (a : Artifact) :
    SameSuccess (fun e e' => e.entryModule.Reordered e'.entryModule ∧ e.code = e'.code)
      (b.prepare modules a).1 (b.prepare modules' a).1 := by
  unfold prepare
  cases a.entryKey with
  | none => exact .error _ _
  | some key =>
    have hkey := h key
    simp only [Option.bind_some]
    generalize EntryModule.find? modules key = x at hkey
    generalize EntryModule.find? modules' key = y at hkey
    cases hkey with
    | none => exact .error _ _
    | some he => exact .ok ⟨he, rfl⟩

include hmode in
theorem modeNames_of_collect {key code : String} {modes : List String} {outputs : List ModeOutput}
    (ho : collect (modes.map (outcome key code)) = .ok outputs) : outputs.map (·.modeName) = modes := by
  induction modes generalizing outputs with
  | nil => cases ho; rfl
  | cons mode modes ih =>
    obtain ⟨o, os, h1, h2, rfl⟩ := collect_cons_ok ho
    rw [List.map_cons, hmode _ _ _ _ h1, ih h2]

include hmode in
theorem bundle_reordered {e e' : EntryModule} (he : e.Reordered e') (code : String) :
    SameSuccess Bundle.Alike ((Entry.mk e code).bundle (e.modeNames.map (outcome e.entryKey code)))
      ((Entry.mk e' code).bundle (e'.modeNames.map (outcome e'.entryKey code))) := by
  unfold Entry.bundle
  rw [← he.entryKey, ← he.components]
  rcases (collect_perm (he.modeNames.map (outcome e.entryKey code))).error_or_ok with
    ⟨cause, cause', hc, hc'⟩ | ⟨outputs, outputs', hc, hc', hperm⟩
  · rw [hc, hc']
    exact .error _ _
  · have hnodup : (outputs.map (·.modeName)).Nodup := by
      rw [modeNames_of_collect hmode hc]
      exact he.nodup
    rw [hc, hc']
    exact .ok ⟨rfl, rfl, sortOutputs_perm hperm hnodup⟩

include hmode h in
theorem givenBundles_reordered (entries : List Artifact) :
    SameSuccess (List.Forall₂ Bundle.Alike) (b.givenBundles outcome modules entries)
      (b.givenBundles outcome modules' entries) := by
  unfold givenBundles prepared
  apply sameSuccess_collect
  rw [List.map_map, List.map_map, List.forall₂_map_left_iff, List.forall₂_map_right_iff, List.forall₂_same]
  intro a _
  simp only [Function.comp_def]
  rcases (prepare_reordered (b := b) h a).error_or_ok with
    ⟨e, e', he, he'⟩ | ⟨⟨em, code⟩, ⟨em', code'⟩, he, he', hem, hcode⟩
  · rw [he, he']
    exact .error e e'
  · obtain rfl : code = code' := hcode
    rw [he, he']
    simp only [modesOf, List.map_map, Function.comp_def]
    exact bundle_reordered hmode hem code

end modules

/-! ## The whole build -/

section whole

variable {σ : Type}

def writing {m : Type → Type} (b : Build m) (w : ModuleWriter m) : Build m where
  config := b.config
  host := { b.host with writer := w }

/-- Both builds fail, or both succeed with bundles alike and write the same core bundles after the
entries and chunks. -/
structure SameEnd (b b' : Build (StateM (Journal σ))) (modules modules' : List EntryModule)
    (artifacts : List Artifact) (j : Journal σ) : Prop where
  result : SameSuccess (List.Forall₂ Bundle.Alike) (b.generate modules artifacts j).1.result
    (b'.generate modules' artifacts j).1.result
  cores : ∀ bundles, (b.generate modules artifacts j).1.result = .ok bundles → ∃ data,
    let classes := classify artifacts
    let calls := b.coreCalls classes.cores (classes.cores.map fun core => (inject core.code data).code)
    (b.generate modules artifacts j).2.calls = (b.writeModules modules classes j).2.calls ++ calls ∧
      (b'.generate modules' artifacts j).2.calls = (b'.writeModules modules' classes j).2.calls ++ calls

theorem calls_writeCores {b : Build (StateM (Journal σ))} {fs : FileSystem (StateM σ)}
    (hfiles : b.host.files = fs.recorded) {cores : List Artifact} {bundles : List Bundle} {j : Journal σ}
    (h : (b.writeCores cores bundles j).1.result = .ok ()) :
    ∃ data, ∀ j', (b.writeCores cores bundles j').2.calls =
      j'.calls ++ b.coreCalls cores (cores.map fun core => (inject core.code data).code) := by
  obtain ⟨codes, hc⟩ := codes_of_writeCores h
  obtain ⟨data, -, rfl, -⟩ := b.coreCodes_ok hc
  obtain ⟨report, -, hcores⟩ := b.writeCores_ok hc
  refine ⟨data, fun j' => ?_⟩
  rw [hcores, map_apply, hfiles, calls_runAll, calls_coreSteps]

theorem writeCores_writing (b : Build (StateM σ)) (w : ModuleWriter (StateM σ)) (cores : List Artifact)
    (bundles : List Bundle) : (b.writing w).writeCores cores bundles = b.writeCores cores bundles := by
  have hinject : ∀ data, (b.writing w).injectAll data cores = b.injectAll data cores :=
    fun data => (b.writing w).injectAll_congr b rfl data cores
  unfold writeCores
  simp only [hinject]
  rfl

/-- Builds over entry modules in another order, and with writes of modes in another order, end alike. -/
theorem sameEnd_of_gives {b : Build (StateM (Journal σ))} {fs : FileSystem (StateM σ)}
    (hfiles : b.host.files = fs.recorded) (hfs : fs.Refuses fun _ => false)
    {outcome : String → String → String → Except WriteError ModeOutput} {w : ModuleWriter (StateM (Journal σ))}
    (hw : b.host.writer.Gives b.config.destinations outcome) (hw' : w.Gives b.config.destinations outcome)
    {modules modules' : List EntryModule} (h : EntryModule.SameIndex modules modules') (artifacts : List Artifact)
    (j : Journal σ) : b.SameEnd (b.writing w) modules modules' artifacts j := by
  let classes := classify artifacts
  have hgranted : b.host.files.Refuses fun _ => false := by rw [hfiles]; exact hfs.recorded
  have hfirst := givenBundles_reordered (b := b) hw.modeName h classes.entries
  have hm := result_writeModules outcome hgranted hw modules classes j
  have hm' := result_writeModules (b := b.writing w) outcome hgranted hw' modules' classes j
  rw [← hm, show b.givenBundles outcome modules' classes.entries = _ from hm'.symm] at hfirst
  rcases hfirst.error_or_ok with ⟨e, e', hr, hr'⟩ | ⟨bundles, bundles', hr, hr', halike⟩
  · have he := congrArg (·.1.result) (generate_of_modules_error hr)
    have he' := congrArg (·.1.result) (generate_of_modules_error hr')
    refine ⟨by rw [he, he']; exact .error e e', fun bundles hok => ?_⟩
    rw [he] at hok
    cases hok
  · let state := (b.writeModules modules classes j).2
    let state' := ((b.writing w).writeModules modules' classes j).2
    -- the same code goes out after entries and chunks, and the report does not depend on these
    have hcores : (b.writing w).writeCores classes.cores bundles' = b.writeCores classes.cores bundles := by
      rw [writeCores_writing]
      unfold writeCores
      rw [Bundle.lazyData_alike halike]
    have hresult : (b.generate modules artifacts j).1.result =
        (b.writeCores classes.cores bundles state).1.result.map fun _ => bundles :=
      congrArg (·.1.result) (generate_of_modules_ok hr)
    have hresult' : ((b.writing w).generate modules' artifacts j).1.result =
        (b.writeCores classes.cores bundles state).1.result.map fun _ => bundles' := by
      rw [generate_of_modules_ok hr', ← writeCores_report_eq hgranted _ _ state', ← hcores]
    have hstate : (b.generate modules artifacts j).2 = (b.writeCores classes.cores bundles state).2 :=
      congrArg Prod.snd (generate_of_modules_ok hr)
    have hstate' : ((b.writing w).generate modules' artifacts j).2 = (b.writeCores classes.cores bundles state').2 := by
      rw [generate_of_modules_ok hr', ← hcores]
    cases hsecond : (b.writeCores classes.cores bundles state).1.result with
    | error e =>
      rw [hsecond] at hresult hresult'
      refine ⟨by rw [hresult, hresult']; exact .error e e, fun bundles hok => ?_⟩
      rw [hresult] at hok
      cases hok
    | ok u =>
      rw [hsecond] at hresult hresult'
      obtain ⟨data, hcalls⟩ := calls_writeCores hfiles hsecond
      refine ⟨by rw [hresult, hresult']; exact .ok halike, fun _ _ => ⟨data, ?_, ?_⟩⟩
      · rw [hstate]
        exact hcalls state
      · rw [hstate']
        exact hcalls state'

end whole

/-! ## What the paths hold -/

section contents

variable {modules modules' : List EntryModule} (h : EntryModule.SameIndex modules modules')
include h

theorem any_entryPaths {m : Type → Type} (b : Build m) (a : Artifact) (f : Path → Bool) :
    (b.entryPaths modules a).any f = (b.entryPaths modules' a).any f := by
  unfold entryPaths
  rcases (prepare_reordered (b := b) h a).error_or_ok with ⟨e, e', he, he'⟩ | ⟨e, e', he, he', hem, hcode⟩
  · rw [he, he']
  · rw [he, he']
    simp only [outputs, ← hem.entryKey, ← hcode]
    exact ((hem.modeNames.map _).flatMap_right _).any_eq

theorem lastContent?_moduleSteps {m : Type → Type} (b : Build m) (classes : Classes) (p : Path) :
    lastContent? p (b.moduleSteps modules classes) = lastContent? p (b.moduleSteps modules' classes) := by
  unfold moduleSteps
  rw [lastContent?_append, lastContent?_append, lastContent?_entries, lastContent?_entries]
  simp only [lastEntryAt?, any_entryPaths h]

theorem read?_reordered {b : Build (StateM (Journal Store))} {locked : Path → Bool}
    (hw : b.host.writer = .ofConfig b.config b.host.files)
    (hfiles : b.host.files = (Store.fileSystem locked).recorded) {artifacts : List Artifact} {j : Journal Store}
    {bundles bundles' : List Bundle} (hok : (b.generate modules artifacts j).1.result = .ok bundles)
    (hok' : (b.generate modules' artifacts j).1.result = .ok bundles')
    (halike : List.Forall₂ Bundle.Alike bundles bundles') (p : Path) :
    (b.generate modules artifacts j).2.state.read? p = (b.generate modules' artifacts j).2.state.read? p := by
  have hread : ∀ {modules bundles}, (b.generate modules artifacts j).1.result = .ok bundles →
      ∃ codes, b.coreCodes (classify artifacts).cores bundles = .ok codes ∧
        (b.generate modules artifacts j).2.state.read? p =
          (lastContent? p (b.moduleSteps modules (classify artifacts) ++
            b.coreSteps (classify artifacts).cores codes)).or (j.state.read? p) := by
    intro modules bundles hok
    obtain ⟨-, codes, hcodes, hrun⟩ := generate_ok hw hok
    rw [hfiles] at hrun
    have hg := granted_of_ok (Store.fileSystem_refuses locked).recorded (congrArg Prod.fst hrun)
    have hstate := congrArg (·.2.state) hrun
    simp only [state_runAll] at hstate
    refine ⟨codes, hcodes, ?_⟩
    rw [← hstate, read?_runAll, List.filter_eq_self.mpr hg]
  obtain ⟨codes, hcodes, hp⟩ := hread hok
  obtain ⟨codes', hcodes', hp'⟩ := hread hok'
  have hsame : b.coreCodes (classify artifacts).cores bundles = b.coreCodes (classify artifacts).cores bundles' := by
    rw [coreCodes, coreCodes, Bundle.lazyData_alike halike]
  obtain rfl : codes = codes' := Except.ok.inj (hcodes.symm.trans (hsame.trans hcodes'))
  rw [hp, hp', lastContent?_append, lastContent?_append, lastContent?_moduleSteps h]

end contents

/-- The order of the modes and of the entry modules leaves no trace in the bundles, in the core bundles
and in what the paths hold. With a scripted writer, neither does the order in which modes are written. -/
theorem generate_reordered (config : Config) (stages : Stages) (threshold : Nat) (modules modules' : List EntryModule)
    (artifacts : List Artifact) (s : Store) (h : EntryModule.SameIndex modules modules') :
    let files := (Store.fileSystem fun _ => false).recorded
    let b := standard config stages files threshold
    let run := fun modules => b.generate modules artifacts ⟨s, []⟩
    b.SameEnd b modules modules' artifacts ⟨s, []⟩ ∧
      (∀ bundles, (run modules).1.result = .ok bundles →
        ∀ p, (run modules).2.state.read? p = (run modules').2.state.read? p) ∧
      ∀ idOf refuses wait wait',
        (b.writing (.scripted idOf refuses wait files)).SameEnd (b.writing (.scripted idOf refuses wait' files))
          modules modules' artifacts ⟨s, []⟩ := by
  intro files b run
  have hfs := Store.fileSystem_refuses fun _ => false
  have hw := ModuleWriter.gives_ofConfig hfs.recorded config
  have hend : b.SameEnd b modules modules' artifacts ⟨s, []⟩ := sameEnd_of_gives rfl hfs hw hw h artifacts ⟨s, []⟩
  refine ⟨hend, fun bundles hok p => ?_, fun idOf refuses wait wait' => ?_⟩
  · have hresult := hend.result
    rw [show (b.generate modules artifacts ⟨s, []⟩).1.result = .ok bundles from hok] at hresult
    rcases hresult.error_or_ok with ⟨e, e', he, -⟩ | ⟨bs, bs', hbs, hok', halike⟩
    · cases he
    · cases hbs
      exact read?_reordered h rfl rfl hok hok' halike p
  · exact sameEnd_of_gives rfl hfs (ModuleWriter.gives_scripted hfs.recorded idOf refuses wait config.destinations)
      (ModuleWriter.gives_scripted hfs.recorded idOf refuses wait' config.destinations) h artifacts ⟨s, []⟩

/-! The icon with its modes the other way round, and a second module with its key. -/

def turnedModules : List EntryModule :=
  [⟨"ion-icon", ["md", "ios"], []⟩, ⟨"ion-icon", ["wp"], []⟩]

theorem sameIndex_turned : EntryModule.SameIndex iconModules turnedModules := by
  intro key
  by_cases hk : key = "ion-icon"
  · subst hk
    exact .some ⟨rfl, rfl, by decide, by decide⟩
  · have hne : ("ion-icon" == key) = false := by simpa using Ne.symm hk
    simp only [EntryModule.find?, iconModules, turnedModules, List.find?_cons, List.find?_nil, hne]
    exact .none

theorem generate_reordered_icon :
    let files := (Store.fileSystem fun _ => false).recorded
    let run := fun modules => iconBuild.generate modules iconArtifacts ⟨{}, []⟩
    EntryModule.SameIndex iconModules turnedModules ∧ (∃ bundles, (run iconModules).1.result = .ok bundles) ∧
      iconBuild.SameEnd iconBuild iconModules turnedModules iconArtifacts ⟨{}, []⟩ ∧
      (∀ p, (run iconModules).2.state.read? p = (run turnedModules).2.state.read? p) ∧
      ∀ idOf refuses wait wait',
        (iconBuild.writing (.scripted idOf refuses wait files)).SameEnd
          (iconBuild.writing (.scripted idOf refuses wait' files)) iconModules turnedModules iconArtifacts ⟨{}, []⟩ := by
  intro files run
  obtain ⟨bundles, hok⟩ := iconBuild_ok
  obtain ⟨hend, hread, hscripted⟩ := generate_reordered {} .identity 0 iconModules turnedModules iconArtifacts {}
    sameIndex_turned
  exact ⟨sameIndex_turned, ⟨bundles, hok⟩, hend, hread bundles hok, hscripted⟩

end Build

end LazyBundle
