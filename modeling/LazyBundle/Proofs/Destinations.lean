import LazyBundle.Proofs.JoinedPaths
import LazyBundle.Proofs.Siblings

/-!
# Copies in the destinations

A build writes every file once for every destination, at the path of its name
joined to the destination. That path lies inside the destination when the name
is relative, has a part of its own and never steps up. Names are not checked, so
a file may also be written elsewhere (`generate_copies`).
-/

namespace LazyBundle

/-! ## Inside a directory -/

namespace Path

/-- A path strictly below a directory, which does not step up on the way. -/
def Inside (dir p : Path) : Prop :=
  ∃ rest, p.segments = dir.segments ++ rest ∧ rest ≠ [] ∧ .up ∉ rest

theorem inside_join_iff {dir : Path} {name : String} (h : name.toList.head? ≠ some '/') :
    dir.Inside (dir.join name) ↔ dir.added name ≠ [] ∧ .up ∉ dir.added name := by
  unfold Inside
  rw [segments_join_relative dir h]
  constructor
  · rintro ⟨rest, hrest, hne, hup⟩
    rw [List.append_cancel_left hrest]
    exact ⟨hne, hup⟩
  · exact fun ⟨hne, hup⟩ => ⟨_, rfl, hne, hup⟩

theorem join_absolute {dir : Path} {name : String} (h : name.toList.head? = some '/') : dir.join name = ⟨name⟩ := by
  rw [join, if_pos h]

end Path

/-! ## The files of a build -/

namespace Build

section

variable {m : Type → Type} (b : Build m) (modules : List EntryModule)

def entryFiles (a : Artifact) : List (String × String) :=
  match a.entryKey.bind (EntryModule.find? modules) with
  | none => []
  | some e => e.modeNames.map fun mode =>
      (entryFileName (bundleId b.config e.entryKey (b.finish a.code).code mode), (b.finish a.code).code)

def files (classes : Classes) (codes : List String) : List (String × String) :=
  classes.entries.flatMap (b.entryFiles modules) ++
    classes.chunks.map (fun a => (a.fileName, (b.finish a.code).code)) ++
    (classes.cores.zip codes).map fun c => (c.1.fileName, (b.finish c.2).code)

theorem calls_files (classes : Classes) (codes : List String) :
    b.moduleFileCalls modules classes ++ b.coreCalls classes.cores codes =
      (b.files modules classes codes).flatMap fun f => b.fileCalls f.2 f.1 := by
  have hentry : b.entryFileCalls modules = fun a => (b.entryFiles modules a).flatMap fun f => b.fileCalls f.2 f.1 := by
    funext a
    unfold entryFileCalls entryFiles
    cases a.entryKey.bind (EntryModule.find? modules) with
    | none => rfl
    | some e => simp only [List.flatMap_map]
  unfold moduleFileCalls coreCalls files
  simp only [hentry, List.flatMap_append, List.flatMap_assoc, List.flatMap_map]

end

section run

variable {σ : Type} {config : Config} {stages : Stages} {fs : FileSystem (StateM σ)} {threshold : Nat}
  {modules : List EntryModule} {artifacts : List Artifact} {s : σ} {bundles : List Bundle}

theorem calls_of_ok :
    let b := standard config stages fs.recorded threshold
    let classes := classify artifacts
    let run := b.generate modules artifacts ⟨s, []⟩
    run.1.result = .ok bundles →
      ∃ data,
        let files := b.files modules classes (classes.cores.map fun core => (inject core.code data).code)
        run.2.calls = files.flatMap (fun f => config.destinations.map fun d => .file (d.join f.1) f.2) ∧
        ∀ t ∈ run.2.attempts, t.refusal = none := by
  intro b classes run h
  obtain ⟨rfl, codes, hcodes, hrun⟩ := generate_ok (b := b) rfl h
  obtain ⟨data, -, rfl, -⟩ := b.coreCodes_ok hcodes
  let steps := b.moduleSteps modules classes ++
    b.coreSteps classes.cores (classes.cores.map fun core => (inject core.code data).code)
  obtain ⟨ks, hattempts, hcalls, hgranted⟩ := Step.attempts_runAll fs steps ⟨s, []⟩
  have hstate : (Step.runAll fs.recorded steps ⟨s, []⟩).2 = run.2 := congrArg Prod.snd hrun
  rw [hstate, List.nil_append] at hattempts
  refine ⟨data, ?_, ?_⟩
  · rw [Journal.calls, hattempts, hcalls, List.filterMap_append, calls_moduleSteps, calls_coreSteps, calls_files]
    rfl
  · rw [hattempts]
    exact hgranted (congrArg Prod.fst hrun)

end run

/-- When a build succeeds, every file has been written once for every destination. Its path lies inside
the destination if its name is relative, adds something to the destination and does not step up; a name
that is absolute is the path itself. -/
theorem generate_copies {σ : Type} (config : Config) (stages : Stages) (fs : FileSystem (StateM σ)) (threshold : Nat)
    (modules : List EntryModule) (artifacts : List Artifact) (s : σ) (bundles : List Bundle) :
    let b := standard config stages fs.recorded threshold
    let classes := classify artifacts
    let run := b.generate modules artifacts ⟨s, []⟩
    run.1.result = .ok bundles →
      ∃ data,
        let files := b.files modules classes (classes.cores.map fun core => (inject core.code data).code)
        run.2.calls = files.flatMap (fun f => config.destinations.map fun d => .file (d.join f.1) f.2) ∧
        (∀ t ∈ run.2.attempts, t.refusal = none) ∧
        ∀ f ∈ files, ∀ d ∈ config.destinations, d.Inside (d.join f.1) ↔
          if f.1.toList.head? = some '/' then d.Inside ⟨f.1⟩ else d.added f.1 ≠ [] ∧ .up ∉ d.added f.1 := by
  intro b classes run h
  obtain ⟨data, hcalls, hgranted⟩ := calls_of_ok h
  refine ⟨data, hcalls, hgranted, ?_⟩
  intro f _ d _
  by_cases ha : f.1.toList.head? = some '/'
  · rw [if_pos ha, Path.join_absolute ha]
  · rw [if_neg ha, Path.inside_join_iff ha]

/-! Two destinations, and chunks in a directory of their own and outside of both. -/

def spreadConfig : Config :=
  { destinations := [⟨"dist"⟩, ⟨"www"⟩] }

def spreadModules : List EntryModule :=
  [⟨"ion-icon", ["ios"], []⟩]

def spreadArtifacts : List Artifact :=
  [⟨"icon.js", "icon", some "ion-icon", .componentEntry⟩, ⟨"lib/util.js", "1", none, .chunk⟩,
   ⟨"/shared.js", "2", none, .chunk⟩]

def spreadBuild : Build (StateM (Journal Store)) :=
  standard spreadConfig .identity (Store.fileSystem fun _ => false).recorded Literal.defaultThreshold

theorem spreadBuild_ok :
    ∃ bundles, (spreadBuild.generate spreadModules spreadArtifacts ⟨{}, []⟩).1.result = .ok bundles := by
  have hs : sortOutputs (spreadBuild.outputs ⟨⟨"ion-icon", ["ios"], []⟩, "icon"⟩) =
      spreadBuild.outputs ⟨⟨"ion-icon", ["ios"], []⟩, "icon"⟩ := sortOutputs_of_sorted (List.pairwise_singleton _ _)
  have hb : spreadBuild.bundles spreadModules (classify spreadArtifacts) =
      [⟨"ion-icon", ["ios"], [], spreadBuild.outputs ⟨⟨"ion-icon", ["ios"], []⟩, "icon"⟩⟩] := by
    rw [← hs]; rfl
  have hc : spreadBuild.coreCodes (classify spreadArtifacts).cores
      (spreadBuild.bundles spreadModules (classify spreadArtifacts)) = .ok [] := by
    rw [hb]; decide +kernel
  exact ⟨_, (generate_of_steps rfl hc rfl).1⟩

theorem generate_copies_spread :
    let classes := classify spreadArtifacts
    let run := spreadBuild.generate spreadModules spreadArtifacts ⟨{}, []⟩
    (∃ bundles, run.1.result = .ok bundles) ∧ ∃ data,
      let files := spreadBuild.files spreadModules classes (classes.cores.map fun core => (inject core.code data).code)
      run.2.calls = files.flatMap (fun f => spreadConfig.destinations.map fun d => .file (d.join f.1) f.2) ∧
      (∀ t ∈ run.2.attempts, t.refusal = none) ∧
      ∀ f ∈ files, ∀ d ∈ spreadConfig.destinations, d.Inside (d.join f.1) ↔
        if f.1.toList.head? = some '/' then d.Inside ⟨f.1⟩ else d.added f.1 ≠ [] ∧ .up ∉ d.added f.1 := by
  obtain ⟨bundles, h⟩ := spreadBuild_ok
  exact ⟨⟨bundles, h⟩, generate_copies spreadConfig .identity (Store.fileSystem fun _ => false) Literal.defaultThreshold
    spreadModules spreadArtifacts {} bundles h⟩

/-- A chunk with an absolute name is in none of the destinations. -/
theorem generate_leaves_destinations :
    ¬ ∀ (config : Config) (stages : Stages) (threshold : Nat) (modules : List EntryModule)
        (artifacts : List Artifact) (s : Store) (bundles : List Bundle),
      let b := standard config stages (Store.fileSystem fun _ => false).recorded threshold
      let run := b.generate modules artifacts ⟨s, []⟩
      run.1.result = .ok bundles → ∀ p content, .file p content ∈ run.2.calls →
        ∃ d ∈ config.destinations, d.Inside p := by
  intro h
  obtain ⟨bundles, hok⟩ := spreadBuild_ok
  obtain ⟨data, hcalls, -⟩ := calls_of_ok hok
  have hmem : .file ⟨"/shared.js"⟩ "2" ∈ (spreadBuild.generate spreadModules spreadArtifacts ⟨{}, []⟩).2.calls := by
    rw [show (spreadBuild.generate spreadModules spreadArtifacts ⟨{}, []⟩).2.calls = _ from hcalls]
    refine List.mem_flatMap.mpr ⟨("/shared.js", "2"), ?_, List.mem_cons_self⟩
    exact List.mem_append_left _ (List.mem_append_right _ (List.mem_cons_of_mem _ List.mem_cons_self))
  obtain ⟨d, hd, rest, hrest, -⟩ := h spreadConfig .identity Literal.defaultThreshold spreadModules spreadArtifacts {}
    bundles hok ⟨"/shared.js"⟩ "2" hmem
  -- both destinations are relative, so nothing that starts at the root goes on from them
  have hrelative : ∀ d ∈ spreadConfig.destinations, ∃ n, d.segments.head? = some (.name n) := by
    intro d hd
    rcases List.mem_pair.mp hd with rfl | rfl
    · exact ⟨"dist".toList, by decide⟩
    · exact ⟨"www".toList, by decide⟩
  obtain ⟨n, hn⟩ := hrelative d hd
  have hroot : (Path.mk "/shared.js").segments.head? = some .root := by decide
  rw [hrest, List.head?_append, hn] at hroot
  cases hroot

end Build

end LazyBundle
