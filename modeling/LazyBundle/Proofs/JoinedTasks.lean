import LazyBundle.Build.Timed
import LazyBundle.Proofs.Replay

/-!
# Joined tasks

The calls of tasks carry out steps (`Task.Does`). Made one after the other, the
calls of all tasks carry out the steps of all tasks (`Task.runs_calls`). When they
are joined instead, and the file system refuses some paths, they give the same and
carry out the same steps in another order (`Task.joinAll_reordered`).
-/

namespace LazyBundle

open Step

/-! ## Steps in another order -/

namespace Step

variable {σ : Type} (fs : FileSystem (StateM σ))

theorem state_runAll_append (a b : List Step) (s : σ) :
    (runAll fs (a ++ b) s).2 = (runAll fs b (runAll fs a s).2).2 := by
  rw [runAll_append, bind_apply, map_apply]

/-- Entries without module leave no trace. -/
theorem state_runAll_absent {steps : List Step} (h : ∀ step ∈ steps, ∃ e, step = .absent e) (s : σ) :
    (runAll fs steps s).2 = s := by
  induction steps generalizing s with
  | nil => rfl
  | cons step steps ih =>
    obtain ⟨⟨e, rfl⟩, hsteps⟩ := List.forall_mem_cons.mp h
    rw [runAll_cons]
    exact ih hsteps s

theorem state_mapM {ι α : Type} {x : ι → StateM σ α} {steps : ι → List Step} {l : List ι}
    (h : ∀ i ∈ l, ∀ s, (x i s).2 = (runAll fs (steps i) s).2) (s : σ) :
    (l.mapM x s).2 = (runAll fs (l.flatMap steps) s).2 := by
  induction l generalizing s with
  | nil => rfl
  | cons i l ih =>
    obtain ⟨hi, hl⟩ := List.forall_mem_cons.mp h
    rw [List.flatMap_cons, state_runAll_append, ← hi, ← ih hl, List.mapM_cons]
    rfl

end Step

namespace Job

variable {σ ι α : Type} {job : ι → Job (StateM σ) α} {l : List ι}

/-- Results that the state has no part in do not depend on when the jobs run. -/
theorem joinAll_results {f : ι → α} (h : ∀ i ∈ l, ∀ s, ((job i).run s).1 = f i) (s : σ) :
    (joinAll (l.map job) s).1 = l.map f := by
  -- the log stays empty, only the results count
  let log : σ → List Unit := fun _ => []
  have hjob : ∀ i ∈ l, Emits log (job i).run fun a _ => a = f i := fun i hi s => ⟨[], rfl, h i hi s⟩
  obtain ⟨-, -, rows, hrows, hres, -⟩ := joinAll_emits log hjob s
  rw [hres, hrows.results fun _ _ _ h => h]

theorem mapM_results {f : ι → α} (h : ∀ i ∈ l, ∀ s, ((job i).run s).1 = f i) (s : σ) :
    (l.mapM (fun i => (job i).run) s).1 = l.map f := by
  induction l generalizing s with
  | nil => rfl
  | cons i l ih =>
    obtain ⟨hi, hl⟩ := List.forall_mem_cons.mp h
    rw [List.map_cons, ← hi s, ← ih hl ((job i).run s).2, List.mapM_cons]
    rfl

/-- Joined jobs carry out their steps in the order in which they run. -/
theorem joinAll_state (fs : FileSystem (StateM σ)) {steps : ι → List Step}
    (h : ∀ i ∈ l, ∀ s, ((job i).run s).2 = (runAll fs (steps i) s).2) (s : σ) :
    ∃ order, order.Perm (l.flatMap steps) ∧ (joinAll (l.map job) s).2 = (runAll fs order s).2 := by
  let order := l.zipIdx.mergeSort fun a b => (job a.1).wait ≤ (job b.1).wait
  have horder : order.Perm l.zipIdx := List.mergeSort_perm _ _
  have hruns : ∀ p ∈ order, ∀ s, (((fun a => (a, p.2)) <$> (job p.1).run : StateM σ (α × Nat)) s).2 =
      (runAll fs (steps p.1) s).2 :=
    fun p hp => h p.1 (List.fst_mem_of_mem_zipIdx (horder.mem_iff.mp hp))
  refine ⟨order.flatMap fun p => steps p.1, ?_, ?_⟩
  · have hplaces : l.zipIdx.flatMap (fun p => steps p.1) = l.flatMap steps := by
      rw [← List.flatMap_map Prod.fst steps, List.zipIdx_map_fst]
    exact hplaces ▸ horder.flatMap_right _
  · rw [← state_mapM fs hruns s, joinAll, schedule_map, List.mapM_map]
    rfl

end Job

/-! ## Refusals -/

section refuses

variable {σ : Type} {fs : FileSystem (StateM σ)} {locked : Path → Bool} (hfs : fs.Refuses locked)
include hfs

/-- Steps go well or fail whatever the state. -/
theorem Step.result_runAll (steps : List Step) (s s' : σ) : (runAll fs steps s).1 = (runAll fs steps s').1 := by
  have hrefusal : refusalOf (runAll fs steps s).1 = refusalOf (runAll fs steps s').1 := by
    rw [refusalOf_runAll hfs, refusalOf_runAll hfs]
  cases h : (runAll fs steps s').1 with
  | error e => exact refusalOf_eq_some_iff.mp (hrefusal.trans (refusalOf_eq_some_iff.mpr h))
  | ok u =>
    obtain ⟨u', hu⟩ := refusalOf_eq_none_iff.mp (hrefusal.trans (refusalOf_eq_none_iff.mpr ⟨u, h⟩))
    exact hu

end refuses

/-! ## Reports in time -/

theorem inTime_perm (reports : List (Nat × Log)) : (inTime reports).Perm (reports.flatMap (·.2)) :=
  (List.mergeSort_perm reports _).flatMap_right _

theorem inTime_at_once {reports : List (Nat × Log)} (h : ∀ r ∈ reports, r.1 = 0) :
    inTime reports = reports.flatMap (·.2) := by
  rw [inTime, List.mergeSort_of_pairwise]
  refine List.pairwise_of_forall_mem_list fun a ha b hb => ?_
  simp [h a ha, h b hb]

/-! ## Tasks -/

/-- The call carries out steps and gives outputs unless one of them fails. -/
def Job.Writes {m : Type → Type} [Monad m] (fs : FileSystem m) (call : Job m Answer)
    (work : List Step × List ModeOutput) : Prop :=
  Runs fs ((·.mapError .write) <$> call.run) work.1 work.2

section writes

variable {σ : Type} {fs : FileSystem (StateM σ)} {call : Job (StateM σ) Answer} {work : List Step × List ModeOutput}
  (h : call.Writes fs work)
include h

theorem Job.Writes.state (s : σ) : (call.run s).2 = (runAll fs work.1 s).2 :=
  congrArg Prod.snd (congrFun h s)

theorem Job.Writes.result {locked : Path → Bool} (hfs : fs.Refuses locked) (s s' : σ) :
    (call.run s).1 = (call.run s').1 := by
  have hanswer : ∀ t, (call.run t).1.mapError BuildError.write = (runAll fs work.1 t).1.map fun _ => work.2 :=
    fun t => congrArg Prod.fst (congrFun h t)
  have hequal : (call.run s).1.mapError BuildError.write = (call.run s').1.mapError BuildError.write := by
    rw [hanswer, hanswer, result_runAll hfs]
  cases ho : (call.run s).1 <;> cases ho' : (call.run s').1 <;> rw [ho, ho'] at hequal <;> cases hequal <;> rfl

end writes

namespace Task

/-- The task carries out steps and gives bundles unless one of them fails. -/
inductive Does {m : Type → Type} [Monad m] (fs : FileSystem m) : Task m → List Step × List Bundle → Prop
  | absent (reports : List (Nat × Log)) (e : BuildError) (bundles : List Bundle) :
    Does fs ⟨reports, [], .error e⟩ ([.absent e], bundles)
  | writes (reports : List (Nat × Log)) (bundles : List ModeOutput → List Bundle) {calls : List (Job m Answer)}
    {works : List (List Step × List ModeOutput)} (h : List.Forall₂ (Job.Writes fs) calls works) :
    Does fs ⟨reports, calls, .ok bundles⟩ (works.flatMap (·.1), bundles (works.flatMap (·.2)))

/-! ### One after the other -/

section lawful

variable {m : Type → Type} [Monad m] [LawfulMonad m] {fs : FileSystem m}

theorem Does.runs {t : Task m} {work : List Step × List Bundle} (h : t.Does fs work) :
    Runs fs (t.outcome <$> t.calls.mapM (·.run)) work.1 work.2 := by
  cases h with
  | absent reports e bundles =>
    have hruns := runs_absent fs e bundles
    simpa [outcome, Except.bind] using hruns
  | @writes reports bundles calls works h =>
    have hruns := runs_map fs (fun outputs => bundles outputs.flatten) (runs_forall₂ fs h)
    rw [Job.mapM_map_result, ← comp_map, ← comp_map, ← List.flatMap_def] at hruns
    refine Eq.trans ?_ hruns
    congr 1
    funext answers
    simp only [outcome, Function.comp_apply, collect_map_mapError]
    rfl

def outcomes (tasks : List (Task m)) (answers : List Answer) : List (Except BuildError (List Bundle)) :=
  List.zipWith outcome tasks (Job.regroup (tasks.map (·.calls)) answers)

theorem runs_calls {tasks : List (Task m)} {works : List (List Step × List Bundle)}
    (h : List.Forall₂ (Does fs) tasks works) :
    Runs fs ((fun answers => collect (outcomes tasks answers)) <$> (tasks.flatMap (·.calls)).mapM (·.run))
      (works.flatMap (·.1)) (works.map (·.2)) := by
  have hgroups : outcomes tasks <$> (tasks.flatMap (·.calls)).mapM (·.run) =
      tasks.mapM fun t => t.outcome <$> t.calls.mapM (·.run) := by
    have hregroup := Job.regroup_mapM (fun j : Job m Answer => j.run) (tasks.map (·.calls))
    rw [List.mapM_map, ← List.flatMap_def] at hregroup
    rw [← zipWith_mapM]
    exact (comp_map _ _ _).trans (congrArg _ hregroup)
  have hruns := runs_forall₂ fs (h.imp fun t work => Does.runs)
  rw [← hgroups, ← comp_map] at hruns
  exact hruns

structure AtOnce (t : Task m) : Prop where
  reports : ∀ r ∈ t.reports, r.1 = 0
  calls : ∀ call ∈ t.calls, call.wait = 0

/-- Tasks that take no time carry out their steps one after the other and report in their order. -/
theorem joinAll_at_once {tasks : List (Task m)} {works : List (List Step × List Bundle)}
    (h : List.Forall₂ (Does fs) tasks works) (htimes : ∀ t ∈ tasks, t.AtOnce) :
    joinAll tasks = (fun o => { result := o.map fun _ => works.flatMap (·.2)
                                log := (tasks.flatMap (·.reports)).flatMap (·.2) }) <$>
      runAll fs (works.flatMap (·.1)) := by
  have hcalls : ∀ call ∈ tasks.flatMap (·.calls), call.wait = 0 := by
    intro call hcall
    obtain ⟨t, ht, hin⟩ := List.mem_flatMap.mp hcall
    exact (htimes t ht).calls call hin
  have hreports : ∀ r ∈ tasks.flatMap (·.reports), r.1 = 0 := by
    intro r hr
    obtain ⟨t, ht, hin⟩ := List.mem_flatMap.mp hr
    exact (htimes t ht).reports r hin
  let report : Except BuildError (List (List Bundle)) → m (Report (List Bundle)) := fun bundles =>
    pure { result := bundles.map List.flatten, log := (tasks.flatMap (·.reports)).flatMap (·.2) }
  rw [joinAll, Job.joinAll_eq_mapM hcalls, inTime_at_once hreports, map_eq_pure_bind]
  refine (bind_of_runs fs (runs_calls h) report).trans (bind_congr fun o => ?_)
  cases o with
  | error e => rfl
  | ok u => rw [List.flatMap_def]; rfl

end lawful

/-! ### Joined -/

section joined

variable {σ : Type} {fs : FileSystem (StateM σ)} {tasks : List (Task (StateM σ))}
  {works : List (List Step × List Bundle)} (h : List.Forall₂ (Does fs) tasks works)
include h

/-- The calls of tasks carry out all steps but those that write nothing. -/
theorem exists_calls_write : ∃ calls absents, List.Forall₂ (Job.Writes fs) (tasks.flatMap (·.calls)) calls ∧
    (∀ step ∈ absents, ∃ e, step = .absent e) ∧
      (calls.flatMap (·.1) ++ absents).Perm (works.flatMap (·.1)) := by
  induction h with
  | nil => exact ⟨[], [], .nil, by simp, .refl _⟩
  | cons hdoes _ ih =>
    obtain ⟨calls, absents, hcalls, habsents, hperm⟩ := ih
    cases hdoes with
    | absent reports e bundles =>
      refine ⟨calls, .absent e :: absents, hcalls, List.forall_mem_cons.mpr ⟨⟨e, rfl⟩, habsents⟩, ?_⟩
      exact List.perm_middle.trans (hperm.cons _)
    | @writes reports bundles own ownWorks hown =>
      refine ⟨ownWorks ++ calls, absents, List.rel_append hown hcalls, habsents, ?_⟩
      rw [List.flatMap_append, List.append_assoc]
      exact hperm.append_left _

/-- Joined tasks give what they give one after the other, and carry out their steps in some order. -/
theorem joinAll_reordered {locked : Path → Bool} (hfs : fs.Refuses locked) (s : σ) :
    (joinAll tasks s).1.result = (runAll fs (works.flatMap (·.1)) s).1.map (fun _ => works.flatMap (·.2)) ∧
      ∃ order, order.Perm (works.flatMap (·.1)) ∧ (joinAll tasks s).2 = (runAll fs order s).2 := by
  obtain ⟨callWorks, absents, hcalls, habsents, hperm⟩ := exists_calls_write h
  let calls := (tasks.flatMap (·.calls)).zip callWorks
  have hlength := hcalls.length_eq
  have hjobs : calls.map Prod.fst = tasks.flatMap (·.calls) := List.map_fst_zip (Nat.le_of_eq hlength)
  have hworks : calls.map Prod.snd = callWorks := List.map_snd_zip (Nat.le_of_eq hlength.symm)
  have hwrites : ∀ p ∈ calls, p.1.Writes fs p.2 := fun p hp => List.forall₂_iff_zip.mp hcalls |>.2 hp
  have hanswers : (Job.joinAll (tasks.flatMap (·.calls)) s).1 =
      ((tasks.flatMap (·.calls)).mapM (fun call => call.run) s).1 := by
    have hsteady : ∀ p ∈ calls, ∀ s', (p.1.run s').1 = (p.1.run s).1 := fun p hp s' => (hwrites p hp).result hfs s' s
    rw [← hjobs, List.mapM_map]
    exact (Job.joinAll_results hsteady s).trans (Job.mapM_results hsteady s).symm
  obtain ⟨order, horder, hstate⟩ := Job.joinAll_state fs (fun p hp => (hwrites p hp).state) s
  constructor
  · have hcollected : collect (outcomes tasks ((tasks.flatMap (·.calls)).mapM (fun call => call.run) s).1) =
        (runAll fs (works.flatMap (·.1)) s).1.map fun _ => works.map (·.2) :=
      congrArg Prod.fst (congrFun (runs_calls h) s)
    show (collect (outcomes tasks (Job.joinAll (tasks.flatMap (·.calls)) s).1)).map List.flatten = _
    rw [hanswers, hcollected]
    cases (runAll fs (works.flatMap (·.1)) s).1 <;> rfl
  · have hsteps : calls.flatMap (fun p => p.2.1) = callWorks.flatMap (·.1) := by rw [← hworks, List.flatMap_map]
    refine ⟨order ++ absents, ((hsteps ▸ horder).append_right absents).trans hperm, ?_⟩
    rw [state_runAll_append, state_runAll_absent fs habsents, ← hstate, hjobs]
    rfl

end joined

end Task

end LazyBundle
