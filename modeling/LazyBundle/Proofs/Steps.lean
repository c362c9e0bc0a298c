import LazyBundle.Build.Host
import LazyBundle.Proofs.Joining
import LazyBundle.Proofs.Outcomes

/-!
# Steps

A step writes one file, or stands for an entry without module, which writes
none. A list of steps is carried out to its end; what comes of it is the first
failure in it. An action that writes files runs as a list of steps (`Runs`), and
such actions one after the other run as the lists one after the other
(`runs_mapM`).
-/

namespace LazyBundle

inductive Step
  /-- An entry that has no module. -/
  | absent (e : BuildError)
  | write (path : Path) (content : String)
deriving DecidableEq, Repr

namespace Step

variable {m : Type → Type} [Monad m] {α β ι : Type}

def run (files : FileSystem m) : Step → m (Except BuildError Unit)
  | .absent e => pure (.error e)
  | .write p content => (·.mapError .write) <$> files.write p content

/-- Carries out all steps; the first failure is the outcome. -/
def runAll (files : FileSystem m) (steps : List Step) : m (Except BuildError Unit) :=
  (fun outcomes => (collect outcomes).map fun _ => ()) <$> steps.mapM (run files)

/-- The action carries out the steps and gives the value unless one of them fails. -/
def Runs (files : FileSystem m) (x : m (Except BuildError α)) (steps : List Step) (value : α) : Prop :=
  x = (fun o => o.map fun _ => value) <$> runAll files steps

variable [LawfulMonad m] (files : FileSystem m)

theorem runs_nil (value : α) : Runs files (pure (.ok value)) [] value := by
  simp [Runs, runAll, Except.map]

theorem runs_map {x : m (Except BuildError α)} {steps : List Step} {value : α} (f : α → β)
    (h : Runs files x steps value) : Runs files ((·.map f) <$> x) steps (f value) := by
  rw [Runs, h, ← comp_map]
  congr 1
  funext o
  cases o <;> rfl

theorem runAll_append (a b : List Step) :
    runAll files (a ++ b) = (runAll files a) >>= fun x => (fun y => x.bind fun _ => y) <$> runAll files b := by
  simp only [runAll, List.mapM_append, map_eq_pure_bind, bind_assoc, pure_bind, collect_append]
  refine bind_congr fun as => bind_congr fun bs => ?_
  cases collect as with
  | error e => rfl
  | ok as => cases collect bs <;> rfl

theorem bind_of_runs {γ δ : Type} {x : m γ} {g : γ → Except BuildError α} {steps : List Step} {value : α}
    (h : Runs files (g <$> x) steps value) (k : Except BuildError α → m δ) :
    (x >>= fun c => k (g c)) = runAll files steps >>= fun o => k (o.map fun _ => value) := by
  have := congrArg (· >>= k) h
  simpa using this

/-- Carrying out lists of steps one after the other is carrying out all of them. -/
theorem runs_forall₂ {κ : Type} {x : ι → m (Except BuildError α)} {steps : κ → List Step} {value : κ → α}
    {l : List ι} {works : List κ}
    (h : List.Forall₂ (fun i work => Runs files (x i) (steps work) (value work)) l works) :
    Runs files (collect <$> l.mapM x) (works.flatMap steps) (works.map value) := by
  induction h with
  | nil => simpa using runs_nil files []
  | @cons i work l works hi _ hl =>
    rw [Runs] at hi
    rw [Runs, List.flatMap_cons, runAll_append, List.mapM_cons, hi]
    simp only [map_eq_pure_bind, bind_assoc, pure_bind, collect_cons]
    refine bind_congr fun o => ?_
    rw [bind_of_runs files hl fun c => pure ((o.map fun _ => value work).bind fun a => c.map (a :: ·))]
    refine bind_congr fun o' => ?_
    cases o <;> cases o' <;> rfl

theorem runs_mapM {x : ι → m (Except BuildError α)} {steps : ι → List Step} {value : ι → α} {l : List ι}
    (h : ∀ i ∈ l, Runs files (x i) (steps i) (value i)) :
    Runs files (collect <$> l.mapM x) (l.flatMap steps) (l.map value) :=
  runs_forall₂ files (List.forall₂_same.mpr h)

theorem runs_absent (e : BuildError) (value : α) : Runs files (pure (.error e)) [.absent e] value := by
  simp [Runs, runAll, run, Except.map]

def copies (destinations : List Path) (code fileName : String) : List Step :=
  destinations.map fun d => .write (d.join fileName) code

theorem runs_write (p : Path) (content : String) :
    Runs files ((·.mapError .write) <$> files.write p content) [.write p content] () := by
  simp only [Runs, runAll, List.mapM_cons, List.mapM_nil, run, map_eq_pure_bind, bind_assoc, pure_bind]
  refine bind_congr fun o => ?_
  cases o <;> rfl

theorem runs_writeAll (code fileName : String) (destinations : List Path) :
    Runs files ((·.mapError .write) <$> files.writeAll code fileName destinations)
      (copies destinations code fileName) () := by
  have h := runs_map files (fun _ => ()) (runs_mapM files (l := destinations)
    fun d _ => runs_write files (d.join fileName) code)
  rw [Job.mapM_map_result, ← List.map_eq_flatMap] at h
  simp only [FileSystem.writeAll, map_eq_pure_bind, bind_assoc, pure_bind, collect_map_mapError, mapError_map] at h ⊢
  exact h

/-! ## Steps on a state -/

section state

variable {σ : Type} (files : FileSystem (StateM σ))

theorem bind_apply {α β : Type} (x : StateM σ α) (k : α → StateM σ β) (s : σ) :
    (x >>= k) s = k (x s).1 (x s).2 := rfl

theorem map_apply {α β : Type} (f : α → β) (x : StateM σ α) (s : σ) :
    (f <$> x) s = (f (x s).1, (x s).2) := rfl

/-- Behind an outcome that is a failure nothing is done. -/
theorem run_bind_apply {ε α β : Type} {x : StateM σ (Except ε α)} {r : Except ε α} {s t : σ}
    {k : α → ExceptT ε (StateM σ) β} : x s = (r, t) →
    (ExceptT.mk x >>= k).run s = match r with
      | .error e => (.error e, t)
      | .ok a => (k a).run t := by
  intro h
  rw [ExceptT.run_bind, bind_apply, ExceptT.run_mk, h]
  cases r <;> rfl

theorem runAll_cons (step : Step) (steps : List Step) (s : σ) :
    runAll files (step :: steps) s =
      ((run files step s).1.bind fun _ => (runAll files steps (run files step s).2).1,
        (runAll files steps (run files step s).2).2) := by
  have h : runAll files [step] s = run files step s := by
    have hs : runAll files [step] s = ((collect [(run files step s).1]).map fun _ => (), (run files step s).2) :=
      rfl
    rw [hs]
    rcases run files step s with ⟨o, s'⟩
    cases o <;> rfl
  rw [← List.singleton_append, runAll_append, bind_apply, map_apply, h]

theorem runAll_cons_ok {step : Step} {steps : List Step} {s t : σ}
    (h : runAll files (step :: steps) s = (.ok (), t)) :
    ∃ s', run files step s = (.ok (), s') ∧ runAll files steps s' = (.ok (), t) := by
  rw [runAll_cons] at h
  obtain ⟨h1, h2⟩ := Prod.mk.inj h
  cases hr : (run files step s).1 with
  | error e => rw [hr] at h1; cases h1
  | ok u =>
    rw [hr] at h1
    exact ⟨(run files step s).2, Prod.ext hr rfl, Prod.ext h1 h2⟩

theorem absent_notMem {steps : List Step} {s t : σ} (h : runAll files steps s = (.ok (), t))
    (e : BuildError) : .absent e ∉ steps := by
  induction steps generalizing s with
  | nil => simp
  | cons step steps ih =>
    obtain ⟨s', h1, h2⟩ := runAll_cons_ok files h
    rw [List.mem_cons, not_or]
    refine ⟨?_, ih h2⟩
    rintro rfl
    cases (Prod.mk.inj h1).1

end state

end Step

end LazyBundle
