import LazyBundle.Build.Journal
import LazyBundle.Proofs.Script
import LazyBundle.Store

/-!
# What steps leave behind

A file system that refuses some paths still carries out all steps, and their
outcome is the first failure among them (`refusalOf_runAll`). A recorded file
system has every write of the steps in its journal, in order (`calls_runAll`). A
store holds at every path the content of the last step that is granted and
writes there (`read?_runAll`).
-/

namespace LazyBundle

/-! ## Refusals -/

/-- The file system refuses the locked paths and no others. -/
def FileSystem.Refuses {σ : Type} (fs : FileSystem (StateM σ)) (locked : Path → Bool) : Prop :=
  ∀ p content s, (fs.write p content s).1 = if locked p then .error (.refused p) else .ok ()

theorem Store.fileSystem_refuses (locked : Path → Bool) : (Store.fileSystem locked).Refuses locked := by
  intro p content s
  cases h : locked p <;> simp [Store.fileSystem, h]

/-- Every path holds what was last written there, unless it is locked. -/
structure FileSystem.Keeps {σ : Type} (fs : FileSystem (StateM σ)) (locked : Path → Bool)
    (read : σ → Path → Option String) : Prop where
  refuses : fs.Refuses locked
  read_write : ∀ p content s q, read (fs.write p content s).2 q =
    if ¬ locked p ∧ p.Same q then some content else read s q

theorem Store.fileSystem_keeps (locked : Path → Bool) : (Store.fileSystem locked).Keeps locked Store.read? where
  refuses := Store.fileSystem_refuses locked
  read_write p content s q := by
    by_cases hp : locked p
    · simp [Store.fileSystem, hp]
    · simp [Store.fileSystem, hp, Store.read?_write]

theorem FileSystem.Keeps.recorded {σ : Type} {fs : FileSystem (StateM σ)} {locked : Path → Bool}
    {read : σ → Path → Option String} (h : fs.Keeps locked read) :
    fs.recorded.Keeps locked fun j => read j.state where
  refuses p content j := h.refuses p content j.state
  read_write p content j q := h.read_write p content j.state q

theorem FileSystem.Refuses.recorded {σ : Type} {fs : FileSystem (StateM σ)} {locked : Path → Bool}
    (h : fs.Refuses locked) : fs.recorded.Refuses locked :=
  fun p content j => h p content j.state

namespace Step

def failure? (locked : Path → Bool) : Step → Option BuildError
  | .absent e => some e
  | .write p _ => if locked p then some (.write (.refused p)) else none

def granted (locked : Path → Bool) (step : Step) : Bool :=
  (failure? locked step).isNone

section failures

variable {σ : Type} {fs : FileSystem (StateM σ)} {locked : Path → Bool} (hfs : fs.Refuses locked)
include hfs

theorem refusalOf_run (step : Step) (s : σ) : refusalOf (run fs step s).1 = failure? locked step := by
  cases step with
  | absent e => rfl
  | write p content =>
    show refusalOf ((fs.write p content s).1.mapError BuildError.write) = _
    rw [hfs p content s]
    cases h : locked p <;> simp [Except.mapError, refusalOf, failure?, h]

/-- The outcome of steps is the first failure among them. -/
theorem refusalOf_runAll (steps : List Step) (s : σ) :
    refusalOf (runAll fs steps s).1 = (steps.filterMap (failure? locked)).head? := by
  induction steps generalizing s with
  | nil => rfl
  | cons step steps ih =>
    rw [runAll_cons, refusalOf_bind, refusalOf_run hfs, ih, List.filterMap_cons]
    cases failure? locked step <;> rfl

end failures

theorem granted_of_ok {σ : Type} {fs : FileSystem (StateM σ)} {locked : Path → Bool} (hfs : fs.Refuses locked)
    {steps : List Step} {s : σ} (h : (runAll fs steps s).1 = .ok ()) : ∀ step ∈ steps, granted locked step := by
  have hn : (steps.filterMap (failure? locked)).head? = none := by
    rw [← refusalOf_runAll hfs steps s, h]
    rfl
  intro step hs
  rw [granted, Option.isNone_iff_eq_none]
  exact List.filterMap_eq_nil_iff.mp (List.head?_eq_none_iff.mp hn) step hs

/-! ## In a journal -/

def call? : Step → Option Call
  | .absent _ => none
  | .write p content => some (.file p content)

theorem calls_copies (destinations : List Path) (code fileName : String) :
    (copies destinations code fileName).filterMap call? = destinations.map fun d => .file (d.join fileName) code := by
  rw [copies, List.filterMap_map, ← List.filterMap_eq_map]
  rfl

theorem attempts_run {σ : Type} (fs : FileSystem (StateM σ)) (step : Step) (j : Journal σ) :
    ∃ ks, (run fs.recorded step j).2.attempts = j.attempts ++ ks ∧ ks.map (·.call) = (call? step).toList ∧
      ((run fs.recorded step j).1 = .ok () → ∀ t ∈ ks, t.refusal = none) := by
  cases step with
  | absent e => exact ⟨[], (List.append_nil _).symm, rfl, by simp⟩
  | write p content =>
    refine ⟨[⟨.file p content, refusalOf (fs.write p content j.state).1⟩], rfl, rfl, fun h t ht => ?_⟩
    obtain rfl := List.mem_singleton.mp ht
    have h' : ((fs.write p content j.state).1).mapError BuildError.write = .ok () := h
    cases ho : (fs.write p content j.state).1 with
    | error e => rw [ho] at h'; cases h'
    | ok u => rfl

/-- Every write of the steps is attempted, and none is refused when the steps go well. -/
theorem attempts_runAll {σ : Type} (fs : FileSystem (StateM σ)) (steps : List Step) (j : Journal σ) :
    ∃ ks, (runAll fs.recorded steps j).2.attempts = j.attempts ++ ks ∧
      ks.map (·.call) = steps.filterMap call? ∧
      ((runAll fs.recorded steps j).1 = .ok () → ∀ t ∈ ks, t.refusal = none) := by
  induction steps generalizing j with
  | nil => exact ⟨[], (List.append_nil _).symm, rfl, by simp⟩
  | cons step steps ih =>
    obtain ⟨ks, h1, h2, h3⟩ := attempts_run fs step j
    obtain ⟨ks', h1', h2', h3'⟩ := ih (run fs.recorded step j).2
    refine ⟨ks ++ ks', ?_, ?_, fun h => ?_⟩
    · rw [runAll_cons, h1', h1, List.append_assoc]
    · rw [List.map_append, h2, h2']
      cases hc : call? step <;> simp [hc]
    · -- when all go well, so do the first and the others
      obtain ⟨j', hr, hrs⟩ := runAll_cons_ok fs.recorded (Prod.ext h rfl)
      rw [hr] at h3 h3'
      rw [hrs] at h3'
      exact List.forall_mem_append.mpr ⟨h3 rfl, h3' rfl⟩

theorem calls_runAll {σ : Type} (fs : FileSystem (StateM σ)) (steps : List Step) (j : Journal σ) :
    (runAll fs.recorded steps j).2.calls = j.calls ++ steps.filterMap call? := by
  obtain ⟨ks, h1, h2, -⟩ := attempts_runAll fs steps j
  rw [Journal.calls, h1, List.map_append, h2, Journal.calls]

theorem state_runAll {σ : Type} (fs : FileSystem (StateM σ)) (steps : List Step) (j : Journal σ) :
    (runAll fs.recorded steps j).2.state = (runAll fs steps j.state).2 := by
  induction steps generalizing j with
  | nil => rfl
  | cons step steps ih =>
    have hstep : (run fs.recorded step j).2.state = (run fs step j.state).2 := by cases step <;> rfl
    rw [runAll_cons, runAll_cons, ih, hstep]

theorem attempts_of_runs {σ α : Type} {fs : FileSystem (StateM σ)}
    {x : StateM (Journal σ) (Except BuildError α)} {steps : List Step} {value : α}
    (h : Runs fs.recorded x steps value) (j : Journal σ) :
    ∃ ks, (x j).2.attempts = j.attempts ++ ks ∧ ks.map (·.call) = steps.filterMap call? ∧
      (∀ a, (x j).1 = .ok a → ∀ t ∈ ks, t.refusal = none) := by
  obtain ⟨ks, h1, h2, h3⟩ := attempts_runAll fs steps j
  rw [Runs] at h
  refine ⟨ks, by rw [h]; exact h1, h2, fun a ha => h3 ?_⟩
  rw [h, map_apply] at ha
  cases ho : (runAll fs.recorded steps j).1 with
  | error e => rw [ho] at ha; cases ha
  | ok u => rfl

end Step

def Build.fileCalls {m : Type → Type} (b : Build m) (code fileName : String) : List Call :=
  b.config.destinations.map fun d => .file (d.join fileName) code

def Build.coreCalls {m : Type → Type} (b : Build m) (cores : List Artifact) (codes : List String) : List Call :=
  (cores.zip codes).flatMap fun c => b.fileCalls (b.finish c.2).code c.1.fileName

theorem Build.calls_coreSteps {m : Type → Type} (b : Build m) (cores : List Artifact) (codes : List String) :
    (b.coreSteps cores codes).filterMap Step.call? = b.coreCalls cores codes := by
  rw [coreSteps, List.filterMap_flatMap]
  simp only [Step.calls_copies]
  rfl

/-! ## In a store -/

section findSome

variable {α β : Type} {f : α → Option β} {l : List α}

/-- Where all that can be found is the same, that is found. -/
theorem findSome?_eq_some_of_forall {a : α} {b : β} (ha : a ∈ l) (hf : f a = some b)
    (hall : ∀ a' ∈ l, ∀ b', f a' = some b' → b' = b) : l.findSome? f = some b := by
  cases h : l.findSome? f with
  | none => rw [List.findSome?_eq_none_iff.mp h a ha] at hf; cases hf
  | some b' =>
    obtain ⟨a', ha', hb'⟩ := List.exists_of_findSome?_eq_some h
    rw [hall a' ha' b' hb']

theorem findSome?_of_perm {l' : List α} (h : l.Perm l')
    (hall : ∀ a ∈ l, ∀ a' ∈ l, ∀ b b', f a = some b → f a' = some b' → b = b') : l.findSome? f = l'.findSome? f := by
  cases hl : l.findSome? f with
  | none =>
    have hnone := List.findSome?_eq_none_iff.mp hl
    exact (List.findSome?_eq_none_iff.mpr fun a ha => hnone a (h.mem_iff.mpr ha)).symm
  | some b =>
    obtain ⟨a, ha, hb⟩ := List.exists_of_findSome?_eq_some hl
    refine (findSome?_eq_some_of_forall (h.mem_iff.mp ha) hb fun a' ha' b' hb' => ?_).symm
    exact hall a' (h.mem_iff.mpr ha') a ha b' b hb' hb

end findSome

namespace Step

def content? (p : Path) : Step → Option String
  | .absent _ => none
  | .write q content => if q.Same p then some content else none

def lastContent? (p : Path) (steps : List Step) : Option String :=
  steps.reverse.findSome? (content? p)

theorem lastContent?_cons (p : Path) (step : Step) (steps : List Step) :
    lastContent? p (step :: steps) = (lastContent? p steps).or (content? p step) := by
  rw [lastContent?, List.reverse_cons, List.findSome?_append, List.findSome?_singleton]
  rfl

theorem lastContent?_append (p : Path) (a b : List Step) :
    lastContent? p (a ++ b) = (lastContent? p b).or (lastContent? p a) := by
  rw [lastContent?, List.reverse_append, List.findSome?_append]
  rfl

/-- Where all writes to a path put the same there, that is what it gets. -/
theorem lastContent?_eq_some {p q : Path} {content : String} {steps : List Step} (h : .write q content ∈ steps)
    (hq : q.Same p) (hall : ∀ q' content', .write q' content' ∈ steps → q'.Same p → content' = content) :
    lastContent? p steps = some content := by
  refine findSome?_eq_some_of_forall (List.mem_reverse.mpr h) (if_pos hq) fun step hs other hc => ?_
  cases step with
  | absent e => cases hc
  | write q' content' =>
    rw [content?, Option.ite_none_right_eq_some] at hc
    obtain ⟨hq', ⟨⟩⟩ := hc
    exact hall q' _ (List.mem_reverse.mp hs) hq'

theorem lastContent?_const (p : Path) (paths : List Path) (content : String) :
    lastContent? p (paths.map (.write · content)) =
      if paths.any (fun q => q.Same p) then some content else none := by
  induction paths with
  | nil => rfl
  | cons q paths ih =>
    rw [List.map_cons, lastContent?_cons, ih, content?, List.any_cons]
    by_cases hq : q.Same p <;> by_cases hp : paths.any (fun q => q.Same p) <;> simp [hq, hp]

/-- What is read at a path after a step. -/
theorem read_run {σ : Type} {fs : FileSystem (StateM σ)} {locked : Path → Bool} {read : σ → Path → Option String}
    (hfs : fs.Keeps locked read) (step : Step) (s : σ) (p : Path) :
    read (run fs step s).2 p = (if granted locked step then content? p step else none).or (read s p) := by
  cases step with
  | absent e => rfl
  | write q content =>
    show read (fs.write q content s).2 p = _
    rw [hfs.read_write]
    by_cases hq : locked q
    · simp [granted, failure?, hq]
    · by_cases hp : q.Same p <;> simp [granted, failure?, hq, content?, hp]

/-- The last write to a path that is granted decides what is read there. -/
theorem read_runAll {σ : Type} {fs : FileSystem (StateM σ)} {locked : Path → Bool} {read : σ → Path → Option String}
    (hfs : fs.Keeps locked read) (steps : List Step) (s : σ) (p : Path) :
    read (runAll fs steps s).2 p = (lastContent? p (steps.filter (granted locked))).or (read s p) := by
  induction steps generalizing s with
  | nil => rfl
  | cons step steps ih =>
    rw [runAll_cons, ih, read_run hfs, ← Option.or_assoc]
    congr 1
    by_cases h : granted locked step
    · rw [List.filter_cons_of_pos h, lastContent?_cons, if_pos h]
    · rw [List.filter_cons_of_neg h, if_neg h, Option.or_none]

theorem read?_runAll (locked : Path → Bool) (steps : List Step) (s : Store) (p : Path) :
    (runAll (Store.fileSystem locked) steps s).2.read? p =
      (lastContent? p (steps.filter (granted locked))).or (s.read? p) :=
  read_runAll (Store.fileSystem_keeps locked) steps s p

end Step

end LazyBundle
