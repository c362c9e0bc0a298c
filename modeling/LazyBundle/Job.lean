/-!
# Jobs

A job waits a number of turns and then runs. Joined jobs run turn by turn, in
the order of the list within a turn; their results are in the order of the list,
whatever the order in which they have run.
-/

namespace LazyBundle

structure Job (m : Type → Type) (α : Type) where
  wait : Nat
  run : m α

namespace Job

variable {m : Type → Type} [Monad m] {α β γ : Type}

def map (f : α → β) (j : Job m α) : Job m β :=
  ⟨j.wait, f <$> j.run⟩

def after (turns : Nat) (j : Job m α) : Job m α :=
  ⟨turns + j.wait, j.run⟩

/-- The jobs with their places, in the order in which they run. -/
def schedule (jobs : List (Job m α)) : List (Job m α × Nat) :=
  jobs.zipIdx.mergeSort fun a b => a.1.wait ≤ b.1.wait

def joinAll (jobs : List (Job m α)) : m (List α) := do
  let results ← (schedule jobs).mapM fun j => (fun a => (a, j.2)) <$> j.1.run
  pure ((results.mergeSort fun a b => a.2 ≤ b.2).map (·.1))

def regroup : List (List γ) → List α → List (List α)
  | [], _ => []
  | g :: gs, as => as.take g.length :: regroup gs (as.drop g.length)

def joinGroups (groups : List (List (Job m α))) (singles : List (Job m β)) :
    m (List (List α) × List β) := do
  let results ← joinAll (groups.flatten.map (map Sum.inl) ++ singles.map (map Sum.inr))
  pure (regroup groups (results.filterMap Sum.getLeft?), results.filterMap Sum.getRight?)

end Job

end LazyBundle
