import LazyBundle.Build.Basic

/-!
# Sessions

A session holds what builds work on and the log to which they add. Builds in one
session find the files and the log as the last one has left them.
-/

namespace LazyBundle

structure Session (σ : Type) where
  state : σ
  log : Log := []

/-- What a build reports goes behind what is already in the log. -/
def Build.generateIn {σ : Type} (b : Build (StateM σ)) (modules : List EntryModule) (artifacts : List Artifact) :
    StateM (Session σ) (Except BuildError (List Bundle)) := fun session =>
  let run := b.generate modules artifacts session.state
  (run.1.result, ⟨run.2, session.log ++ run.1.log⟩)

end LazyBundle
