/-!
# Artifacts

The files that a bundler hands over: entries of components, chunks of shared
code and core bundles that start the loader. A build treats the three kinds one
after the other and keeps the order within each.
-/

namespace LazyBundle

inductive ArtifactKind
  | componentEntry
  | chunk
  | core
deriving DecidableEq, Repr, Inhabited

namespace ArtifactKind

/-- An entry of a component is never a core bundle. -/
def ofFlags (isComponent isAppCore : Bool) : ArtifactKind :=
  if isComponent then .componentEntry else if isAppCore then .core else .chunk

def name : ArtifactKind → String
  | componentEntry => "component-entry"
  | chunk => "chunk"
  | core => "core"

end ArtifactKind

structure Artifact where
  fileName : String
  code : String
  entryKey : Option String := none
  kind : ArtifactKind
deriving DecidableEq, Repr, Inhabited

structure Classes where
  entries : List Artifact
  chunks : List Artifact
  cores : List Artifact
deriving DecidableEq, Repr

def classify (artifacts : List Artifact) : Classes where
  entries := artifacts.filter (·.kind == .componentEntry)
  chunks := artifacts.filter (·.kind == .chunk)
  cores := artifacts.filter (·.kind == .core)

end LazyBundle
