import LazyBundle.Component.Encoding
import LazyBundle.EntryModule
import LazyBundle.Literal

/-!
# Bundles

A bundle is an entry module that has been written, once for each style mode. Its
runtime data tell the loader which files hold which components: the id of the
only file when that is for the default mode, else an id for each mode.
-/

namespace LazyBundle

structure ModeOutput where
  modeName : String
  bundleId : String
  fileName : String
deriving DecidableEq, Repr, Inhabited

structure Bundle where
  entryKey : String
  modeNames : List String
  components : List Component
  outputs : List ModeOutput
deriving DecidableEq, Repr, Inhabited

inductive BundleIds
  | single (id : String)
  /-- Every mode once, in the order of its first output. -/
  | perMode (ids : List (String × String))
deriving DecidableEq, Repr

namespace BundleIds

/-- The id of the last output with a mode counts. -/
def collect (outputs : List ModeOutput) : List (String × String) :=
  outputs.foldl (fun ids o => Json.Reader.insertKey o.modeName o.bundleId ids) []

/-- There are none without an output. -/
def ofOutputs? (defaultMode : String) (outputs : List ModeOutput) : Option BundleIds :=
  match outputs with
  | [] => none
  | [only] =>
    if only.modeName = defaultMode then some (.single only.bundleId)
    else some (.perMode (collect [only]))
  | outputs => some (.perMode (collect outputs))

def encode : BundleIds → Json
  | single id => .string id
  | perMode ids => .object (ids.map fun e => (e.1, .string e.2))

def readId? : String × Json → Option (String × String)
  | (mode, .string id) => some (mode, id)
  | _ => none

def decode? : Json → Option BundleIds
  | .string id => some (.single id)
  | .object entries => (entries.mapM readId?).map .perMode
  | _ => none

def byMode (defaultMode : String) : BundleIds → List (String × String)
  | single id => [(defaultMode, id)]
  | perMode ids => ids

end BundleIds

namespace Bundle

structure RuntimeData where
  ids : BundleIds
  components : List Json

/-- The entry key of a bundle without outputs is the error. -/
def runtimeData (defaultMode : String) (b : Bundle) : Except String RuntimeData :=
  match BundleIds.ofOutputs? defaultMode b.outputs with
  | none => .error b.entryKey
  | some ids => .ok ⟨ids, b.components.map fun c => c.encode true true⟩

def RuntimeData.encode (d : RuntimeData) : Json :=
  .list [d.ids.encode, .list d.components]

def encodeAll (defaultMode : String) : List Bundle → Except String (List Json)
  | [] => .ok []
  | b :: bs => do
    let d ← b.runtimeData defaultMode
    let ds ← encodeAll defaultMode bs
    pure (d.encode :: ds)

def lazyData (threshold : Nat) (defaultMode : String) (bundles : List Bundle) :
    Except String String :=
  (encodeAll defaultMode bundles).map fun data => Literal.render threshold (.list data)

end Bundle

end LazyBundle
