import LazyBundle.Artifact
import LazyBundle.EntryModule
import LazyBundle.FileReader
import LazyBundle.Path.Reader

/-!
# Manifests

A manifest lists the artifacts of a build and its entry modules. The code of an
artifact stands in the manifest or in a file next to it, never in both and never
in neither. The first artifact at fault decides the error.
-/

namespace LazyBundle

open Json (Reader)

structure Manifest where
  artifacts : List Artifact
  entryModules : List EntryModule
deriving DecidableEq, Repr

namespace Manifest

structure Listing where
  fileName : String
  code : Option String := none
  codeFile : Option Path := none
  entryKey : Option String := none
  isComponent : Bool := false
  isAppCore : Bool := false
deriving DecidableEq, Repr

structure Contents where
  artifacts : List Listing
  entryModules : List EntryModule := []
deriving DecidableEq, Repr

def Listing.shape : Reader.Shape Listing where
  name := "RawArtifact"
  closed := true
  fields := [
    .of "fileName" true Reader.text fun v a => { a with fileName := v },
    .of "code" false (Reader.optional Reader.text) fun v a => { a with code := v },
    .of "codeFile" false (Reader.optional Path.ofDoc) fun v a => { a with codeFile := v },
    .of "entryKey" false (Reader.optional Reader.text) fun v a => { a with entryKey := v },
    .of "isComponent" false Reader.bool fun v a => { a with isComponent := v },
    .of "isAppCore" false Reader.bool fun v a => { a with isAppCore := v }]
  start := { fileName := "" }

def Contents.shape : Reader.Shape Contents where
  name := "RawManifest"
  closed := true
  fields := [
    .of "artifacts" true (Reader.list (Reader.record Listing.shape))
      fun v c => { c with artifacts := v },
    .of "entryModules" false (Reader.list EntryModule.reader)
      fun v c => { c with entryModules := v }]
  start := { artifacts := [] }

def Contents.reader : Reader Contents :=
  Reader.record Contents.shape

inductive Error
  | malformed (cause : Json.ReadError)
  | twoSources (fileName : String)
  | noSource (fileName : String)
  | unreadableCode (fileName : String) (cause : IoError)
deriving DecidableEq, Repr

def Error.message : Error → String
  | malformed cause => cause.message
  | twoSources fileName => "artifact " ++ fileName ++ " has both code and codeFile"
  | noSource fileName => "artifact " ++ fileName ++ " has neither code nor codeFile"
  | unreadableCode fileName cause =>
    "Failed to read code of " ++ fileName ++ ": " ++ cause.message

inductive LoadError
  | unreadable (path : Path) (cause : IoError)
  | invalid (path : Path) (cause : Error)
deriving DecidableEq, Repr

def LoadError.message : LoadError → String
  | unreadable path cause => "Failed to read manifest " ++ path.text ++ ": " ++ cause.message
  | invalid path cause => "Invalid manifest " ++ path.text ++ ": " ++ cause.message

section

variable {m : Type → Type} [Monad m]

def Listing.code? (files : FileReader m) (base : Path) (l : Listing) :
    m (Except Error String) :=
  match l.code, l.codeFile with
  | some code, none => pure (.ok code)
  | none, some file => do
    let content ← files.readText (base.join file.text)
    pure (content.mapError (.unreadableCode l.fileName))
  | some _, some _ => pure (.error (.twoSources l.fileName))
  | none, none => pure (.error (.noSource l.fileName))

def Listing.toArtifact (l : Listing) (code : String) : Artifact :=
  ⟨l.fileName, code, l.entryKey, .ofFlags l.isComponent l.isAppCore⟩

def resolve (files : FileReader m) (base : Path) : List Listing → m (Except Error (List Artifact))
  | [] => pure (.ok [])
  | l :: ls => do
    match ← l.code? files base with
    | .error e => pure (.error e)
    | .ok code =>
      let rest ← resolve files base ls
      pure (rest.map (l.toArtifact code :: ·))

/-- Reads a manifest; code files are looked up from the directory `base`. -/
def parse (files : FileReader m) (content : String) (base : Path) : m (Except Error Manifest) :=
  match Reader.ofText Contents.reader content with
  | .error e => pure (.error (.malformed e))
  | .ok contents => do
    let artifacts ← resolve files base contents.artifacts
    pure (artifacts.map fun artifacts => ⟨artifacts, contents.entryModules⟩)

def load (files : FileReader m) (path : Path) : m (Except LoadError Manifest) := do
  match ← files.readText path with
  | .error e => pure (.error (.unreadable path e))
  | .ok content =>
    let manifest ← parse files content (path.parent?.getD ⟨"."⟩)
    pure (manifest.mapError (.invalid path))

end

end Manifest

end LazyBundle
