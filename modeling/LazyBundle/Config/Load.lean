import LazyBundle.Config.Layer
import LazyBundle.FileReader

/-!
# Loading the configuration

The layers of a build, from below: the defaults, the settings of the user, an
explicit settings file or else the one of the project, and the environment. An
explicit file has to exist; the other two may be missing.
-/

namespace LazyBundle.Config

inductive LoadError
  | unreadable (path : Path) (cause : IoError)
  | malformed (path : Path) (cause : Toml.ReadError)
  | environment (cause : Layer.EnvironmentError)
  | invalid (cause : Invalid)
deriving DecidableEq, Repr

def LoadError.message : LoadError → String
  | unreadable path cause => "Failed to read config file " ++ path.text ++ ": " ++ cause.message
  | malformed path cause => "Invalid config file " ++ path.text ++ ": " ++ cause.message
  | environment cause => cause.message
  | invalid cause => cause.message

def projectFile : String := "lazypack.toml"

variable {m : Type → Type} [Monad m]

def layerOfFile (files : FileReader m) (path : Path) : m (Except LoadError Layer) := do
  match ← files.readText path with
  | .error e => pure (.error (.unreadable path e))
  | .ok content => pure ((Layer.ofToml content).mapError (.malformed path))

/-- The layer of a file that may be missing. -/
def layerIfPresent (files : FileReader m) (path : Path) : m (Except LoadError Layer) := do
  if ← files.isFile path then layerOfFile files path else pure (.ok {})

/-- Puts the layers over the defaults, the first one lowest. -/
def overlay (layers : List Layer) : Config :=
  layers.foldl (fun c l => l.applyTo c) {}

def load (files : FileReader m) (env : Layer.Environment) (user explicit : Option Path)
    (projectDir : Path) : m (Except LoadError Config) := ExceptT.run do
  let userLayer ← match user with
    | some path => ExceptT.mk (layerIfPresent files path)
    | none => pure {}
  let fileLayer ← match explicit with
    | some path => ExceptT.mk (layerOfFile files path)
    | none => ExceptT.mk (layerIfPresent files (projectDir.join projectFile))
  let envLayer ← ExceptT.mk (pure ((Layer.ofEnvironment env).mapError LoadError.environment))
  let config := overlay [userLayer, fileLayer, envLayer]
  match config.validate with
  | .error e => throw (.invalid e)
  | .ok () => pure config

def variableNames : List String := [
  "HOME", "XDG_CONFIG_HOME", "LAZYPACK_DESTINATIONS", "LAZYPACK_SOURCE_TARGET",
  "LAZYPACK_MINIFY_JS", "LAZYPACK_HASH_FILE_NAMES", "LAZYPACK_HASHED_FILE_NAME_LENGTH",
  "LAZYPACK_BUNDLE_SUFFIX", "LAZYPACK_DEFAULT_STYLE_MODE",
  "LAZYPACK_REQUIRE_LAZY_DATA_PLACEHOLDER"]

/-- The settings file of the user: in the configuration directory, which has to be absolute, or
else below the home directory. -/
def userFile (env : Layer.Environment) : Option Path :=
  let base := match env "XDG_CONFIG_HOME" with
    | some dir => if (Path.mk dir).isAbsolute then some (Path.mk dir) else none
    | none => none
  let dir := match base with
    | some dir => some dir
    | none => ((env "HOME").filter (· ≠ "")).map fun home => (Path.mk home).join ".config"
  dir.map fun dir => (dir.join "lazypack").join projectFile

end LazyBundle.Config
