import LazyBundle.Config.Basic
import LazyBundle.Path.Reader
import LazyBundle.Text.Blank

/-!
# Layers of configuration

A layer sets some of the settings and leaves the others alone. It comes from a
settings file or from the environment. Layers are put one over the other, and
the last one that sets a setting decides it.
-/

namespace LazyBundle

structure Layer where
  destinations : Option (List Path) := none
  target : Option Target := none
  minify : Option Bool := none
  hashFileNames : Option Bool := none
  hashLength : Option Nat := none
  bundleSuffix : Option String := none
  defaultMode : Option String := none
  requirePlaceholder : Option Bool := none
  transpileCommand : Option (List String) := none
  minifyCommand : Option (List String) := none
deriving DecidableEq, Repr, Inhabited

namespace Layer

def applyTo (l : Layer) (c : Config) : Config where
  destinations := l.destinations.getD c.destinations
  target := l.target.getD c.target
  minify := l.minify.getD c.minify
  hashFileNames := l.hashFileNames.getD c.hashFileNames
  hashLength := l.hashLength.getD c.hashLength
  bundleSuffix := l.bundleSuffix.getD c.bundleSuffix
  defaultMode := l.defaultMode.getD c.defaultMode
  requirePlaceholder := l.requirePlaceholder.getD c.requirePlaceholder
  transpileCommand := l.transpileCommand.or c.transpileCommand
  minifyCommand := l.minifyCommand.or c.minifyCommand

/-! ## Settings files -/

open Toml (Reader)

def command : Reader (List String) :=
  Reader.list Reader.text

def settings : List (Reader.Setting Layer) := [
  .of "destinations" (Reader.list Path.ofSetting) fun v l => { l with destinations := some v },
  .of "source-target" (Reader.choice Target.names) fun v l => { l with target := some v },
  .of "minify-js" Reader.bool fun v l => { l with minify := some v },
  .of "hash-file-names" Reader.bool fun v l => { l with hashFileNames := some v },
  .of "hashed-file-name-length" Reader.word fun v l => { l with hashLength := some v },
  .of "bundle-suffix" Reader.text fun v l => { l with bundleSuffix := some v },
  .of "default-style-mode" Reader.text fun v l => { l with defaultMode := some v },
  .of "require-lazy-data-placeholder" Reader.bool
    fun v l => { l with requirePlaceholder := some v },
  .of "transpile-command" command fun v l => { l with transpileCommand := some v },
  .of "minify-command" command fun v l => { l with minifyCommand := some v }]

def ofToml (content : String) : Except Toml.ReadError Layer :=
  match Toml.parse? content with
  | none => .error .malformed
  | some table => Reader.settings settings {} table

/-! ## The environment -/

inductive NumberError
  | empty
  | invalidDigit
  | tooLarge
deriving DecidableEq, Repr

def NumberError.message : NumberError → String
  | empty => "cannot parse integer from empty string"
  | invalidDigit => "invalid digit found in string"
  | tooLarge => "number too large to fit in target type"

def readDigits (n : Nat) : List Char → Except NumberError Nat
  | [] => .ok n
  | c :: cs =>
    if !c.isDigit then .error .invalidDigit
    else
      let next := n * 10 + (c.toNat - 48)
      if Nat.pow 2 64 ≤ next then .error .tooLarge else readDigits next cs

/-- A number of 64 bits; a plus may stand in front of its digits. -/
def readNumber (s : String) : Except NumberError Nat :=
  match s.toList with
  | [] => .error .empty
  | ['+'] => .error .invalidDigit
  | '+' :: cs => readDigits 0 cs
  | cs => readDigits 0 cs

/-- Reads an answer of yes or no. The error is the answer as it was compared. -/
def readBool (s : String) : Except String Bool :=
  let answer := (Text.trim s).toLower
  if answer ∈ ["1", "true", "yes", "on"] then .ok true
  else if answer ∈ ["0", "false", "no", "off"] then .ok false
  else .error answer

inductive EnvironmentError
  | unknownTarget (name : String)
  | notBool (variableName answer : String)
  | notNumber (variableName : String) (cause : NumberError)
deriving DecidableEq, Repr

def EnvironmentError.message : EnvironmentError → String
  | unknownTarget name => "unknown source target '" ++ name ++ "'"
  | notBool variableName answer =>
    "Invalid value for " ++ variableName ++ ": expected a boolean, got '" ++ answer ++ "'"
  | notNumber variableName cause =>
    "Invalid value for " ++ variableName ++ ": " ++ cause.message

abbrev Environment := String → Option String

def readVariable {ε α : Type} (env : Environment) (name : String)
    (read : String → Except ε α) : Except ε (Option α) :=
  match env name with
  | none => .ok none
  | some value => (read value).map some

def boolVariable (env : Environment) (name : String) : Except EnvironmentError (Option Bool) :=
  readVariable env name fun value => (readBool value).mapError (.notBool name)

def splitPaths (s : String) : List Path :=
  (s.toList.splitOn ':').map fun piece => ⟨String.ofList piece⟩

/-- The environment never sets the commands. -/
def ofEnvironment (env : Environment) : Except EnvironmentError Layer := do
  let destinations := (env "LAZYPACK_DESTINATIONS").map splitPaths
  let target ← readVariable env "LAZYPACK_SOURCE_TARGET" fun value =>
    (Target.parse value).mapError .unknownTarget
  let minify ← boolVariable env "LAZYPACK_MINIFY_JS"
  let hashFileNames ← boolVariable env "LAZYPACK_HASH_FILE_NAMES"
  let hashLength ← readVariable env "LAZYPACK_HASHED_FILE_NAME_LENGTH" fun value =>
    (readNumber value).mapError (.notNumber "LAZYPACK_HASHED_FILE_NAME_LENGTH")
  let bundleSuffix := env "LAZYPACK_BUNDLE_SUFFIX"
  let defaultMode := env "LAZYPACK_DEFAULT_STYLE_MODE"
  let requirePlaceholder ← boolVariable env "LAZYPACK_REQUIRE_LAZY_DATA_PLACEHOLDER"
  pure {
    destinations := destinations
    target := target
    minify := minify
    hashFileNames := hashFileNames
    hashLength := hashLength
    bundleSuffix := bundleSuffix
    defaultMode := defaultMode
    requirePlaceholder := requirePlaceholder }

end Layer

end LazyBundle
