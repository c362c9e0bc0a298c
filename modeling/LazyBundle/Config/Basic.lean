import LazyBundle.EntryModule
import LazyBundle.Path.Reader
import LazyBundle.Target

/-!
# Configuration

The settings of a build, with a default for each. A configuration is valid when
it has a destination, a default style mode and a length of hashed file names
between 4 and 64.
-/

namespace LazyBundle

structure Config where
  destinations : List Path := [⟨"dist"⟩]
  target : Target := .es2017
  minify : Bool := false
  hashFileNames : Bool := false
  hashLength : Nat := 8
  bundleSuffix : String := ""
  defaultMode : String := EntryModule.defaultMode
  requirePlaceholder : Bool := false
  transpileCommand : Option (List String) := none
  minifyCommand : Option (List String) := none
deriving DecidableEq, Repr, Inhabited

namespace Config

inductive Invalid
  | noDestination
  | emptyDefaultMode
  | hashLength (length : Nat)
deriving DecidableEq, Repr

def Invalid.message : Invalid → String
  | noDestination => "at least one output destination is required"
  | emptyDefaultMode => "default-style-mode must not be empty"
  | hashLength n => "hashed-file-name-length must be between 4 and 64, got " ++ toString n

def validate (c : Config) : Except Invalid Unit :=
  if c.destinations.isEmpty then .error .noDestination
  else if c.defaultMode.isEmpty then .error .emptyDefaultMode
  else if c.hashLength < 4 ∨ 64 < c.hashLength then .error (.hashLength c.hashLength)
  else .ok ()

end Config

def Target.names : List (String × Target) :=
  Target.all.map fun t => (t.name, t)

/-! ## Configurations as records -/

namespace Config

open Json (Reader)

def command : Reader (Option (List String)) :=
  Reader.optional (Reader.list Reader.text)

def shape : Reader.Shape Config where
  name := "Config"
  closed := false
  fields := [
    .of "destinations" false (Reader.list Path.ofDoc) fun v c => { c with destinations := v },
    .of "source-target" false (Reader.choice Target.names) fun v c => { c with target := v },
    .of "minify-js" false Reader.bool fun v c => { c with minify := v },
    .of "hash-file-names" false Reader.bool fun v c => { c with hashFileNames := v },
    .of "hashed-file-name-length" false Reader.word fun v c => { c with hashLength := v },
    .of "bundle-suffix" false Reader.text fun v c => { c with bundleSuffix := v },
    .of "default-style-mode" false Reader.text fun v c => { c with defaultMode := v },
    .of "require-lazy-data-placeholder" false Reader.bool
      fun v c => { c with requirePlaceholder := v },
    .of "transpile-command" false command fun v c => { c with transpileCommand := v },
    .of "minify-command" false command fun v c => { c with minifyCommand := v }]
  start := {}

def reader : Reader Config :=
  Reader.record shape

end Config

end LazyBundle
