import LazyBundle.Path
import LazyBundle.Target

/-!
# Arguments

The arguments of the command line are read one after the other, and the first
one that is wrong, or that asks for help or the version, ends the reading. The
value of an option stands behind an equals sign, right behind a short name, or
in the next argument, which then does not look like an option.
-/

namespace LazyBundle.Cli

structure Options where
  manifest : Option Path := none
  outDirs : List Path := []
  target : Option Target := none
  minify : Bool := false
  hash : Bool := false
  config : Option Path := none
  dryRun : Bool := false
  verbosity : Nat := 0
deriving DecidableEq, Repr, Inhabited

/-- Why the arguments do not lead to a build. -/
inductive Stop
  | help
  | version
  | usage
deriving DecidableEq, Repr

inductive Switch
  | minify
  | hash
  | dryRun
  | verbose
  | help
  | version
deriving DecidableEq, Repr

inductive Slot
  | manifest
  | outDir
  | target
  | config
deriving DecidableEq, Repr

def switchNames : List (String × Switch) := [
  ("minify", .minify), ("hash", .hash), ("dry-run", .dryRun), ("verbose", .verbose),
  ("help", .help), ("version", .version)]

def slotNames : List (String × Slot) := [
  ("manifest", .manifest), ("out-dir", .outDir), ("target", .target), ("config", .config)]

def switchLetters : List (Char × Switch) :=
  [('v', .verbose), ('h', .help), ('V', .version)]

def slotLetters : List (Char × Slot) :=
  [('m', .manifest), ('o', .outDir), ('c', .config)]

/-- What was not given so far can be given once. -/
def once (given : Bool) (o : Options) : Except Stop Options :=
  if given then .error .usage else .ok o

def Options.turnOn (o : Options) : Switch → Except Stop Options
  | .minify => once o.minify { o with minify := true }
  | .hash => once o.hash { o with hash := true }
  | .dryRun => once o.dryRun { o with dryRun := true }
  | .verbose => .ok { o with verbosity := o.verbosity + 1 }
  | .help => .error .help
  | .version => .error .version

def Options.put (o : Options) (slot : Slot) (value : String) : Except Stop Options :=
  if value.isEmpty then .error .usage
  else match slot with
    | .manifest => once o.manifest.isSome { o with manifest := some ⟨value⟩ }
    | .outDir => .ok { o with outDirs := o.outDirs ++ [⟨value⟩] }
    | .config => once o.config.isSome { o with config := some ⟨value⟩ }
    | .target =>
      match Target.ofName? value with
      | some t => once o.target.isSome { o with target := some t }
      | none => .error .usage

abbrev Reading := Options × Option Slot

/-- Letters behind a dash: switches, and at most one option that takes the rest as its value. -/
def readLetters (o : Options) : List Char → Except Stop Reading
  | [] => .ok (o, none)
  | c :: cs =>
    match switchLetters.lookup c, slotLetters.lookup c with
    | some s, _ => do readLetters (← o.turnOn s) cs
    | none, some slot =>
      match cs with
      | [] => .ok (o, some slot)
      | '=' :: value => do pure (← o.put slot (String.ofList value), none)
      | value => do pure (← o.put slot (String.ofList value), none)
    | none, none => .error .usage

def readName (o : Options) (chars : List Char) : Except Stop Reading :=
  let name := String.ofList (chars.takeWhile (· != '='))
  let value := (chars.dropWhile (· != '=')).tail?.map String.ofList
  match switchNames.lookup name, slotNames.lookup name, value with
  | some s, _, none => do pure (← o.turnOn s, none)
  | none, some slot, some value => do pure (← o.put slot value, none)
  | none, some slot, none => .ok (o, some slot)
  | _, _, _ => .error .usage

def readArg (o : Options) (arg : String) : Except Stop Reading :=
  match arg.toList with
  | '-' :: '-' :: name => readName o name
  | '-' :: c :: cs => readLetters o (c :: cs)
  | _ => .error .usage

def looksLikeOption (arg : String) : Bool :=
  match arg.toList with
  | '-' :: _ :: _ => true
  | _ => false

def readArgs (o : Options) : Option Slot → List String → Except Stop Options
  | none, [] => .ok o
  | some _, [] => .error .usage
  | none, ["--"] => .ok o
  | none, arg :: args => do
    let (o, pending) ← readArg o arg
    readArgs o pending args
  | some slot, arg :: args => do
    if looksLikeOption arg then throw .usage
    readArgs (← o.put slot arg) none args

def parseArgs (args : List String) : Except Stop (Path × Options) := do
  let o ← readArgs {} none args
  match o.manifest with
  | some manifest => pure (manifest, o)
  | none => throw .usage

end LazyBundle.Cli
