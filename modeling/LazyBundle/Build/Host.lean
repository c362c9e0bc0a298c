import LazyBundle.Command
import LazyBundle.ModuleWriter

/-!
# Hosts

Everything outside the assembly of bundles that a build relies on: the stages
that finish code, the file system, the module writer, and the length from which
the data of the loader are written as a string.
-/

namespace LazyBundle

structure Host (m : Type → Type) where
  stages : Stages
  files : FileSystem m
  writer : ModuleWriter m
  threshold : Nat := Literal.defaultThreshold

def Host.ofConfig {m : Type → Type} [Monad m] (config : Config) (runner : Runner)
    (files : FileSystem m) : Host m where
  stages := .ofCommands runner config.transpileCommand config.minifyCommand
  files := files
  writer := .ofConfig config files

inductive BuildError
  | missingEntryModule (fileName : String) (entryKey : Option String)
  | emptyBundle (entryKey : String)
  | missingPlaceholder (fileName : String)
  | write (cause : WriteError)
deriving DecidableEq, Repr

namespace BuildError

def keyText : Option String → String
  | none => "None"
  | some key => "Some(" ++ Text.quote key ++ ")"

def message : BuildError → String
  | missingEntryModule fileName entryKey =>
    "no entry module found for component bundle '" ++ fileName ++ "' (entry key: " ++
      keyText entryKey ++ ")"
  | emptyBundle entryKey => "bundle module '" ++ entryKey ++ "' must have at least one output"
  | missingPlaceholder fileName =>
    "core bundle '" ++ fileName ++ "' does not contain the lazy bundle data placeholder"
  | write cause => cause.message

end BuildError

/-- What comes out of a part of a build. -/
structure Report (α : Type) where
  result : Except BuildError α
  /-- What was reported, in order. -/
  log : Log
  /-- The core bundles that are written without the data of the loader. -/
  unplaced : List String := []

end LazyBundle
