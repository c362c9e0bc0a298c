/-!
# Diagnostics

What the stages of a build report about the code. A log is a list of
diagnostics in the order in which they were reported; nothing is removed.
-/

namespace LazyBundle

inductive Level
  | error
  | warning
deriving DecidableEq, Repr

def Level.name : Level → String
  | .error => "error"
  | .warning => "warning"

structure Diagnostic where
  level : Level
  header : String
  message : String
  file : Option String := none
deriving DecidableEq, Repr

namespace Diagnostic

def isError (d : Diagnostic) : Bool :=
  d.level == .error

def text (d : Diagnostic) : String :=
  let place := match d.file with
    | some file => " (" ++ file ++ ")"
    | none => ""
  "[" ++ d.level.name ++ "] " ++ d.header ++ ": " ++ d.message ++ place

end Diagnostic

abbrev Log := List Diagnostic

def Log.hasErrors (log : Log) : Bool :=
  log.any Diagnostic.isError

@[simp] theorem Log.hasErrors_append (a b : Log) :
    Log.hasErrors (a ++ b) = (a.hasErrors || b.hasErrors) := by
  simp [Log.hasErrors]

end LazyBundle
