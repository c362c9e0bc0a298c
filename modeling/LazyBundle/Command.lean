import LazyBundle.IoError
import LazyBundle.Stage
import LazyBundle.Text.Blank
import LazyBundle.Text.Utf8

/-!
# Commands as stages

A stage can be a command that gets code on its input and writes code to its
output. Whatever goes wrong with it becomes one error diagnostic. A stage
without a command warns and leaves the code alone.
-/

namespace LazyBundle

inductive ExitStatus
  | exited (code : Nat)
  | signaled (signal : Nat)
deriving DecidableEq, Repr

namespace ExitStatus

def isSuccess : ExitStatus → Bool
  | exited 0 => true
  | _ => false

def signalNames : List (Nat × String) := [
  (1, "SIGHUP"), (2, "SIGINT"), (3, "SIGQUIT"), (4, "SIGILL"), (5, "SIGTRAP"), (6, "SIGABRT"),
  (7, "SIGBUS"), (8, "SIGFPE"), (9, "SIGKILL"), (10, "SIGUSR1"), (11, "SIGSEGV"),
  (12, "SIGUSR2"), (13, "SIGPIPE"), (14, "SIGALRM"), (15, "SIGTERM"), (16, "SIGSTKFLT"),
  (17, "SIGCHLD"), (18, "SIGCONT"), (19, "SIGSTOP"), (20, "SIGTSTP"), (21, "SIGTTIN"),
  (22, "SIGTTOU"), (23, "SIGURG"), (24, "SIGXCPU"), (25, "SIGXFSZ"), (26, "SIGVTALRM"),
  (27, "SIGPROF"), (28, "SIGWINCH"), (29, "SIGIO"), (30, "SIGPWR"), (31, "SIGSYS")]

def text : ExitStatus → String
  | exited code => "exit status: " ++ toString code
  | signaled signal =>
    "signal: " ++ toString signal ++
      ((signalNames.lookup signal).map fun name => " (" ++ name ++ ")").getD ""

end ExitStatus

structure Output where
  status : ExitStatus
  stdout : ByteArray
  stderr : ByteArray

/-- What happens to a process once it runs: how the writing of its input ends, and what it
gives back. -/
structure Completion where
  input : Except IoError Unit
  output : Except IoError Output

/-- A process that could not be started has no completion. -/
abbrev ProcessOutcome := Except IoError Completion

abbrev Runner := String → List String → String → Target → ProcessOutcome

structure Command where
  header : String
  words : List String
deriving DecidableEq, Repr

namespace Command

inductive Failure
  | noProgram
  | notStarted (program : String) (cause : IoError)
  | inputLost (cause : IoError)
  | notAwaited (program : String) (cause : IoError)
  | failed (program : String) (status : ExitStatus) (stderr : String)
  | notUtf8 (program : String) (cause : Text.Utf8Error)
deriving DecidableEq, Repr

def Failure.message : Failure → String
  | noProgram => "empty command"
  | notStarted program cause => "failed to spawn '" ++ program ++ "': " ++ cause.message
  | inputLost cause => "failed to write stdin: " ++ cause.message
  | notAwaited program cause => "failed to wait for '" ++ program ++ "': " ++ cause.message
  | failed program status stderr =>
    "'" ++ program ++ "' exited with " ++ status.text ++ ": " ++ stderr
  | notUtf8 program cause => "'" ++ program ++ "' wrote invalid UTF-8: " ++ cause.message

def readOutput (program : String) (output : Output) : Except Failure String :=
  if !output.status.isSuccess then
    .error (.failed program output.status (Text.trim (Text.lossy output.stderr.toList)))
  else
    match String.fromUTF8? output.stdout with
    | some code => .ok code
    | none =>
      let bytes := output.stdout.toList
      .error (.notUtf8 program ((Text.utf8Error? bytes.length 0 bytes).getD ⟨0, none⟩))

/-- A program may end without reading its input. -/
def judge (program : String) : ProcessOutcome → Except Failure String
  | .error cause => .error (.notStarted program cause)
  | .ok ⟨.error .brokenPipe, output⟩ | .ok ⟨.ok (), output⟩ =>
    match output with
    | .error cause => .error (.notAwaited program cause)
    | .ok output => readOutput program output
  | .ok ⟨.error cause, _⟩ => .error (.inputLost cause)

def run (runner : Runner) (c : Command) (code : String) (target : Target) :
    Except Diagnostic String :=
  let result : Except Failure String := match c.words with
    | [] => .error .noProgram
    | program :: args => judge program (runner program args code target)
  result.mapError fun failure => { level := .error, header := c.header, message := failure.message }

def transform (runner : Runner) (c : Command) (code : String) (target : Target) : Transformed :=
  match c.run runner code target with
  | .ok output => ⟨output, []⟩
  | .error d => ⟨code, [d]⟩

def optimize (runner : Runner) (c : Command) (code : String) (target : Target) : Optimized :=
  match c.run runner code target with
  | .ok output => ⟨some output, []⟩
  | .error d => ⟨none, [d]⟩

end Command

/-! ## Stages without a command -/

namespace Stages

def unavailable (header : String) (target : Target) : Diagnostic where
  level := .warning
  header := header
  message := "no command configured for target " ++ target.name ++ ", code left unchanged"

def transformWith (runner : Runner) (header : String) (words : Option (List String))
    (code : String) (target : Target) : Transformed :=
  match words with
  | some words => Command.transform runner ⟨header, words⟩ code target
  | none => ⟨code, [unavailable header target]⟩

def optimizeWith (runner : Runner) (header : String) (words : Option (List String))
    (code : String) (target : Target) : Optimized :=
  match words with
  | some words => Command.optimize runner ⟨header, words⟩ code target
  | none => ⟨none, [unavailable header target]⟩

def ofCommands (runner : Runner) (transpile minify : Option (List String)) : Stages where
  transform := transformWith runner "Transpile" transpile
  optimize := optimizeWith runner "Minify" minify

end Stages

end LazyBundle
