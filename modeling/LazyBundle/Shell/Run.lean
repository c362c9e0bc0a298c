import LazyBundle.Shell.Evaluate

/-!
# Running commands

`Shell.runner` runs the commands of stages: programs that are searched for, each
as a process with the code as its input and sinks for what it writes.
-/

namespace LazyBundle.Shell

def Refusal.toIoError : Refusal → IoError
  | noEntry => .notFound
  | denied => .permissionDenied
  | present => .alreadyExists
  | notDirectory => .notDirectory
  | isDirectory => .isDirectory
  | nameTooLong => .nameTooLong
  | listTooLong => .other 7 "Argument list too long"
  | r => .other 22 (String.ofList r.message)

/-- The longest argument that a program can be given. -/
def argumentLimit : Nat := 131071

def pathLimit : Nat := 4095

def workDirectory : Place := [ofText "work"]

def environment (target : Target) : List (Bytes × Bytes) := [
  (ofText "HOME", ofText "/root"), (ofText "LAZYPACK_TARGET", ofText target.name),
  (ofText "PATH", standardPath)]

def programFor (program : Bytes) (args : List Bytes) : Act (Except Refusal Bytes) := do
  if program.isEmpty then pure (.error .noEntry)
  else if pathLimit < program.length then pure (.error .nameTooLong)
  else
    match ← locate workDirectory standardPath program with
    | .error r => pure (.error r)
    | .ok found =>
      if (program :: args).any fun a => argumentLimit < a.length then pure (.error .listTooLong)
      else pure (.ok found)

/-- How deep the commands of a process may be nested, and how often they may be repeated. -/
def patience : Nat := 1000000

def firstProcess : Nat := 4711

def process (found program : Bytes) (args : List Bytes) (code : String) (target : Target) :
    Act (Output × Nat) := do
  modify fun w => { w with nextProcess := firstProcess }
  let input ← newChannel (.source (ofText code))
  let output ← newChannel (.sink [])
  let errors ← newChannel (.sink [])
  let status ← launch patience found {
    name := program
    arguments := args
    environment := environment target
    descriptors := [(0, input), (1, output), (2, errors)]
    directory := workDirectory }
  -- what programs in the background still write is waited for
  modify fun (w : World) => World.catchUp { w with clock := (w.delayed.map (·.1)).foldl max w.clock }
  let written ← contentOf output
  let complaints ← contentOf errors
  pure ({ status := status, stdout := toByteArray written, stderr := toByteArray complaints }, (← get).clock)

/-- A program that is not found cannot be started. -/
def execute (program : String) (args : List String) (code : String) (target : Target) :
    Except IoError (Output × Nat) :=
  if (program :: args).any fun word => word.toList.contains '\x00' then .error .zeroInCommand
  else
    let program := ofText program
    let args := args.map ofText
    let (found, world) := (programFor program args).run {}
    match found with
    | .error r => .error r.toIoError
    | .ok found => .ok ((process found program args code target).run world).1

def runner : Runner := fun program args code target =>
  (execute program args code target).map fun ended => ⟨.ok (), .ok ended.1⟩

def duration (program : String) (args : List String) (code : String) (target : Target) : Nat :=
  match execute program args code target with
  | .error _ => 0
  | .ok ended => ended.2

end LazyBundle.Shell
