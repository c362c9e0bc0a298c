import LazyBundle.Command
import LazyBundle.Shell.Script.Parse
import LazyBundle.Shell.Script.Sum
import LazyBundle.Shell.World

/-!
# Sessions

What a shell knows while it runs a script: its variables and functions, the
descriptors that its commands get, and what it is to do on signals. Each
process that a script forks works on a copy of it.
-/

namespace LazyBundle.Shell

structure Variable where
  value : Option Bytes := none
  isExported : Bool := false
  /-- Whether it keeps its value for good. -/
  isFixed : Bool := false
deriving Repr, Inhabited

inductive Skip
  | nothing
  | breaking (loops : Nat)
  | continuing (loops : Nat)
  | returning
deriving DecidableEq, Repr, Inhabited

inductive Leave
  /-- Something is wrong, and was complained about. -/
  | fault
  | exit
  /-- A command that failed ends the script. -/
  | halt
  /-- The process is over, with nothing left to do. -/
  | ended (status : ExitStatus)
deriving Repr

structure Background where
  process : Nat
  status : ExitStatus
  /-- When it ends. -/
  time : Nat
deriving Repr

structure Session where
  /-- The name in front of messages. -/
  name : Bytes
  /-- What the script calls itself. -/
  zeroth : Bytes
  /-- The built-in command that messages are about. -/
  context : Option Bytes := none
  line : Nat := 0
  parameters : List Bytes := []
  bindings : List (Bytes × Variable) := []
  /-- The variables that each function call, and each command with variables of its own, hides. -/
  hidden : List (List (Bytes × Option Variable)) := []
  functions : List (Bytes × Script) := []
  aliases : List (Bytes × Bytes) := []
  /-- The paths of programs that were searched for. -/
  tracked : List (Bytes × Bytes) := []
  documents : Array Document := #[]
  options : List Char := []
  status : Nat := 0
  /-- The status of the last script whose output was put into a word. -/
  substituted : Nat := 0
  /-- The status that is given back at the end, if it is settled. -/
  settled : Option Nat := none
  skip : Skip := .nothing
  loops : Nat := 0
  descriptors : Descriptors := []
  directory : Place := []
  /-- What is done on signals; zero stands for the end. -/
  traps : List (Nat × Bytes) := []
  /-- The process of the script, and that of the shell itself, which may be a fork. -/
  process : Nat := 1
  own : Nat := 1
  parent : Nat := 0
  background : List Background := []
  mask : Nat := 18
  /-- The letter that options are read from next, behind the first one of an argument. -/
  letter : Nat := 0
  isForked : Bool := false
deriving Inhabited

abbrev Run := ExceptT Leave (StateT Session (StateM World))

namespace Session

def hasOption (s : Session) (letter : Char) : Bool := s.options.contains letter

/-- The variables that are there without anything being set. -/
def standardVariables : List (Bytes × Variable) := [
  ("PATH", "/usr/local/sbin:/usr/local/bin:/usr/sbin:/usr/bin:/sbin:/bin"), ("PPID", "1"), ("OPTIND", "1"), ("PS4", "+ "), ("PS2", "> "), ("PS1", "# "), ("IFS", " \t\n")].map
    fun e => (ofText e.1, { value := some (ofText e.2) })

def held? (s : Session) (name : Bytes) : Option Variable := s.bindings.lookup name

def value? (s : Session) (name : Bytes) : Option Bytes := (s.held? name).bind (·.value)

def put (s : Session) (name : Bytes) (v : Variable) : Session :=
  if (s.held? name).isSome then
    { s with bindings := s.bindings.map fun e => if e.1 = name then (name, v) else e }
  else { s with bindings := s.bindings ++ [(name, v)] }

def drop (s : Session) (name : Bytes) : Session :=
  { s with bindings := s.bindings.filter (·.1 != name) }

def shelves : Nat := 39

def shelf (name : Bytes) : Nat :=
  ((name.headD ' ').toNat * 16 + (name.map Char.toNat).foldr (· + ·) 0) % shelves

def environment (s : Session) : List (Bytes × Bytes) :=
  (List.range shelves).flatMap fun n =>
    s.bindings.filterMap fun (name, v) =>
      if v.isExported ∧ shelf name = n then v.value.map (name, ·) else none

def track (s : Session) (name path : Bytes) : Session :=
  { s with tracked := s.tracked.filter (·.1 != name) ++ [(name, path)] }

def separators (s : Session) : Bytes := (s.value? (ofText "IFS")).getD [' ', '\t', '\n']

def optionsName : Bytes := ['-']

def withoutFrame (s : Session) : Session :=
  match s.hidden with
  | [] => s
  | frame :: frames =>
    let restored := frame.foldl (fun s (name, v) =>
      match v with
      | some v => if name = optionsName then { s with options := v.value.getD [] } else s.put name v
      | none => s.drop name) s
    { restored with hidden := frames }

def ofStart (start : Start) (own : Nat) : Session :=
  let base : Session := {
    name := start.name
    zeroth := start.name
    bindings := standardVariables
    descriptors := start.descriptors
    directory := start.directory
    process := own
    own := own }
  let imported := start.environment.foldl (fun s (name, value) =>
    if isName name then s.put name { value := some value, isExported := true } else s) base
  let place := Place.text start.directory
  match imported.held? (ofText "PWD") with
  | some v => imported.put (ofText "PWD") { v with value := some place }
  | none => imported.put (ofText "PWD") { value := some place, isExported := true }

end Session

namespace Run

def act {α : Type} (a : Act α) : Run α := fun s w =>
  let (x, w) := a w
  ((.ok x, s), w)

def writeOn (descriptor : Nat) (bytes : Bytes) : Run (Except Refusal Unit) := do
  match (← get).descriptors.lookup descriptor with
  | some number => act (writeTo number bytes)
  | none => pure (.error .badDescriptor)

def warnPlain (message : Bytes) : Run Unit := do
  let _ ← writeOn 2 (message ++ ['\n'])

def warn (message : Bytes) : Run Unit := do
  let s ← get
  let context := (s.context.map fun c => c ++ [':', ' ']).getD []
  warnPlain (s.name ++ [':', ' '] ++ decimal s.line ++ [':', ' '] ++ context ++ message)

/-- A message about a fault, which ends a script unless a command keeps it to itself. -/
def fail {α : Type} (message : Bytes) : Run α := do
  warn message
  modify fun s => { s with status := 2 }
  throw .fault

def notNumber {α : Type} (text : Bytes) : Run α := fail (ofText "Illegal number: " ++ text)

/-- A number that is not below zero. -/
def number (text : Bytes) : Run Nat :=
  match (if text.all isSpace then none else Sum.numberOfDecimal? text) with
  | some n => if 0 ≤ n ∧ n < Int.pow 2 31 then pure n.toNat else notNumber text
  | none => notNumber text

/-! ## Variables -/

def checkFixed (name : Bytes) : Run Unit := do
  match (← get).held? name with
  | some v => if v.isFixed then fail (name ++ ofText ": is read only")
  | none => pure ()

def checkName (name : Bytes) : Run Unit := do
  if !isName name then fail (name ++ ofText ": bad variable name")

/-- Gives a variable a value; it is exported from then on if that is asked for. -/
def setVariable (name value : Bytes) (exported : Bool := false) : Run Unit := do
  checkFixed name
  let s ← get
  let old := (s.held? name).getD {}
  let isExported := old.isExported || exported || s.hasOption 'a'
  set (s.put name { old with value := some value, isExported := isExported })
  if name = ofText "OPTIND" then modify fun s => { s with letter := 0 }
  else if name = ofText "PATH" then modify fun s => { s with tracked := [] }

/-- Takes a variable away. One that hides another keeps its place. -/
def dropVariable (name : Bytes) : Run Unit := do
  checkFixed name
  modify fun s => s.drop name

def hide (name : Bytes) : Run Unit := do
  modify fun s =>
    match s.hidden with
    | frame :: frames => { s with hidden := ((name, s.held? name) :: frame) :: frames }
    | [] => s

def openFrame : Run Unit := modify fun s => { s with hidden := [] :: s.hidden }

/-! ## Signals -/

def signalNumber? (name : Bytes) : Option Nat :=
  let upper := name.map Char.toUpper
  (ExitStatus.signalNames.find? fun e => (ofText e.2).drop 3 == upper).map (·.1)

def signalName (n : Nat) : Bytes :=
  if n = 0 then ofText "EXIT"
  else ((ExitStatus.signalNames.lookup n).map fun name => (ofText name).drop 3).getD (decimal n)

/-- The signal that a word names, by number or by name; zero stands for the end. -/
def signal? (text : Bytes) : Option Nat :=
  match digits? text with
  | some n => if n < 65 then some n else none
  | none => if text.map Char.toUpper = ofText "EXIT" then some 0 else signalNumber? text

/-- Signals that do nothing to a process that does not ask for them. -/
def isHarmless (n : Nat) : Bool := n = 0 || [17, 18, 23, 28].contains n

def signalText (n : Nat) : Bytes :=
  ofText <| (([(1, "Hangup"), (2, ""), (3, "Quit"), (4, "Illegal instruction"),
    (5, "Trace/breakpoint trap"), (6, "Aborted"), (7, "Bus error"), (8, "Floating point exception"),
    (9, "Killed"), (10, "User defined signal 1"), (11, "Segmentation fault"),
    (12, "User defined signal 2"), (13, ""), (14, "Alarm clock"), (15, "Terminated"),
    (16, "Stack fault"), (24, "CPU time limit exceeded"), (25, "File size limit exceeded"),
    (26, "Virtual timer expired"), (27, "Profiling timer expired"), (29, "I/O possible"),
    (30, "Power failure"), (31, "Bad system call")] : List (Nat × String)).lookup n).getD
      ("Real-time signal " ++ toString (n - 34))

def statusOf : ExitStatus → Nat
  | .exited n => n % 256
  | .signaled n => 128 + n

def settle (e : ExitStatus) : Run Nat := do
  match e with
  | .exited _ => pure ()
  | .signaled n => if !(signalText n).isEmpty then warnPlain (signalText n)
  pure (statusOf e)

/-! ## Descriptors -/

def setDescriptor (descriptor : Nat) (channel : Option Nat) : Run Unit :=
  modify fun s =>
    let others := s.descriptors.filter (·.1 != descriptor)
    { s with descriptors := match channel with
        | some number => (descriptor, number) :: others
        | none => others }

def openingMessage (creates : Bool) (path : Bytes) (r : Refusal) : Bytes :=
  let reason := match r with
    | .noEntry | .notDirectory => ofText (if creates then "Directory nonexistent" else "No such file")
    | r => r.message
  ofText (if creates then "cannot create " else "cannot open ") ++ path ++ [':', ' '] ++ reason

def openPath (path : Bytes) (stream : Stream) : Run Nat := do
  let s ← get
  let direction : Direction := match stream with
    | .read => ⟨true, false, false⟩
    | .append => ⟨false, true, true⟩
    | .readWrite => ⟨true, true, false⟩
    | _ => ⟨false, true, false⟩
  let mayExist := !(s.hasOption 'C' && stream == .write)
  match ← act (openFile s.descriptors s.directory path direction mayExist) with
  | .ok number => pure number
  | .error r => fail (openingMessage (stream != .read) path r)

def startOf (words : List Bytes) : Run Start := do
  let s ← get
  pure {
    name := words.headD []
    arguments := words.drop 1
    environment := s.environment
    descriptors := s.descriptors
    directory := s.directory }

end Run

/-! ## Finding programs -/

def programAt (directory : Place) (path : Bytes) : Act (Except Refusal Bytes) := do
  match ← entryAt directory path with
  | .error r => pure (.error r)
  | .ok (place, .program) => pure (.ok (place.getLast?.getD []))
  | .ok _ => pure (.error .denied)

def searchFrom (directory : Place) (name : Bytes) : List Bytes → Refusal → Act (Except Refusal Bytes)
  | [], r => pure (.error r)
  | d :: ds, r => do
    let path := if d.isEmpty then name else d ++ ['/'] ++ name
    match ← programAt directory path with
    | .ok _ => pure (.ok path)
    | .error .noEntry | .error .notDirectory => searchFrom directory name ds r
    | .error r => searchFrom directory name ds r

def search (directory : Place) (path name : Bytes) : Act (Except Refusal Bytes) :=
  searchFrom directory name (splitOn ':' path) .noEntry

def standardPath : Bytes :=
  ofText "/usr/local/sbin:/usr/local/bin:/usr/sbin:/usr/bin:/sbin:/bin"

def locate (directory : Place) (path word : Bytes) : Act (Except Refusal Bytes) := do
  if word.contains '/' then programAt directory word
  else
    match ← search directory path word with
    | .ok found => programAt directory found
    | .error r => pure (.error r)

end LazyBundle.Shell
