import LazyBundle.Shell.Builtin
import LazyBundle.Shell.Edit.Run
import LazyBundle.Shell.Launch
import LazyBundle.Shell.Programs

/-!
# Evaluation

Scripts are carried out command by command. A command in parentheses, in a
pipe or behind an ampersand works on a copy of the session, as a process of its
own; the stages of a pipe run one after the other.
-/

namespace LazyBundle.Shell

open Run Launch

/-- What surrounds a command. -/
structure Mode where
  /-- Whether its status is looked at, so that it may fail. -/
  tested : Bool := false
  /-- Whether the process ends with it. -/
  last : Bool := false
deriving Repr

def Mode.inner (m : Mode) : Mode := { tested := m.tested }

inductive Redirection
  | open (descriptor : Nat) (stream : Stream) (path : Bytes)
  | copy (descriptor : Nat) (from_ : Nat)
  | close (descriptor : Nat)
  | text (descriptor : Nat) (content : Bytes)

def Redirection.descriptor : Redirection → Nat
  | .open d _ _ | .copy d _ | .close d | .text d _ => d

inductive Meaning
  | nothing
  | builtin (traits : Builtin.Traits)
  | function (body : Script)
  | program

inductive Turn
  | next
  | again
  | out
deriving DecidableEq

namespace Run

/-- Does something at the end whether or not a fault comes in between. -/
def afterwards {α : Type} (body : Run α) (cleanup : Session → Session) : Run α := fun s w =>
  let ((r, s), w) := body s w
  ((r, cleanup s), w)

def recovering (body : Run Nat) : Run Nat := fun s w =>
  match body s w with
  | ((.error .fault, s), w) => ((.ok s.status, s), w)
  | r => r

def setStatus (n : Nat) : Run Unit := modify fun s => { s with status := n }

def turn : Run Turn := do
  let s ← get
  match s.skip with
  | .nothing => pure .next
  | .returning => pure .out
  | .breaking n =>
    set { s with skip := if n ≤ 1 then .nothing else .breaking (n - 1) }
    pure .out
  | .continuing n =>
    set { s with skip := if n ≤ 1 then .nothing else .continuing (n - 1) }
    pure (if n ≤ 1 then .again else .out)

def skips : Run Bool := do pure ((← get).skip != .nothing)

def meaningOf (withFunctions : Bool) (name : Bytes) : Run Meaning := do
  let s ← get
  match (if withFunctions then s.functions.lookup name else none), Builtin.traits? name with
  | some body, _ => pure (.function body)
  | none, some t => pure (.builtin t)
  | none, none => pure .program

def behindCommand : List Bytes → Option (Bool × List Bytes)
  | [] => none
  | ['-', '-'] :: rest => if rest.isEmpty then none else some (false, rest)
  | ('-' :: c :: cs) :: rest =>
    if (c :: cs).all (· == 'p') then (behindCommand rest).map fun r => (true, r.2) else none
  | words => some (false, words)

/-- Whether the arguments of a command may be assignments. -/
def takesAssignments : Nat → List Bytes → Bool
  | 0, _ => false
  | _, [] => false
  | fuel + 1, name :: rest =>
    if name = ofText "command" then
      match behindCommand rest with
      | some (_, words) => takesAssignments fuel words
      | none => false
    else ((Builtin.traits? name).map (·.assigns)).getD false

def copyOf (descriptor : Nat) (text : Bytes) : Run Redirection := do
  match text with
  | ['-'] => pure (.close descriptor)
  | [c] => if c.isDigit then pure (.copy descriptor (digitValue c)) else bad
  | _ => bad
where
  bad : Run Redirection := fail (ofText "Syntax error: Bad fd number")

def redirect (rs : List Redirection) : Run Unit := do
  for r in rs do
    match r with
    | .open d stream path => setDescriptor d (some (← openPath path stream))
    | .copy d source =>
      match (← get).descriptors.lookup source with
      | some number => setDescriptor d (some number)
      | none => fail (decimal source ++ ofText ": Bad file descriptor")
    | .close d => setDescriptor d none
    | .text d content => setDescriptor d (some (← act (newChannel (.source content))))

def restoring (rs : List Redirection) (before after : Session) : Session :=
  rs.foldl (fun s r =>
    let d := r.descriptor
    let others := s.descriptors.filter (·.1 != d)
    { s with descriptors := match before.descriptors.lookup d with
        | some number => (d, number) :: others
        | none => others }) after

def trace (channel : Option Nat) (front : Bytes) (words : List Bytes) : Run Unit := do
  match channel with
  | some number =>
    let _ ← act (writeTo number (front ++ joinWords words ++ ['\n']))
  | none => pure ()

def track (word : Bytes) : Run Unit := do
  let s ← get
  if !word.contains '/' then
    match ← act (search s.directory ((s.value? (ofText "PATH")).getD []) word) with
    | .ok path => set (s.track word path)
    | .error _ => pure ()

def trackFirst (script : Script) : Run Unit := do
  match script with
  | .simple _ _ (w :: _) _ =>
    match plainText? w with
    | some word =>
      if (Builtin.traits? word).isNone ∧ ((← get).functions.lookup word).isNone then track word
    | none => pure ()
  | _ => pure ()

def newProcess : Run Nat := do
  act (do
    let w ← get
    set { w with nextProcess := w.nextProcess + 1 }
    pure w.nextProcess)

/-- The traps that a forked shell keeps: signals that are not noticed. -/
def keptTraps (traps : List (Nat × Bytes)) : List (Nat × Bytes) :=
  traps.filter fun t => t.2.isEmpty && t.1 != 0

def takeSignals : Run (List Nat) := do
  let s ← get
  act (do
    let w ← get
    let (mine, others) := w.signals.partition (·.1 == s.own)
    set { w with signals := others }
    pure (mine.map (·.2)))

def withoutLineFeeds (text : Bytes) : Bytes := (text.reverse.dropWhile (· == '\n')).reverse

def notRunnable (word : Bytes) (r : Refusal) : Bytes × Nat :=
  match r with
  | .noEntry | .notDirectory => (word ++ ofText ": not found", 127)
  | .nameTooLong => (word ++ ofText ": File name too long", 127)
  | r => (word ++ [':', ' '] ++ r.message, 126)

end Run

mutual

def evaluate : Nat → Script → Mode → Run Nat
  | 0, _, _ => throw (.ended (.signaled 9))
  | fuel + 1, script, mode => do
    if (← get).hasOption 'n' then return (← get).status
    notice fuel
    let n ← command fuel script mode
    notice fuel
    let checks : Bool := match script with
      | .simple .. | .subshell .. | .background .. | .pipe .. => true
      | _ => false
    if checks && n != 0 && !mode.tested && (← get).hasOption 'e' then throw .halt
    pure (← get).status

def command : Nat → Script → Mode → Run Nat
  | 0, _, _ => throw (.ended (.signaled 9))
  | fuel + 1, script, mode => do
    let done (n : Nat) : Run Nat := do
      setStatus n
      pure n
    match script with
    | .nothing => pure (← get).status
    | .simple line assignments words redirects =>
      done (← simple fuel line assignments words redirects mode)
    | .sequence first second =>
      let n ← evaluate fuel first mode.inner
      if ← skips then pure n else evaluate fuel second mode
    | .both first second =>
      let n ← evaluate fuel first { tested := true }
      if n ≠ 0 then pure n
      else if ← skips then pure n else evaluate fuel second mode
    | .either first second =>
      let n ← evaluate fuel first { tested := true }
      if n = 0 then pure n
      else if ← skips then pure n else evaluate fuel second mode
    | .negated script =>
      let n ← evaluate fuel script { tested := true }
      done (if n = 0 then 1 else 0)
    | .choose condition yes no =>
      let n ← evaluate fuel condition { tested := true }
      if ← skips then pure n
      else if n = 0 then evaluate fuel yes mode
      else match no with
        | .nothing => done 0
        | no => evaluate fuel no mode
    | .loop isWhile condition body =>
      modify fun s => { s with loops := s.loops + 1 }
      let n ← afterwards (repeats fuel isWhile condition body mode.inner 0) fun s =>
        { s with loops := s.loops - 1 }
      done n
    | .forEach line name words body =>
      modify fun s => { s with line := line }
      let values ← fieldsOf fuel words []
      modify fun s => { s with loops := s.loops + 1 }
      let n ← afterwards (each fuel name values body mode.inner 0) fun s =>
        { s with loops := s.loops - 1 }
      done n
    | .select line word arms =>
      modify fun s => { s with line := line }
      let text ← expandText (outputOf fuel) word
      done (← selected fuel text arms mode)
    | .define _ name body =>
      modify fun s =>
        { s with functions := (name, body) :: s.functions.filter (·.1 != name) }
      done 0
    | .redirected line body redirects =>
      modify fun s => { s with line := line }
      let rs ← redirections fuel redirects
      let before ← get
      let n ← afterwards (do
        let failed ← recovering (do
          redirect rs
          pure 0)
        if failed ≠ 0 then pure failed else evaluate fuel body mode.inner) (restoring rs before)
      done n
    | .subshell line body redirects =>
      modify fun s => { s with line := line }
      let rs ← redirections fuel redirects
      let e ← forked fuel id (do
        redirect rs
        let _ ← evaluate fuel body { mode with last := true })
      done (← settle e)
    | .background line body redirects =>
      modify fun s => { s with line := line }
      let rs ← redirections fuel redirects
      inBackground fuel (do
        redirect rs
        let _ ← evaluate fuel body { last := true })
      done 0
    | .pipe stages false => done (← pipeline fuel stages none mode)
    | .pipe stages true =>
      inBackground fuel (do
        let n ← pipeline fuel stages none {}
        setStatus n)
      done 0

def notice : Nat → Run Unit
  | 0 => pure ()
  | fuel + 1 => do
    for n in ← takeSignals do
      let s ← get
      match (if n = 9 ∨ n = 19 then none else s.traps.lookup n) with
      | some [] => pure ()
      | some action =>
        let settled := s.settled.getD s.status
        set { s with settled := some settled }
        let _ ← evaluateText fuel action {}
        let returns := (← get).skip == .returning
        modify fun s => { s with
          settled := none
          status := if returns then s.status else settled }
      | none => if !isHarmless n then throw (.ended (.signaled n))

def repeats : Nat → Bool → Script → Script → Mode → Nat → Run Nat
  | 0, _, _, _, _, _ => throw (.ended (.signaled 9))
  | fuel + 1, isWhile, condition, body, mode, status => do
    let n ← evaluate fuel condition { tested := true }
    let returns := (← get).skip == .returning
    match ← turn with
    | .again => repeats fuel isWhile condition body mode status
    | .out => pure (if returns then n else status)
    | .next =>
      if (n = 0) != isWhile then pure status
      else
        let status ← evaluate fuel body mode
        match ← turn with
        | .out => pure status
        | _ => repeats fuel isWhile condition body mode status

def each : Nat → Bytes → List Bytes → Script → Mode → Nat → Run Nat
  | 0, _, _, _, _, _ => throw (.ended (.signaled 9))
  | _, _, [], _, _, status => pure status
  | fuel + 1, name, value :: values, body, mode, _ => do
    setVariable name value
    let status ← evaluate fuel body mode
    match ← turn with
    | .out => pure status
    | _ => each fuel name values body mode status

def selected : Nat → Bytes → List Arm → Mode → Run Nat
  | 0, _, _, _ => throw (.ended (.signaled 9))
  | _, _, [], _ => pure 0
  | fuel + 1, text, .mk patterns body :: arms, mode => do
    if ← anyMatches fuel text patterns then
      match body with
      | .nothing => pure 0
      | body => evaluate fuel body mode
    else selected fuel text arms mode

def anyMatches : Nat → Bytes → List Word → Run Bool
  | 0, _, _ => pure false
  | _, _, [] => pure false
  | fuel + 1, text, p :: ps => do
    if Glob.accepts (← expandPattern (outputOf fuel) p) text then pure true
    else anyMatches fuel text ps

def pipeline : Nat → List Script → Option Nat → Mode → Run Nat
  | 0, _, _, _ => throw (.ended (.signaled 9))
  | _, [], _, _ => pure 0
  | fuel + 1, stage :: stages, source, mode => do
    trackFirst stage
    let target ← if stages.isEmpty then pure none else some <$> act (newChannel (.sink []))
    let connect (s : Session) : Session :=
      let link (descriptor : Nat) (number : Option Nat) (ds : Descriptors) : Descriptors :=
        match number with
        | some n => (descriptor, n) :: ds.filter (·.1 != descriptor)
        | none => ds
      { s with descriptors := link 1 target (link 0 source s.descriptors) }
    let e ← forked fuel connect (do
      let _ ← evaluate fuel stage { mode with last := true })
    let n ← settle e
    match target with
    | none => pure n
    | some number =>
      let content ← act (contentOf number)
      act (setChannel number (.source content))
      pipeline fuel stages (some number) mode

/-- What a script writes, without the line feeds at its end. -/
def outputOf : Nat → Script → Run Bytes
  | 0, _ => throw (.ended (.signaled 9))
  | fuel + 1, script => do
    match script with
    | .nothing => pure []
    | script =>
      let number ← act (newChannel (.sink []))
      let e ← forked fuel (fun s =>
        { s with descriptors := (1, number) :: s.descriptors.filter (·.1 != 1) }) (do
          let _ ← evaluate fuel script { last := true })
      let n ← settle e
      modify fun s => { s with substituted := n }
      return withoutLineFeeds ((← act (contentOf number)).filter (· != '\x00'))

def forked : Nat → (Session → Session) → Run Unit → Run ExitStatus
  | 0, _, _ => throw (.ended (.signaled 9))
  | fuel + 1, change, body => do
    let own ← newProcess
    let s ← get
    let inner := change { s with own := own, traps := keptTraps s.traps, settled := none, isForked := true }
    act (modify fun w => { w with running := own :: w.running })
    let e ← act (do
      let (e, _) ← (conclude fuel body).run inner
      pure e)
    act (modify fun w => { w with running := w.running.filter (· != own) })
    pure e

/-- Runs something without waiting for it. -/
def inBackground : Nat → Run Unit → Run Unit
  | 0, _ => throw (.ended (.signaled 9))
  | fuel + 1, body => do
    let begun ← act get
    let nothing ← act (newChannel (.source []))
    let number ← newProcess
    let e ← forked fuel (fun s =>
      { s with descriptors := (0, nothing) :: s.descriptors.filter (·.1 != 0) }) body
    let ended ← act get
    if begun.clock < ended.clock then act (set (begun.delay ended))
    modify fun s => { s with background := ⟨number, e, ended.clock⟩ :: s.background }

/-- Ends a process: its status is that of its last command unless it is settled, and what is to be
done at the end is done. -/
def conclude : Nat → Run Unit → StateT Session (StateM World) ExitStatus
  | 0, _ => pure (.signaled 9)
  | fuel + 1, body => do
    let ending (r : Except Leave Unit) (settled : Bool) : StateT Session (StateM World) (Except ExitStatus Nat) := do
      let s ← get
      pure (match r with
        | .error (.ended e) => .error e
        | .error .exit => .ok (s.settled.getD s.status)
        | .ok () => .ok (if settled then s.settled.getD s.status else s.status)
        | .error _ => .ok s.status)
    match ← ending (← body.run) false with
    | .error e => pure e
    | .ok n =>
      let s ← get
      match s.traps.lookup 0 with
      | none => pure (.exited (n % 256))
      | some action =>
        set { s with
          traps := s.traps.filter (·.1 != 0)
          status := n
          settled := some n
          skip := .nothing }
        let r ← (do let _ ← evaluateText fuel action {}).run
        match ← ending r true with
        | .error e => pure e
        | .ok n => pure (.exited (n % 256))

/-- The fields of some words; `found` holds those of the words before them. -/
def fieldsOf : Nat → List Word → List Bytes → Run (List Bytes)
  | 0, _, found => pure found
  | _, [], found => pure found
  | fuel + 1, w :: ws, found => do
    let fields ← match assignment? w with
      | some (name, value) =>
        if takesAssignments (found.length + 1) found then do
          pure [name ++ '=' :: (← expandValue (outputOf fuel) value)]
        else expandFields (outputOf fuel) w
      | none => expandFields (outputOf fuel) w
    fieldsOf fuel ws (found ++ fields)

def redirections : Nat → List Redirect → Run (List Redirection)
  | 0, _ => pure []
  | _, [] => pure []
  | fuel + 1, r :: rs => do
    let first ← match r with
      | .file d stream w => do pure (.open d stream (← expandText (outputOf fuel) w))
      | .copy d w => copyOf d (← expandText (outputOf fuel) w)
      | .document d index => do
        let document := (← get).documents.getD index default
        pure (.text d (← expandText (outputOf fuel) document.parts))
    return first :: (← redirections fuel rs)

/-- Gives variables values in front of a command; they are hidden if they are its own. -/
def assigned : Nat → List Word → Bool → Bool → Run (List Bytes)
  | 0, _, _, _ => pure []
  | _, [], _, _ => pure []
  | fuel + 1, w :: ws, own, exported => do
    match assignment? w with
    | none => assigned fuel ws own exported
    | some (name, value) =>
      let text ← expandValue (outputOf fuel) value
      if own then hide name
      setVariable name text exported
      return (name ++ '=' :: text) :: (← assigned fuel ws own exported)

def promptText : Nat → Run Bytes
  | 0 => pure []
  | fuel + 1 => do
    let s ← get
    let text := (s.value? (ofText "PS4")).getD []
    match Reading.readText text with
    | .ok w =>
      modify fun s => { s with options := s.options.filter (· != 'x') }
      let shown ← expandText (outputOf fuel) w
      modify fun t => { t with options := s.options }
      pure shown
    | .error _ => pure text

def simple : Nat → Nat → List Word → List Word → List Redirect → Mode → Run Nat
  | 0, _, _, _, _, _ => throw (.ended (.signaled 9))
  | fuel + 1, line, assignments, words, redirects, mode => do
    modify fun s => { s with line := line, substituted := 0 }
    let fields ← fieldsOf fuel words []
    -- What the words lead to, and how the commands that only run others change that.
    let first ← match fields with
      | [] => pure Meaning.nothing
      | name :: _ => meaningOf true name
    let bare := unwrap (fields.length + 1) fields false false
    let wrapped := bare.1.length < fields.length
    let meaning ← match bare.1 with
      | [] => pure Meaning.nothing
      | name :: _ => meaningOf (!wrapped) name
    let special : Bool := match first with
      | .builtin t => t.isSpecial
      | _ => false
    let own : Bool := match first with
      | .nothing => false
      | .builtin t => !t.isSpecial
      | _ => true
    let isExec : Bool := match meaning with
      | .builtin _ => bare.1.head? = some (ofText "exec")
      | _ => false
    let frames := (← get).hidden.length
    let rs ← redirections fuel redirects
    let before ← get
    if own then openFrame
    let cleanup (s : Session) : Session :=
      let s := if isExec then s else restoring rs before s
      leaveFrames frames (s.hidden.length + 1) s
    afterwards (do
      let failed ← recovering (do
        redirect rs
        pure 0)
      if failed ≠ 0 then
        if special then throw .fault
        pure failed
      else
        let given ← assigned fuel assignments own (own || (isExec && 1 < bare.1.length))
        if (← get).hasOption 'x' then
          trace (before.descriptors.lookup 2) (← promptText fuel) (given ++ fields)
        match meaning, bare.1 with
        | .builtin traits, name :: args =>
          let run := builtin fuel name args mode
          if traits.isSpecial && special then run else recovering run
        | .function body, _ :: args => callFunction fuel body args mode
        | .program, words => external fuel words bare.2 mode
        | _, _ => pure (← get).substituted) cleanup
where
  unwrap : Nat → List Bytes → Bool → Bool → List Bytes × Bool
    | 0, words, standard, _ => (words, standard)
    | fuel + 1, words, standard, _ =>
      match words with
      | name :: rest =>
        if name = ofText "command" then
          match behindCommand rest with
          | some (p, words) => unwrap fuel words (standard || p) true
          | none => (words, standard)
        else (words, standard)
      | [] => ([], standard)
  leaveFrames (count : Nat) : Nat → Session → Session
    | 0, s => s
    | fuel + 1, s =>
      if count < s.hidden.length then leaveFrames count fuel s.withoutFrame else s

def builtin : Nat → Bytes → List Bytes → Mode → Run Nat
  | 0, _, _, _ => throw (.ended (.signaled 9))
  | fuel + 1, name, args, mode => do
    let context := (← get).context
    modify fun s => { s with context := some name }
    let run : Run Nat := match String.ofList name with
      | "eval" => evaluateText fuel (joinWords args) mode.inner
      | "." => sourceFile fuel args
      | "exec" => replace fuel args
      | _ => match Builtin.plain? name with
        | some act => act args
        | none => pure 0
    let n ← afterwards run fun s => { s with context := context }
    setStatus n
    pure n

def replace : Nat → List Bytes → Run Nat
  | 0, _ => throw (.ended (.signaled 9))
  | _, [] => pure 0
  | fuel + 1, word :: args => do
    let s ← get
    match ← act (locate s.directory ((s.value? (ofText "PATH")).getD []) word) with
    | .ok found => throw (.ended (← act (launch fuel found (← startOf (word :: args)))))
    | .error r =>
      let (message, status) := notRunnable word r
      warn message
      setStatus status
      throw .halt

def sourceFile : Nat → List Bytes → Run Nat
  | 0, _ => throw (.ended (.signaled 9))
  | fuel + 1, args => do
    let (_, operands) ← Builtin.optionsOf "" args
    match operands with
    | [] => pure 0
    | name :: _ =>
      let s ← get
      let path ← if name.contains '/' then pure name
        else do
          let directories := splitOn ':' ((s.value? (ofText "PATH")).getD [])
          let candidates := directories.map fun d => if d.isEmpty then name else d ++ ['/'] ++ name
          let w ← act get
          match candidates.find? fun p => match w.place? (Place.resolve s.directory p) with
              | .ok (.file _) => true
              | _ => false with
          | some p => pure p
          | none => fail (name ++ ofText ": not found")
      let number ← openPath path .read
      let text := match ← act (readAll number) with
        | .ok cs => cs
        | .error _ => []
      modify fun s => { s with context := some path }
      let n ← evaluateText fuel text {}
      modify fun s => { s with skip := if s.skip = .returning then .nothing else s.skip }
      pure n

def callFunction : Nat → Script → List Bytes → Mode → Run Nat
  | 0, _, _, _ => throw (.ended (.signaled 9))
  | fuel + 1, body, args, mode => do
    let before ← get
    set { before with parameters := args, loops := 0, letter := 0 }
    afterwards (do
      let _ ← evaluate fuel body mode.inner
      pure (← get).status) fun s =>
        { s with
          parameters := before.parameters
          loops := before.loops
          letter := before.letter
          skip := if s.skip = .returning then .nothing else s.skip }

def external : Nat → List Bytes → Bool → Mode → Run Nat
  | 0, _, _, _ => throw (.ended (.signaled 9))
  | fuel + 1, words, standard, mode => do
    let s ← get
    let word := words.headD []
    let path := if standard then standardPath else (s.value? (ofText "PATH")).getD []
    match ← act (locate s.directory path word) with
    | .error r =>
      let (message, status) := notRunnable word r
      warn message
      pure (if word.contains '/' then status else 127)
    | .ok found =>
      if !standard then track word
      let e ← act (launch fuel found (← startOf words))
      if mode.last && s.traps.isEmpty then throw (.ended e)
      settle e

def evaluateText : Nat → Bytes → Mode → Run Nat
  | 0, _, _ => throw (.ended (.signaled 9))
  | fuel + 1, text, mode => units fuel { rest := text } mode false 0

/-- Carries out what is left of a script; `shows` tells whether it is written while it is read. -/
def units : Nat → Reading.Reader → Mode → Bool → Nat → Run Nat
  | 0, _, _, _, _ => throw (.ended (.signaled 9))
  | fuel + 1, reader, mode, shows, status => do
    let s ← get
    match Reading.readUnit.run { reader with documents := s.documents, aliases := s.aliases } with
    | .error f =>
      modify fun s => { s with line := f.line }
      fail f.message
    | .ok (unit, after) =>
      if shows && s.hasOption 'v' then
        let _ ← writeOn 2 (reader.rest.take (reader.rest.length - after.rest.length))
      match unit with
      | none => pure status
      | some script =>
        modify fun s => { s with documents := after.documents }
        let n ← evaluate fuel script mode
        let status := match script with
          | .nothing => status
          | _ => n
        if ← skips then pure status else units fuel after mode shows status

def launch : Nat → Bytes → Start → StateM World ExitStatus
  | 0, _, _ => pure (.signaled 9)
  | fuel + 1, name, start => do
    match String.ofList name with
    | "sh" | "dash" | "bash" => shell fuel start
    | "env" => env (launch fuel) start
    | "xargs" => xargs (launch fuel) start
    | "timeout" => timeout (launch fuel) start
    | "nice" => nice (launch fuel) start
    | "nohup" => leading (launch fuel) [] 125 start
    | "setsid" => leading (launch fuel) [] 1 start
    | "stdbuf" =>
      leading (launch fuel) [('i', .argument), ('o', .argument), ('e', .argument)] 125 start
    | "printenv" => do pure (.exited (← printenv start))
    | "sleep" => do pure (.exited (← sleep start))
    | "sed" => do pure (.exited (← Edit.program (editCommand fuel) start))
    | name =>
      match Programs.table.lookup name with
      | some program => do pure (.exited (← Programs.checked (name == "cat") program start))
      | none => pure (.exited 127)

def editCommand : Nat → Bytes → Effect Bytes
  | 0, _ => pure []
  | fuel + 1, text => do
    let here ← read
    let number ← newChannel (.sink [])
    let _ ← launch fuel (ofText "sh") { here with
      name := ofText "sh"
      arguments := [ofText "-c", text]
      descriptors := (1, number) :: here.descriptors.filter (·.1 != 1) }
    contentOf number

def shell : Nat → Start → StateM World ExitStatus
  | 0, _ => pure (.signaled 9)
  | fuel + 1, start => do
    let w ← get
    let own := w.nextProcess
    set { w with nextProcess := own + 1, running := own :: w.running }
    let (e, _) ← (conclude fuel (script fuel start.arguments)).run (Session.ofStart start own)
    modify fun w => { w with running := w.running.filter (· != own) }
    pure e

def script : Nat → List Bytes → Run Unit
  | 0, _ => pure ()
  | fuel + 1, args => do
    let (isText, operands) ← Builtin.startOptions args
    match isText, operands with
    | true, [] => fail (ofText "-c requires an argument")
    | true, text :: rest =>
      match rest with
      | name :: parameters =>
        modify fun s => { s with name := name, zeroth := name, parameters := parameters }
      | [] => pure ()
      let n ← evaluateText fuel text {}
      setStatus n
      if (← get).hasOption 's' then fromInput fuel
    | false, operands =>
      if (← get).hasOption 's' ∨ operands.isEmpty then
        modify fun s => { s with
          parameters := operands
          options := if s.hasOption 's' then s.options else 's' :: s.options }
        fromInput fuel
      else
        let path := operands.headD []
        let number ← openPath path .read
        modify fun s => { s with name := path, zeroth := path, parameters := operands.drop 1 }
        let text := match ← act (readAll number) with
          | .ok cs => cs
          | .error _ => []
        let n ← units fuel { rest := text } {} true 0
        setStatus n

def fromInput : Nat → Run Unit
  | 0 => pure ()
  | fuel + 1 => do
    let text ← match (← get).descriptors.lookup 0 with
      | none => pure []
      | some number => do
        match ← act (readAll number) with
        | .ok cs => pure cs
        | .error _ => pure []
    let n ← units fuel { rest := text } {} true (← get).status
    setStatus n

end

end LazyBundle.Shell
