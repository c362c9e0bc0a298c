import LazyBundle.Shell.Condition
import LazyBundle.Shell.Expand
import LazyBundle.Shell.Print

/-!
# Built-in commands

The commands that a shell carries out itself and that run no other ones.
-/

namespace LazyBundle.Shell.Builtin

open Run

structure Traits where
  /-- Faults in it end the script, and what is assigned in front of it stays. -/
  isSpecial : Bool := false
  /-- It comes before functions are looked for. -/
  isRegular : Bool := false
  /-- Its arguments may be assignments. -/
  assigns : Bool := false
deriving Repr

def special : Traits := { isSpecial := true, isRegular := true }

def regular : Traits := { isRegular := true }

def traits : List (String × Traits) := [
  (".", special), (":", special), ("break", special), ("continue", special), ("eval", special),
  ("exec", special), ("exit", special), ("return", special), ("set", special), ("shift", special),
  ("times", special), ("trap", special), ("unset", special),
  ("export", { special with assigns := true }), ("readonly", { special with assigns := true }),
  ("local", { special with assigns := true }),
  ("alias", { regular with assigns := true }), ("bg", regular), ("cd", regular), ("chdir", regular),
  ("command", regular), ("false", regular), ("fg", regular), ("getopts", regular), ("hash", regular),
  ("jobs", regular), ("kill", regular), ("pwd", regular), ("read", regular), ("true", regular),
  ("type", regular), ("ulimit", regular), ("umask", regular), ("unalias", regular), ("wait", regular),
  ("echo", {}), ("printf", {}), ("test", {}), ("[", {})]

def traits? (name : Bytes) : Option Traits :=
  (traits.find? fun e => ofText e.1 == name).map (·.2)

def say (bytes : Bytes) : Run Nat := do
  if bytes.isEmpty then pure 0
  else
    match ← writeOn 1 bytes with
    | .ok () => pure 0
    | .error _ =>
      warn ((← get).context.getD [] ++ ofText ": I/O error")
      pure 1

/-- Reads options of one letter; those in front of a colon take an argument. -/
def options (known : Bytes) : Nat → List Bytes → Run (List (Char × Bytes) × List Bytes)
  | 0, args => pure ([], args)
  | fuel + 1, args =>
    match args with
    | ['-', '-'] :: rest => pure ([], rest)
    | ('-' :: c :: cs) :: rest => do
      if c = ':' ∨ !known.contains c then fail (ofText "Illegal option -" ++ [c])
      let takes := (known.dropWhile (· != c)).drop 1 |>.head? |> (· == some ':')
      if takes then
        match cs, rest with
        | [], [] => fail (ofText "No arg for -" ++ c :: ofText " option")
        | [], argument :: rest =>
          let (more, rest) ← options known fuel rest
          pure ((c, argument) :: more, rest)
        | argument, rest =>
          let (more, rest) ← options known fuel rest
          pure ((c, argument) :: more, rest)
      else
        let (more, rest) ← options known fuel (if cs.isEmpty then rest else ('-' :: cs) :: rest)
        pure ((c, []) :: more, rest)
    | args => pure ([], args)

def optionsOf (known : String) (args : List Bytes) : Run (List (Char × Bytes) × List Bytes) :=
  options known.toList ((args.map List.length).foldr (· + ·) 0 + args.length + 1) args

/-! ## Texts -/

def singleQuoted (cs : Bytes) : Bytes :=
  go (cs.length + 1) cs
where
  go : Nat → Bytes → Bytes
    | 0, _ => []
    | fuel + 1, cs =>
      let front := cs.takeWhile (· != '\'')
      let rest := cs.drop front.length
      let quotes := rest.takeWhile (· == '\'')
      let first := '\'' :: front ++ ['\'']
      if quotes.isEmpty then first
      else
        let behind := rest.drop quotes.length
        let quoted := '"' :: quotes ++ ['"']
        if behind.isEmpty then first ++ quoted ++ ['\'', '\''] else first ++ quoted ++ go fuel behind

def echo (args : List Bytes) : Run Nat := say (Print.echoInside args)

def printf (args : List Bytes) : Run Nat := do
  let (_, args) ← optionsOf "" args
  match args with
  | [] => fail (ofText "usage: printf format [arg ...]")
  | format :: args =>
    let (pieces, status) := Print.formatted .inside format args
    let mut failed := 0
    for piece in pieces do
      match piece with
      | .text cs => failed := max failed (← say cs)
      | .note message => warn message
    pure (max status failed)

def test (bracketed : Bool) (args : List Bytes) : Run Nat := do
  let s ← get
  let w ← act get
  let probe := Condition.probeFrom
    { name := [], descriptors := s.descriptors, directory := s.directory } w
  match Condition.inside probe bracketed args with
  | .ok true => pure 0
  | .ok false => pure 1
  | .error f => fail f.message

/-! ## Variables -/

def listing (front : Bytes) (shows : Variable → Bool) : Run Bytes := do
  let s ← get
  let shown := (s.bindings.filter fun e => shows e.2).mergeSort fun a b => notAfter a.1 b.1
  pure (shown.flatMap fun (name, v) =>
    match v.value with
    | some value => front ++ name ++ '=' :: singleQuoted value ++ ['\n']
    | none => if front.isEmpty then [] else front ++ name ++ ['\n'])

def nameAndValue (arg : Bytes) : Bytes × Option Bytes :=
  let name := arg.takeWhile (· != '=')
  match arg.drop name.length with
  | '=' :: value => (name, some value)
  | _ => (name, none)

/-- Marks variables, which may get values too. -/
def mark (front : String) (shows : Variable → Bool) (change : Variable → Variable)
    (args : List Bytes) : Run Nat := do
  let (chosen, operands) ← optionsOf "p" args
  if !chosen.isEmpty ∨ operands.isEmpty then say (← listing (ofText front) shows)
  else do
    for arg in operands do
      let (name, value) := nameAndValue arg
      checkName name
      match value with
      | some value => setVariable name value
      | none => pure ()
      modify fun s => s.put name (change ((s.held? name).getD {}))
    pure 0

def exportNames : List Bytes → Run Nat :=
  mark "export " (·.isExported) fun v => { v with isExported := true }

def fixNames : List Bytes → Run Nat :=
  mark "readonly " (·.isFixed) fun v => { v with isFixed := true }

def localNames (args : List Bytes) : Run Nat := do
  if (← get).hidden.isEmpty then fail (ofText "not in a function")
  for arg in args do
    if arg = Session.optionsName then
      modify fun s =>
        match s.hidden with
        | frame :: frames =>
          { s with hidden := ((Session.optionsName, some { value := some s.options }) :: frame) :: frames }
        | [] => s
    else
      let (name, value) := nameAndValue arg
      checkName name
      hide name
      match value with
      | some value => setVariable name value
      | none =>
        modify fun s => if (s.held? name).isSome then s else s.put name {}
  pure 0

def unset (args : List Bytes) : Run Nat := do
  let (chosen, names) ← optionsOf "fv" args
  let functions := (chosen.getLast?.map (·.1)) = some 'f'
  for name in names do
    if functions then modify fun s => { s with functions := s.functions.filter (·.1 != name) }
    else
      checkName name
      dropVariable name
  pure 0

/-! ## Options of the shell -/

def optionNames : List (String × Char) := [
  ("errexit", 'e'), ("noglob", 'f'), ("ignoreeof", 'I'), ("interactive", 'i'), ("monitor", 'm'),
  ("noexec", 'n'), ("stdin", 's'), ("xtrace", 'x'), ("verbose", 'v'), ("vi", 'V'), ("emacs", 'E'),
  ("noclobber", 'C'), ("allexport", 'a'), ("notify", 'b'), ("nounset", 'u'), ("privileged", 'p'),
  ("nolog", '\x01'), ("debug", '\x02')]

def setOption (letter : Char) (on : Bool) : Run Unit := do
  if !(optionNames.any (·.2 == letter)) then fail (ofText "Illegal option -" ++ [letter])
  modify fun s =>
    let others := s.options.filter (· != letter)
    { s with options := if on then letter :: others else others }

def setNamedOption (name : Bytes) (on : Bool) : Run Unit := do
  match optionNames.find? fun e => ofText e.1 == name with
  | some (_, letter) => setOption letter on
  | none => fail (ofText "Illegal option -o " ++ name)

def optionList (on : Bool) : Run Nat := do
  let s ← get
  let state (e : String × Char) : Bytes :=
    if on then padRight 16 (ofText e.1) ++ ofText (if s.hasOption e.2 then "on" else "off")
    else ofText ((if s.hasOption e.2 then "set -o " else "set +o ") ++ e.1)
  say ((if on then ofText "Current option settings\n" else []) ++
    optionNames.flatMap fun e => state e ++ ['\n'])

/-- Reads options of the shell and gives what is left of the words; none if nothing was left. -/
def readOptions : Nat → List Bytes → Run (Option (List Bytes))
  | 0, args => pure (some args)
  | fuel + 1, args =>
    match args with
    | ['-'] :: rest => do
      modify fun s => { s with options := s.options.filter fun c => c != 'x' && c != 'v' }
      pure (if rest.isEmpty then none else some rest)
    | ['-', '-'] :: rest => pure (some rest)
    | (sign :: letters) :: rest => do
      if sign ≠ '-' ∧ sign ≠ '+' then return some args
      let on := sign == '-'
      let rest ← flags on letters rest
      let more ← readOptions fuel rest
      pure more
    | _ => pure (if args.isEmpty then none else some args)
where
  flags (on : Bool) : Bytes → List Bytes → Run (List Bytes)
    | [], rest => pure rest
    | 'o' :: cs, rest =>
      match rest with
      | [] => do
        let _ ← optionList on
        flags on cs []
      | name :: rest => do
        setNamedOption name on
        flags on cs rest
    | c :: cs, rest => do
      setOption c on
      flags on cs rest

def startOptions : List Bytes → Run (Bool × List Bytes)
  | [] => pure (false, [])
  | arg :: rest => do
    match arg with
    | ['-'] | ['-', '-'] => pure (false, rest)
    | sign :: letters =>
      if sign ≠ '-' ∧ sign ≠ '+' then return (false, arg :: rest)
      let (isText, names) ← flags (sign == '-') letters rest.length
      let names := min names rest.length
      for name in rest.take names do
        setNamedOption name (sign == '-')
      let (more, operands) ← skipNames names rest
      pure (isText || more, operands)
    | [] => pure (false, arg :: rest)
where
  /-- The options of one word, and how many names of others they ask for. -/
  flags (on : Bool) : Bytes → Nat → Run (Bool × Nat)
    | [], _ => pure (false, 0)
    | c :: cs, left => do
      if c ≠ 'c' ∧ c ≠ 'o' ∧ c ≠ 'l' then setOption c on
      let (isText, names) ← flags on cs left
      pure (isText || c == 'c', if c = 'o' then names + 1 else names)
  skipNames : Nat → List Bytes → Run (Bool × List Bytes)
    | 0, rest => startOptions rest
    | _ + 1, [] => pure (false, [])
    | n + 1, _ :: rest => skipNames n rest

def setWords (args : List Bytes) : Run Nat := do
  match args with
  | [] => say (← listing [] fun v => v.value.isSome)
  | args =>
    match ← readOptions (args.length + 1) args with
    | some words => modify fun s => { s with parameters := words, letter := 0 }
    | none => pure ()
    pure 0

def shift (args : List Bytes) : Run Nat := do
  let n ← match args with
    | a :: _ => number a
    | [] => pure 1
  let s ← get
  if s.parameters.length < n then fail (ofText "can't shift that many")
  set { s with parameters := s.parameters.drop n, letter := 0 }
  pure 0

/-! ## Ways out -/

def leaveLoops (skip : Nat → Skip) (args : List Bytes) : Run Nat := do
  let n ← match args with
    | a :: _ => do
      let n ← number a
      if n = 0 then notNumber a
      pure n
    | [] => pure 1
  let loops := min n (← get).loops
  if 0 < loops then modify fun s => { s with skip := skip loops }
  pure 0

def leaveFunction (args : List Bytes) : Run Nat := do
  let n ← match args with
    | a :: _ => number a
    | [] => do pure (← get).status
  modify fun s => { s with skip := .returning }
  pure n

def exitShell (args : List Bytes) : Run Nat := do
  match args with
  | a :: _ =>
    let n ← number a
    modify fun s => { s with settled := some n }
  | [] => pure ()
  throw .exit

/-! ## Reading -/

/-- Reads a line; a backslash takes the meaning from the character behind it, unless the line is
read as it stands. Tells whether the line was ended. -/
def lineItems (raw : Bool) (number : Nat) : Nat → Run (List Item × Bool)
  | 0 => pure ([], false)
  | fuel + 1 => do
    match ← act (readSome number 1) with
    | .ok ['\n'] => pure ([], true)
    | .ok ['\x00'] => lineItems raw number fuel
    | .ok ['\\'] =>
      if raw then
        let (more, ended) ← lineItems raw number fuel
        pure (.char '\\' false :: more, ended)
      else
        match ← act (readSome number 1) with
        | .ok ['\n'] => lineItems raw number fuel
        | .ok [c] =>
          let (more, ended) ← lineItems raw number fuel
          pure (.closes :: .char c true :: .opens false :: more, ended)
        | _ => pure ([], false)
    | .ok [c] =>
      let (more, ended) ← lineItems raw number fuel
      pure (.char c false :: more, ended)
    | _ => pure ([], false)

def readLine (args : List Bytes) : Run Nat := do
  let (chosen, names) ← optionsOf "p:r" args
  if names.isEmpty then fail (ofText "arg count")
  let s ← get
  let (items, ended) ← match s.descriptors.lookup 0 with
    | none => pure ([], false)
    | some number => do
      let size ← act (channelSize number)
      lineItems (chosen.any (·.1 == 'r')) number (size + 1)
  let fields := Splitting.fields s.separators (some names.length)
    (.opens false :: items ++ [.closes])
  for (name, i) in names.zipIdx do
    checkName name
    setVariable name ((fields[i]?.map Field.text).getD [])
  pure (if ended then 0 else 1)

/-! ## Directories -/

def changeDirectory (args : List Bytes) : Run Nat := do
  let (_, operands) ← optionsOf "LP" args
  let s ← get
  let named (name : String) : Option Bytes := s.value? (ofText name)
  let target : Option Bytes := match operands with
    | [] => named "HOME"
    | ['-'] :: _ => named "OLDPWD"
    | d :: _ => some d
  let path := target.getD []
  let old := (named "PWD").getD (Place.text s.directory)
  let place := Place.resolve s.directory path
  match (← act get).place? place with
  | .ok .directory =>
    modify fun s => { s with directory := place }
    setVariable (ofText "OLDPWD") old true
    setVariable (ofText "PWD") (Place.text place) true
    if operands.head? = some ['-'] then say (Place.text place ++ ['\n']) else pure 0
  | _ => fail (ofText "can't cd to " ++ path)

def printDirectory (args : List Bytes) : Run Nat := do
  let _ ← optionsOf "LP" args
  let s ← get
  say (Place.text s.directory ++ ['\n'])

/-! ## Signals -/

def killUsage : Bytes :=
  ofText "Usage: kill [-s sigspec | -signum | -sigspec] [pid | job]... or\nkill -l [exitstatus]"

def signalNameOf (n : Nat) : Bytes :=
  if n = 16 ∨ n = 32 ∨ n = 33 then decimal n
  else if n < 34 then signalName n
  else if n = 34 then ofText "RTMIN"
  else if n < 50 then ofText "RTMIN+" ++ decimal (n - 34)
  else if n < 64 then ofText "RTMAX-" ++ decimal (64 - n)
  else ofText "RTMAX"

/-- Sends a signal; a process in the background that is not over yet ends by it. -/
def send (signal process : Nat) : Run Bool := do
  let s ← get
  let w ← act get
  if process ∈ w.running then
    if signal ≠ 0 then
      act (modify fun w => { w with signals := w.signals ++ [(process, signal)] })
    pure true
  else if s.background.any (·.process == process) then
    let hit (b : Background) : Background :=
      if b.process = process ∧ w.clock < b.time ∧ !isHarmless signal then
        { b with status := .signaled signal, time := w.clock }
      else b
    modify fun s => { s with background := s.background.map hit }
    pure true
  else pure false

def kill (args : List Bytes) : Run Nat := do
  let usage : Run Unit := fail killUsage
  let mut signal : Option Nat := none
  let mut lists := false
  let mut targets := args
  match args with
  | [] => usage
  | ('-' :: name) :: rest =>
    match (if name.isEmpty then none else if digits? name = some 0 then some 0 else signal? name) with
    | some n =>
      signal := some n
      targets := rest
    | none =>
      let (chosen, operands) ← optionsOf "ls:" args
      for (letter, argument) in chosen do
        if letter = 'l' then lists := true
        else
          match signal? argument with
          | some n => signal := some n
          | none => fail (ofText "invalid signal number or name: " ++ argument)
      targets := operands
  | _ => pure ()
  if lists then
    if signal.isSome then usage
    match targets with
    | [] =>
      let names := (List.range 64).map fun n => signalNameOf (n + 1) ++ ['\n']
      say ('0' :: '\n' :: names.flatten)
    | t :: _ =>
      let n ← number t
      let n := if 128 < n then n - 128 else n
      if 0 < n ∧ n < 65 then say (signalNameOf n ++ ['\n'])
      else fail (ofText "invalid signal number or exit status: " ++ t)
  else
    if targets.isEmpty then usage
    let mut status := 0
    for t in targets do
      let process ← match t with
        | '%' :: _ => do
          match (← get).background with
          | b :: _ => pure b.process
          | [] => fail (ofText "No such job: " ++ t)
        | '-' :: digits => number digits
        | t => number t
      if !(← send (signal.getD 15) process) then
        warn (ofText "No such process\n")
        status := 1
    pure status

def trap (args : List Bytes) : Run Nat := do
  let (_, operands) ← optionsOf "" args
  let s ← get
  match operands with
  | [] =>
    let sorted := s.traps.mergeSort fun a b => a.1 ≤ b.1
    say (sorted.flatMap fun (n, action) =>
      ofText "trap -- " ++ singleQuoted action ++ ' ' :: signalName n ++ ['\n'])
  | a :: rest =>
    let (action, signals) : Option Bytes × List Bytes :=
      if rest.isEmpty || ((digits? a).map fun n => decide (n < 65)).getD false then (none, a :: rest)
      else if a = ['-'] then (none, rest)
      else (some a, rest)
    for word in signals do
      match signal? word with
      | none =>
        warnPlain (ofText "trap: " ++ word ++ ofText ": bad trap")
        return 1
      | some n =>
        modify fun s =>
          let others := s.traps.filter (·.1 != n)
          { s with traps := match action with
              | some action => (n, action) :: others
              | none => others }
    pure 0

/-! ## Options of scripts -/

def optionUsage : Bytes := ofText "Usage: getopts optstring var [arg...]"

def nextOption (args : List Bytes) : Run Nat := do
  match args with
  | known :: name :: given =>
    let s ← get
    let words := if given.isEmpty then s.parameters else given
    let index := ((s.value? (ofText "OPTIND")).bind digits?).getD 1
    let index := if index = 0 ∨ words.length + 1 < index then 1 else index
    let silent := known.head? = some ':'
    let report (c : Char) (value : Option Bytes) (index letter : Nat) (status : Nat) : Run Nat := do
      match value with
      | some value => setVariable (ofText "OPTARG") value
      | none => dropVariable (ofText "OPTARG")
      setVariable (ofText "OPTIND") (decimal index)
      checkName name
      setVariable name [c]
      modify fun s => { s with letter := letter }
      pure status
    let exhausted (index : Nat) : Run Nat := do
      setVariable (ofText "OPTIND") (decimal index)
      checkName name
      setVariable name ['?']
      pure 1
    -- The letters that are left of a word, and the index of the word behind it.
    let begun : Bytes := if 0 < s.letter ∧ 1 < index then (words.getD (index - 2) []).drop s.letter else []
    let fresh : Option (Bytes × Nat) := match words[index - 1]? with
      | some ('-' :: c :: cs) => some (c :: cs, index + 1)
      | _ => none
    match (if begun.isEmpty then fresh else some (begun, index)) with
    | none => exhausted index
    | some (letters, index) =>
      if begun.isEmpty ∧ letters = ['-'] then exhausted index
      else
        let c := letters.headD ' '
        let rest := letters.drop 1
        let word := words.getD (index - 2) []
        let offset := if rest.isEmpty then 0 else word.length - rest.length
        if c = ':' ∨ !known.contains c then
          if silent then report '?' (some [c]) index offset 0
          else
            warnPlain (ofText "Illegal option -" ++ [c])
            report '?' none index offset 0
        else if ((known.dropWhile (· != c)).drop 1).head? = some ':' then
          if !rest.isEmpty then report c (some rest) index 0 0
          else
            match words[index - 1]? with
            | some value => report c (some value) (index + 1) 0 0
            | none =>
              if silent then report ':' (some [c]) index 0 0
              else
                warnPlain (ofText "No arg for -" ++ c :: ofText " option")
                report '?' none index 0 0
        else report c (some []) index offset 0
  | _ => fail optionUsage

/-! ## Names of commands -/

def keywordNames : List Bytes := Reading.keywords.map fun e => ofText e.1

def describe (verbose : Bool) (path : Option Bytes) (name : Bytes) : Run Nat := do
  let s ← get
  let front := if verbose then name else []
  let line (text : Bytes) : Run Nat := say (text ++ ['\n'])
  if keywordNames.contains name then line (if verbose then front ++ ofText " is a shell keyword" else name)
  else
    match s.aliases.lookup name with
    | some value =>
      line (if verbose then front ++ ofText " is an alias for " ++ value
        else ofText "alias " ++ name ++ '=' :: singleQuoted value)
    | none =>
      let found (shown : String) : Run Nat :=
        line (if verbose then front ++ ofText shown else name)
      let notFound : Run Nat := do
        let _ ← if verbose then line (front ++ ofText ": not found") else pure 0
        pure 127
      match traits? name, s.functions.lookup name with
      | some t, none =>
        found (if t.isSpecial then " is a special shell builtin" else " is a shell builtin")
      | _, some _ => found " is a shell function"
      | none, none =>
        let path := path.getD ((s.value? (ofText "PATH")).getD [])
        let place : Option Bytes ← if name.contains '/' then
            match ← act (entryAt s.directory name) with
            | .ok _ => pure (some name)
            | .error _ => pure none
          else
            match ← act (search s.directory path name) with
            | .ok found => pure (some found)
            | .error _ => pure none
        let tracked := (s.tracked.lookup name).isSome
        match place with
        | some place =>
          line (if verbose then
              front ++ ofText (if tracked then " is a tracked alias for " else " is ") ++ place
            else place)
        | none => notFound

def type (args : List Bytes) : Run Nat := do
  let mut status := 0
  for name in args do
    status := max status (← describe true none name)
  pure status

/-- What is asked of the command that runs others when it runs none. -/
def askAbout (args : List Bytes) : Run Nat := do
  let (chosen, operands) ← optionsOf "pvV" args
  match (chosen.filter fun e => e.1 != 'p').getLast?, operands with
  | some (letter, _), name :: _ =>
    describe (letter == 'V') (if chosen.any (·.1 == 'p') then some standardPath else none) name
  | _, _ => pure 0

def hash (args : List Bytes) : Run Nat := do
  let (chosen, names) ← optionsOf "rv" args
  if chosen.any (·.1 == 'r') then
    modify fun s => { s with tracked := [] }
    return 0
  if names.isEmpty then return ← say ((← get).tracked.flatMap fun e => e.2 ++ ['\n'])
  let mut status := 0
  for name in names do
    let s ← get
    if (traits? name).isNone ∧ (s.functions.lookup name).isNone then
      match ← act (search s.directory ((s.value? (ofText "PATH")).getD []) name) with
      | .ok path => modify fun s => s.track name path
      | .error _ =>
        warn (name ++ ofText ": not found")
        status := 1
  pure status

def shownAlias (e : Bytes × Bytes) : Bytes := e.1 ++ '=' :: singleQuoted e.2 ++ ['\n']

def makeAlias (args : List Bytes) : Run Nat := do
  let s ← get
  if args.isEmpty then say (s.aliases.flatMap shownAlias)
  else
    let mut status := 0
    for arg in args do
      match nameAndValue arg with
      | (name, some value) =>
        if name.isEmpty then
          warnPlain (ofText "alias: " ++ arg ++ ofText " not found")
          status := 1
        else
          modify fun s =>
            { s with aliases := s.aliases.filter (·.1 != name) ++ [(name, value)] }
      | (name, none) =>
        match (← get).aliases.lookup name with
        | some value => status := max status (← say (shownAlias (name, value)))
        | none =>
          warnPlain (ofText "alias: " ++ name ++ ofText " not found")
          status := 1
    pure status

def unalias (args : List Bytes) : Run Nat := do
  let (chosen, names) ← optionsOf "a" args
  if !chosen.isEmpty then
    modify fun s => { s with aliases := [] }
    pure 0
  else
    let mut status := 0
    for name in names do
      if ((← get).aliases.lookup name).isNone then
        warnPlain (ofText "unalias: " ++ name ++ ofText " not found")
        status := 1
      modify fun s => { s with aliases := s.aliases.filter (·.1 != name) }
    pure status

/-! ## Processes -/

def wait (args : List Bytes) : Run Nat := do
  let awaited (b : Background) : Run Unit :=
    act (modify fun w => World.catchUp { w with clock := max w.clock b.time })
  match args with
  | [] =>
    for b in (← get).background do
      awaited b
    pure 0
  | args =>
    let mut status := 0
    for arg in args do
      let found : Option Background ← match arg with
        | '%' :: _ => do
          match (← get).background with
          | b :: _ => pure (some b)
          | [] => fail (ofText "No such job: " ++ arg)
        | arg => do
          let n ← number arg
          pure ((← get).background.find? (·.process == n))
      match found with
      | some b =>
        awaited b
        status ← settle b.status
      | none => status := 127
    pure status

def maskText (mask : Nat) : Bytes :=
  joinWith [','] ([('u', 64), ('g', 8), ('o', 1)].map fun (who, unit) =>
    let bits := (mask / unit) % 8
    who :: '=' :: ([('r', 4), ('w', 2), ('x', 1)].filterMap fun (c, bit) =>
      if (bits / bit) % 2 = 0 then some c else none))

def umask (args : List Bytes) : Run Nat := do
  let (chosen, operands) ← optionsOf "S" args
  let s ← get
  match operands with
  | [] =>
    if chosen.isEmpty then say (padLeft '0' 4 (Nat.toDigits 8 s.mask) ++ ['\n'])
    else say (maskText s.mask ++ ['\n'])
  | a :: _ =>
    if a.all isOctal ∧ !a.isEmpty then
      let mask := (takeNumber 8 a).1
      if 511 < mask then notNumber a
      set { s with mask := mask }
      pure 0
    else if (a.head?.map Char.isDigit).getD false then notNumber a
    else pure 0

def ulimit (args : List Bytes) : Run Nat := do
  let _ ← optionsOf "HSatfdscmlpnvwr" args
  say (ofText "unlimited\n")

def jobs (args : List Bytes) : Run Nat := do
  let _ ← optionsOf "lp" args
  pure 0

def resume (args : List Bytes) : Run Nat := do
  match args with
  | [] => fail (ofText "No current job")
  | a :: _ => fail (ofText "No such job: " ++ a)

def times : Run Nat :=
  say (ofText "0m0.000000s 0m0.000000s\n0m0.000000s 0m0.000000s\n")

/-- The commands that need nothing but their arguments. -/
def plain? (name : Bytes) : Option (List Bytes → Run Nat) :=
  match String.ofList name with
  | ":" | "true" => some fun _ => pure 0
  | "false" => some fun _ => pure 1
  | "echo" => some echo
  | "printf" => some printf
  | "test" => some (test false)
  | "[" => some (test true)
  | "export" => some exportNames
  | "readonly" => some fixNames
  | "local" => some localNames
  | "unset" => some unset
  | "set" => some setWords
  | "shift" => some shift
  | "break" => some (leaveLoops .breaking)
  | "continue" => some (leaveLoops .continuing)
  | "return" => some leaveFunction
  | "exit" => some exitShell
  | "read" => some readLine
  | "cd" | "chdir" => some changeDirectory
  | "pwd" => some printDirectory
  | "kill" => some kill
  | "trap" => some trap
  | "getopts" => some nextOption
  | "type" => some type
  | "command" => some askAbout
  | "hash" => some hash
  | "alias" => some makeAlias
  | "unalias" => some unalias
  | "wait" => some wait
  | "umask" => some umask
  | "ulimit" => some ulimit
  | "jobs" => some jobs
  | "fg" | "bg" => some resume
  | "times" => some fun _ => times
  | _ => none

end LazyBundle.Shell.Builtin
