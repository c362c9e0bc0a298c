import LazyBundle.Shell.Copy
import LazyBundle.Shell.Session

/-!
# Programs that start others

Programs that change something about the surroundings of another one, or feed it
its arguments. A launcher starts what they are given.
-/

namespace LazyBundle.Shell.Launch

open Effect

abbrev Launcher := Bytes → Start → StateM World ExitStatus

/-- A program that may end by a signal. -/
abbrev Outer := ReaderT Start (StateM World) ExitStatus

def status (n : Nat) : ExitStatus := .exited n

def start (launch : Launcher) (words : List Bytes) (environment : List (Bytes × Bytes))
    (change : Start → Start := id) : Effect (Except Refusal ExitStatus) := do
  let here ← read
  let name := words.headD []
  let path := (environment.lookup (ofText "PATH")).getD (ofText "/bin:/usr/bin")
  match ← locate here.directory path name with
  | .error r => pure (.error r)
  | .ok found =>
    let inner := change { here with
      name := name
      arguments := words.drop 1
      environment := environment }
    return .ok (← launch found inner)

def refusalStatus (r : Refusal) : Nat :=
  if r = .noEntry then 127 else 126

def quotedName (name : Bytes) : Bytes := quoted name

def refused (front name : Bytes) (r : Refusal) : Effect ExitStatus := do
  complain (front ++ quotedName name ++ [':', ' '] ++ r.message)
  pure (status (refusalStatus r))

def become (launch : Launcher) (front : Bytes) (words : List Bytes)
    (environment : List (Bytes × Bytes)) (change : Start → Start := id) : Outer := do
  match ← start launch words environment change with
  | .ok e => pure e
  | .error r => refused front (words.headD []) r

/-! ## Surroundings -/

def withValue (environment : List (Bytes × Bytes)) (name value : Bytes) : List (Bytes × Bytes) :=
  if environment.any (·.1 == name) then
    environment.map fun e => if e.1 = name then (name, value) else e
  else environment ++ [(name, value)]

def envOptions : OptionTable where
  letters := [('i', .nothing), ('0', .nothing), ('v', .nothing), ('u', .argument), ('C', .argument),
    ('S', .argument)]
  names := [("ignore-environment", .nothing, 'i'), ("null", .nothing, '0'), ("unset", .argument, 'u'),
    ("chdir", .argument, 'C'), ("split-string", .argument, 'S'), ("debug", .nothing, 'v')]
  anywhere := false

def wordsOf (cs : Bytes) : List Bytes :=
  (cs.foldr (fun c words =>
    if isSpace c then [] :: words
    else match words with
      | [] => [[c]]
      | w :: ws => (c :: w) :: ws) [[]]).filter (!·.isEmpty)

def env (launch : Launcher) : Outer := do
  let here ← read
  match envOptions.read here.arguments with
  | .error f => return status (← misused 125 f.message)
  | .ok chosen =>
    let operands := (chosen.all 'S').flatMap wordsOf ++ chosen.operands
    let (bare, operands) := match operands with
      | ['-'] :: rest => (true, rest)
      | operands => (false, operands)
    let kept := if bare || chosen.has 'i' then [] else here.environment
    let kept := (chosen.all 'u').foldl (fun kept name => kept.filter (·.1 != name)) kept
    let given := operands.takeWhile (·.contains '=')
    let words := operands.drop given.length
    let environment := given.foldl (fun e text =>
      let name := text.takeWhile (· != '=')
      withValue e name (text.drop (name.length + 1))) kept
    let directory := (chosen.last? 'C').map (Place.resolve here.directory)
    if chosen.has '0' && !words.isEmpty then
      return status (← misused 125 (ofText "cannot specify --null (-0) with command"))
    match words, directory with
    | [], some _ =>
      return status (← misused 125 (ofText "must specify command with --chdir (-C)"))
    | [], none =>
      let mark := if chosen.has '0' then '\x00' else '\n'
      put (environment.flatMap fun (name, value) => name ++ '=' :: value ++ [mark])
      pure (status 0)
    | words, directory =>
      match directory with
      | some place =>
        match (← get).place? place with
        | .ok .directory =>
          become launch [] words environment fun s => { s with directory := place }
        | .ok _ | .error _ =>
          complain (ofText "cannot change directory to " ++ quoted ((chosen.last? 'C').getD []) ++
            ofText ": No such file or directory")
          pure (status 125)
      | none =>
        match ← start launch words environment with
        | .ok e => pure e
        | .error r =>
          let e ← refused [] (words.headD []) r
          if r = .noEntry ∧ (words.headD []).any isSpace then
            complain (ofText "use -[v]S to pass options in shebang lines")
          pure e

def printenv : Program :=
  Copy.withOptions { letters := [('0', .nothing)], anywhere := false } 2 fun chosen => do
    let environment := (← read).environment
    let mark := if chosen.has '0' then '\x00' else '\n'
    if chosen.operands.isEmpty then
      put (environment.flatMap fun (name, value) => name ++ '=' :: value ++ [mark])
      pure 0
    else
      let found := chosen.operands.filterMap fun n => environment.lookup n
      put (found.flatMap (· ++ [mark]))
      pure (if found.length = chosen.operands.length then 0 else 1)

/-! ## Time -/

def interval? (text : Bytes) : Option Nat :=
  let whole := text.takeWhile Char.isDigit
  let rest := text.drop whole.length
  let (fraction, rest) := match rest with
    | '.' :: more => (more.takeWhile Char.isDigit, more.dropWhile Char.isDigit)
    | rest => ([], rest)
  let unit : Option Nat := match rest with
    | [] | ['s'] => some 1
    | ['m'] => some 60
    | ['h'] => some 3600
    | ['d'] => some 86400
    | _ => none
  if whole.isEmpty ∧ fraction.isEmpty then none
  else unit.map fun u =>
    (takeNumber 10 whole).1 * u * Nat.pow 10 9 + (takeNumber 10 (fraction.take 9)).1 * u * Nat.pow 10 (9 - (fraction.take 9).length)

def pass (time : Nat) : Effect Unit := modify fun w => World.catchUp { w with clock := w.clock + time }

def sleep : Program := Copy.withOptions { letters := [] } 1 fun chosen => do
  if (← read).arguments.isEmpty then misused 1 (ofText "missing operand")
  else
    for o in chosen.operands do
      if (interval? o).isNone then complain (ofText "invalid time interval " ++ quoted o)
    match chosen.operands.mapM interval? with
    | some times =>
      pass (times.foldr (· + ·) 0)
      pure 0
    | none =>
      warn (ofText "Try '" ++ (← read).name ++ ofText " --help' for more information.")
      pure 1

def timeout (launch : Launcher) : Outer := do
  let here ← read
  let table : OptionTable := {
    letters := [('s', .argument), ('k', .argument), ('v', .nothing)]
    names := [("signal", .argument, 's'), ("kill-after", .argument, 'k'),
      ("foreground", .nothing, 'f'), ("preserve-status", .nothing, 'p'), ("verbose", .nothing, 'v')]
    anywhere := false }
  match table.read here.arguments with
  | .error f => return status (← misused 125 f.message)
  | .ok chosen =>
    match chosen.operands with
    | limit :: word :: words =>
      match interval? limit with
      | none => return status (← misused 125 (ofText "invalid time interval " ++ quoted limit))
      | some time =>
        let begun := (← get).clock
        let e ← become launch (ofText "failed to run command ") (word :: words) here.environment
        let ended := (← get).clock
        if 0 < time ∧ begun + time < ended then
          modify fun w => { w with clock := begun + time }
          pure (status 124)
        else pure (status (Run.statusOf e))
    | _ =>
      warn (ofText "Try '" ++ here.name ++ ofText " --help' for more information.")
      pure (status 125)

/-- Starts a program behind options that change nothing that it can see. -/
def leading (launch : Launcher) (letters : List (Char × Need)) (failure : Nat) : Outer := do
  let here ← read
  match ({ letters := letters, anywhere := false } : OptionTable).read here.arguments with
  | .error f => return status (← misused failure f.message)
  | .ok chosen =>
    match chosen.operands with
    | [] => return status (← misused failure (ofText "missing operand"))
    | words => become launch (ofText "failed to run command ") words here.environment

def nice (launch : Launcher) : Outer := do
  let here ← read
  match ({ letters := [('n', .argument)], anywhere := false } : OptionTable).read here.arguments with
  | .error f => return status (← misused 125 f.message)
  | .ok chosen =>
    match chosen.operands with
    | [] =>
      put (ofText "0\n")
      pure (status 0)
    | words => become launch [] words here.environment

/-! ## Arguments from the input -/

namespace Xargs

inductive Fault
  | unmatched (quote : Char)

/-- Words between blanks; quotes and backslashes take the meaning from blanks. Each word tells
whether its line goes on behind it. -/
def readWords (blanks : Bool) : Nat → Option Bytes → Bytes → Except Fault (List (Bytes × Bool))
  | 0, _, _ => .ok []
  | fuel + 1, current, cs =>
    let close (ends : Bool) : List (Bytes × Bool) := match current with
      | some w => [(w.reverse, !ends)]
      | none => []
    let add (c : Char) : Option Bytes := some (c :: current.getD [])
    match cs with
    | [] => .ok (close true)
    | '\n' :: rest => do return close true ++ (← readWords blanks fuel none rest)
    | '\\' :: c :: rest => readWords blanks fuel (add c) rest
    | c :: rest =>
      if c = '\'' ∨ c = '"' then
        let inner := rest.takeWhile (· != c)
        match rest.drop inner.length with
        | _ :: behind =>
          if inner.contains '\n' then .error (.unmatched c)
          else readWords blanks fuel (some (inner.reverse ++ current.getD [])) behind
        | [] => .error (.unmatched c)
      else if blanks ∧ (c = ' ' ∨ c = '\t') then do
        return close false ++ (← readWords blanks fuel none rest)
      else if !blanks ∧ current.isNone ∧ (c = ' ' ∨ c = '\t') then readWords blanks fuel none rest
      else readWords blanks fuel (add c) rest

/-- Words in groups of at most so many. -/
def groups {α : Type} (most : Nat) : Nat → List α → List (List α)
  | 0, _ => []
  | _, [] => []
  | fuel + 1, xs => xs.take most :: groups most fuel (xs.drop most)

/-- The words of each line; a line whose words go on is one with the next. -/
def byLines : List (Bytes × Bool) → List (List Bytes)
  | [] => []
  | (w, goesOn) :: rest =>
    match goesOn, byLines rest with
    | true, l :: ls => (w :: l) :: ls
    | _, ls => [w] :: ls

def replaceAll (mark value : Bytes) : Nat → Bytes → Bytes
  | 0, cs => cs
  | _, [] => []
  | fuel + 1, c :: cs =>
    if !mark.isEmpty ∧ mark.isPrefixOf (c :: cs) then
      value ++ replaceAll mark value fuel ((c :: cs).drop mark.length)
    else c :: replaceAll mark value fuel cs

end Xargs

open Xargs in
def xargs (launch : Launcher) : Outer := do
  let here ← read
  let table : OptionTable := {
    letters := [('0', .nothing), ('r', .nothing), ('t', .nothing), ('x', .nothing), ('p', .nothing),
      ('n', .argument), ('I', .argument), ('d', .argument), ('L', .argument), ('P', .argument),
      ('s', .argument), ('E', .argument), ('a', .argument), ('i', .joined)]
    names := [("null", .nothing, '0'), ("no-run-if-empty", .nothing, 'r'), ("verbose", .nothing, 't'),
      ("max-args", .argument, 'n'), ("replace", .joined, 'i'), ("delimiter", .argument, 'd'),
      ("max-lines", .argument, 'L'), ("max-procs", .argument, 'P')]
    anywhere := false }
  match table.read here.arguments with
  | .error f => return status (← misused 1 f.message)
  | .ok chosen =>
    let replaced := (chosen.last? 'I').or ((chosen.last? 'i').map fun t => if t.isEmpty then ofText "\x7b\x7d" else t)
    let command := if chosen.operands.isEmpty then [ofText "echo"] else chosen.operands
    let text := match ← input with
      | .ok cs => cs
      | .error _ => []
    let apart (mark : Char) : List (Bytes × Bool) :=
      (splitAfter mark text).map fun p => (if p.getLast? = some mark then p.dropLast else p, false)
    let separated : Except Fault (List (Bytes × Bool)) :=
      if chosen.has '0' then .ok (apart '\x00')
      else match chosen.last? 'd' with
        | some ['\\', c] => .ok (apart ((controlLetters.lookup c).getD c))
        | some (c :: _) => .ok (apart c)
        | _ => readWords replaced.isNone (2 * text.length + 2) none text
    match separated with
    | .error (.unmatched quote) =>
      return status (← giveUp 1 (ofText (if quote = '"' then "unmatched double" else "unmatched single") ++
        ofText " quote; by default quotes are special to xargs unless you use the -0 option"))
    | .ok words =>
      let count := (chosen.last? 'n').bind digits?
      let lineCount := (chosen.last? 'L').bind digits?
      let plain := words.map (·.1)
      let calls : List (List Bytes) := match replaced, lineCount, count with
        | some mark, _, _ =>
          plain.map fun w => command.map fun a => replaceAll mark w (a.length + 1) a
        | none, some n, _ =>
          (groups (max n 1) plain.length (byLines words)).map fun ls => command ++ ls.flatten
        | none, none, some n => (groups (max n 1) plain.length plain).map (command ++ ·)
        | none, none, none => if plain.isEmpty then [] else [command ++ plain]
      let calls := if calls.isEmpty ∧ replaced.isNone ∧ !chosen.has 'r' then [command] else calls
      let nothing ← newChannel (.source [])
      let mut result := 0
      for words in calls do
        if chosen.has 't' then warn (joinWords words)
        let outcome ← start launch words here.environment fun s =>
          { s with descriptors := (0, nothing) :: s.descriptors.filter (·.1 != 0) }
        match outcome with
        | .error r =>
          complain (words.headD [] ++ [':', ' '] ++ r.message)
          return status (refusalStatus r)
        | .ok (.exited 0) => pure ()
        | .ok (.exited 255) =>
          complain (words.headD [] ++ ofText ": exited with status 255; aborting")
          return status 124
        | .ok (.exited _) => result := 123
        | .ok (.signaled n) =>
          complain (words.headD [] ++ ofText ": terminated by signal " ++ decimal n)
          return status 125
      pure (status result)

end LazyBundle.Shell.Launch
