import LazyBundle.Shell.Basic

/-!
# Streams and files

What programs share: streams that are read from the front or written at the
end, and the few files that every program finds, together with those that
programs make while a command runs. A program knows streams by small numbers,
which its table of descriptors leads to.
-/

namespace LazyBundle.Shell

inductive Refusal
  | notPermitted
  | noEntry
  | noProcess
  | badFormat
  | badDescriptor
  | denied
  | present
  | notDirectory
  | isDirectory
  | invalid
  | nameTooLong
  | notEmpty
  | listTooLong
  | noSpace
deriving DecidableEq, Repr

def Refusal.message : Refusal → Bytes
  | notPermitted => ofText "Operation not permitted"
  | noEntry => ofText "No such file or directory"
  | noProcess => ofText "No such process"
  | badFormat => ofText "Exec format error"
  | badDescriptor => ofText "Bad file descriptor"
  | denied => ofText "Permission denied"
  | present => ofText "File exists"
  | notDirectory => ofText "Not a directory"
  | isDirectory => ofText "Is a directory"
  | invalid => ofText "Invalid argument"
  | nameTooLong => ofText "File name too long"
  | notEmpty => ofText "Directory not empty"
  | listTooLong => ofText "Argument list too long"
  | noSpace => ofText "No space left on device"

/-! ## Places -/

abbrev Place := List Bytes

namespace Place

def resolve (directory : Place) (path : Bytes) : Place :=
  let start : Place := if path.head? = some '/' then [] else directory
  (splitOn '/' path).foldl (fun place name =>
    if name = [] ∨ name = ['.'] then place
    else if name = ['.', '.'] then place.dropLast
    else place ++ [name]) start

def text (p : Place) : Bytes :=
  if p.isEmpty then ['/'] else p.flatMap fun name => '/' :: name

end Place

inductive Entry
  | directory
  | file (content : Bytes)
  /-- What can be started. -/
  | program
  /-- Takes everything and gives nothing. -/
  | void
  /-- Gives zeros without an end. -/
  | zeros
  /-- Gives zeros and takes nothing. -/
  | full
  /-- Leads to another process. -/
  | pipe
  | removed
deriving DecidableEq, Repr, Inhabited

def programNames : List String := [
  "[", "basename", "cat", "cut", "dash", "dirname", "echo", "env", "expr", "false", "fold", "grep",
  "egrep", "fgrep", "head", "mkdir", "mktemp", "nl", "paste", "printenv", "printf", "pwd", "rev",
  "rm", "rmdir", "sed", "seq", "sh", "sleep", "sort", "tac", "tail", "tee", "test", "touch", "tr",
  "true", "uniq", "wc", "xargs", "yes", "od", "nohup", "nice", "timeout", "ls", "mv", "cp", "comm",
  "sha256sum", "kill", "expand", "unexpand", "bash", "perl", "python3", "awk", "mawk", "find",
  "date", "hostname", "id", "whoami", "uname", "base64", "md5sum", "cksum", "diff", "cmp", "tsort",
  "shuf", "stat", "chmod", "ln", "dd", "split", "numfmt", "factor", "join", "which"]

def programDirectories : List Place := [["bin"], ["usr", "bin"]].map (·.map ofText)

def directories : List Place :=
  ([[], ["bin"], ["boot"], ["dev"], ["dev", "fd"], ["dev", "shm"], ["dev", "pts"], ["etc"], ["home"],
    ["lib"], ["media"], ["mnt"], ["opt"], ["proc"], ["proc", "self"], ["root"], ["run"], ["sbin"],
    ["srv"], ["sys"], ["tmp"], ["usr"], ["usr", "bin"], ["usr", "include"], ["usr", "lib"],
    ["usr", "local"], ["usr", "local", "bin"], ["usr", "sbin"], ["usr", "share"], ["usr", "src"],
    ["var"], ["var", "lib"], ["var", "log"], ["var", "tmp"], ["work"]] : List (List String)).map
    (·.map ofText)

def standardEntry? (p : Place) : Option Entry :=
  if directories.contains p then some .directory
  else if p = [ofText "dev", ofText "null"] then some .void
  else if p = [ofText "dev", ofText "zero"] then some .zeros
  else if p = [ofText "dev", ofText "full"] then some .full
  else if [[ofText "etc", ofText "passwd"], [ofText "etc", ofText "hosts"],
      [ofText "etc", ofText "group"], [ofText "etc", ofText "hostname"]].contains p then
    some (.file [])
  else if programDirectories.contains p.dropLast ∧
      (programNames.map ofText).contains (p.getLast?.getD []) then some .program
  else none

/-! ## Channels -/

structure Direction where
  reads : Bool
  writes : Bool
  appends : Bool := false
deriving DecidableEq, Repr, Inhabited

inductive Channel
  /-- What is left to be read. -/
  | source (rest : Bytes)
  /-- What was written, the latest piece first. -/
  | sink (pieces : List Bytes)
  | file (place : Place) (position : Nat) (direction : Direction)
  | directory
deriving Repr, Inhabited

structure World where
  channels : Array Channel := #[]
  /-- The entries that were made or changed, the latest first. -/
  changes : List (Place × Entry) := []
  /-- The number that the next process gets. -/
  nextProcess : Nat := 2
  /-- Signals that processes got and did not yet notice, each behind its process. -/
  signals : List (Nat × Nat) := []
  /-- Processes that are running, the innermost first. -/
  running : List Nat := []
  /-- The nanoseconds that went by. -/
  clock : Nat := 0
  /-- What is written to channels later, each behind its time. -/
  delayed : List (Nat × List (Nat × List Bytes)) := []
deriving Inhabited

abbrev Descriptors := List (Nat × Nat)

abbrev Act := StateM World

namespace World

def found? (w : World) (p : Place) : Option Entry :=
  match w.changes.lookup p with
  | some .removed => none
  | some e => some e
  | none => standardEntry? p

def trouble? (w : World) (p : Place) : Option Refusal :=
  (List.range p.length).findSome? fun n =>
    match w.found? (p.take n) with
    | some .directory => none
    | some _ => some .notDirectory
    | none => some .noEntry

def place? (w : World) (p : Place) : Except Refusal Entry :=
  if p.any fun name => 255 < name.length then .error .nameTooLong
  else match w.trouble? p with
    | some r => .error r
    | none =>
      match w.found? p with
      | some e => .ok e
      | none => .error .noEntry

def change (w : World) (p : Place) (e : Entry) : World :=
  { w with changes := (p, e) :: w.changes.filter (·.1 != p) }

def namesIn (w : World) (p : Place) : List Bytes :=
  let standard := directories ++ [[ofText "dev", ofText "null"]] ++
    programDirectories.flatMap fun d => programNames.map fun n => d ++ [ofText n]
  let all := (standard ++ w.changes.map (·.1)).filter fun q =>
    !q.isEmpty && q.dropLast == p && (w.found? q).isSome
  ((all.filterMap (·.getLast?)).eraseDups).mergeSort notAfter

end World

/-! ## Reading and writing -/

def entryAt (directory : Place) (path : Bytes) : Act (Except Refusal (Place × Entry)) := do
  let place := Place.resolve directory path
  let found := (← get).place? place
  pure <| if path.isEmpty then .error .noEntry
    else match found with
      | .error r => .error r
      | .ok e =>
        if path.getLast? = some '/' ∧ e ≠ .directory then .error .notDirectory else .ok (place, e)

def newChannel (c : Channel) : Act Nat := do
  let w ← get
  set { w with channels := w.channels.push c }
  pure w.channels.size

def setChannel (number : Nat) (c : Channel) : Act Unit :=
  modify fun w => { w with channels := w.channels.setIfInBounds number c }

def channel? (number : Nat) : Act (Option Channel) := do
  pure (← get).channels[number]?

def descriptorOf? (place : Place) : Option Nat :=
  match place.map String.ofList with
  | ["dev", "stdin"] => some 0
  | ["dev", "stdout"] => some 1
  | ["dev", "stderr"] => some 2
  | ["dev", "fd", n] | ["proc", "self", "fd", n] => digits? n.toList
  | _ => none

def openFile (descriptors : Descriptors) (directory : Place) (path : Bytes) (d : Direction)
    (mayExist : Bool := true) : Act (Except Refusal Nat) := do
  let place := Place.resolve directory path
  match descriptorOf? place with
  | some n =>
    match descriptors.lookup n with
    | some channel => pure (.ok channel)
    | none => pure (.error .noEntry)
  | none =>
    match ← entryAt directory path with
    | .ok (_, .directory) =>
      if d.writes then pure (.error .isDirectory) else pure (.ok (← newChannel .directory))
    | .ok (place, e) =>
      if d.writes ∧ !mayExist ∧ e ≠ .void then pure (.error .present)
      else do
        match e with
        | .file _ =>
          if d.writes ∧ !d.reads ∧ !d.appends then modify (·.change place (.file []))
        | _ => pure ()
        pure (.ok (← newChannel (.file place 0 d)))
    | .error .noEntry =>
      let w ← get
      if !d.writes ∨ path.isEmpty ∨ (w.trouble? place).isSome then pure (.error .noEntry)
      else if path.getLast? = some '/' then pure (.error .isDirectory)
      else do
        modify (·.change place (.file []))
        pure (.ok (← newChannel (.file place 0 d)))
    | .error r => pure (.error r)

def zeroCount : Nat := 65536

/-- Takes at most so many bytes from a channel. -/
def readSome (number count : Nat) : Act (Except Refusal Bytes) := do
  match ← channel? number with
  | some (.source rest) =>
    setChannel number (.source (rest.drop count))
    pure (.ok (rest.take count))
  | some (.file place position d) =>
    if !d.reads then pure (.error .badDescriptor)
    else
      let content := match (← get).found? place with
        | some (.file content) => content
        | some .zeros | some .full => List.replicate (position + zeroCount) '\x00'
        | _ => []
      let piece := (content.drop position).take count
      setChannel number (.file place (position + piece.length) d)
      pure (.ok piece)
  | some .directory => pure (.error .isDirectory)
  | some (.sink _) | none => pure (.error .badDescriptor)

def channelSize (number : Nat) : Act Nat := do
  match ← channel? number with
  | some (.source rest) => pure rest.length
  | some (.file place position _) =>
    match (← get).found? place with
    | some (.file content) => pure (content.length - position)
    | some .zeros | some .full => pure zeroCount
    | _ => pure 0
  | _ => pure 0

def readAll (number : Nat) : Act (Except Refusal Bytes) := do
  readSome number (← channelSize number)

def overwrite (content : Bytes) (position : Nat) (bytes : Bytes) : Bytes :=
  content.take position ++ List.replicate (position - content.length) '\x00' ++ bytes ++ content.drop (position + bytes.length)

def writeTo (number : Nat) (bytes : Bytes) : Act (Except Refusal Unit) := do
  match ← channel? number with
  | some (.sink pieces) =>
    setChannel number (.sink (bytes :: pieces))
    pure (.ok ())
  | some (.file place position d) =>
    if !d.writes then pure (.error .badDescriptor)
    else
      match (← get).found? place with
      | some (.file content) =>
        let position := if d.appends then content.length else position
        modify (·.change place (.file (overwrite content position bytes)))
        setChannel number (.file place (position + bytes.length) d)
        pure (.ok ())
      | some .full => pure (if bytes.isEmpty then .ok () else .error .noSpace)
      | _ => pure (.ok ())
  | _ => pure (.error .badDescriptor)

/-- Why nothing can be written to a descriptor. -/
def outputTrouble? (descriptors : Descriptors) (descriptor : Nat) : Act (Option Refusal) := do
  match descriptors.lookup descriptor with
  | none => pure (some .badDescriptor)
  | some number =>
    match ← channel? number with
    | some (.sink _) => pure none
    | some (.file place _ d) =>
      if !d.writes then pure (some .badDescriptor)
      else if (← get).found? place = some .full then pure (some .noSpace)
      else pure none
    | _ => pure (some .badDescriptor)

def kindAt (descriptors : Descriptors) (directory : Place) (path : Bytes) : Act (Option Entry) := do
  match descriptorOf? (Place.resolve directory path) with
  | some n =>
    match descriptors.lookup n with
    | none => pure none
    | some number =>
      match ← channel? number with
      | some (.source _) | some (.sink _) => pure (some .pipe)
      | some (.file place _ _) => pure ((← get).found? place)
      | some .directory => pure (some .directory)
      | none => pure none
  | none =>
    match ← entryAt directory path with
    | .ok (_, e) => pure (some e)
    | .error _ => pure none

/-! ## Delays -/

/-- The pieces that sinks got since an earlier time, and the channels without them. -/
def newPieces (before after : World) : Array Channel × List (Nat × List Bytes) :=
  let compared := after.channels.toList.zipIdx.map fun (c, i) =>
    match c, before.channels[i]? with
    | .sink pieces, some (.sink old) =>
      (Channel.sink old, (i, pieces.take (pieces.length - old.length)))
    | c, _ => (c, (i, []))
  ((compared.map (·.1)).toArray, (compared.map (·.2)).filter (!·.2.isEmpty))

def World.delay (before after : World) : World :=
  let (channels, pieces) := newPieces before after
  { after with
    channels := channels
    clock := before.clock
    delayed := after.delayed ++ [(after.clock, pieces)] }

def World.catchUp (w : World) : World :=
  let (due, later) := w.delayed.partition (·.1 ≤ w.clock)
  let sorted := due.mergeSort fun a b => a.1 ≤ b.1
  (sorted.flatMap (·.2)).foldl (fun w (i, pieces) =>
    match w.channels[i]? with
    | some (.sink old) => { w with channels := w.channels.setIfInBounds i (.sink (pieces ++ old)) }
    | _ => w) { w with delayed := later }

def contentOf (number : Nat) : Act Bytes := do
  match ← channel? number with
  | some (.sink pieces) => pure pieces.reverse.flatten
  | _ => pure []

/-! ## Programs -/

structure Start where
  name : Bytes
  arguments : List Bytes := []
  environment : List (Bytes × Bytes) := []
  descriptors : Descriptors := []
  directory : Place := []
deriving Inhabited

/-- A program gives its status. -/
abbrev Program := ReaderT Start (StateM World) Nat

/-- What is done while a program runs. -/
abbrev Effect := ReaderT Start (StateM World)

namespace Effect

def writeOn (descriptor : Nat) (bytes : Bytes) : Effect (Except Refusal Unit) := fun start =>
  match start.descriptors.lookup descriptor with
  | some number => writeTo number bytes
  | none => pure (.error .badDescriptor)

def put (bytes : Bytes) : Effect Unit := do
  let _ ← writeOn 1 bytes

def warn (message : Bytes) : Effect Unit := do
  let _ ← writeOn 2 (message ++ ['\n'])

def complain (message : Bytes) : Effect Unit := do
  warn ((← read).name ++ [':', ' '] ++ message)

def giveUp (status : Nat) (message : Bytes) : Effect Nat := do
  complain message
  pure status

def misused (status : Nat) (message : Bytes) : Effect Nat := do
  complain message
  warn (ofText "Try '" ++ (← read).name ++ ofText " --help' for more information.")
  pure status

def descriptor? (n : Nat) : Effect (Option Nat) := fun start =>
  pure (start.descriptors.lookup n)

def input : Effect (Except Refusal Bytes) := do
  match ← descriptor? 0 with
  | some number => readAll number
  | none => pure (.error .badDescriptor)

def openRead (path : Bytes) : Effect (Except Refusal Nat) := fun start =>
  openFile start.descriptors start.directory path ⟨true, false, false⟩

/-- The content of a file; a dash stands for the input. -/
def content (path : Bytes) : Effect (Except Refusal Bytes) := do
  if path = ['-'] then input
  else
    match ← openRead path with
    | .ok number => readAll number
    | .error r => pure (.error r)

end Effect

end LazyBundle.Shell
