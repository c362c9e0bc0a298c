import LazyBundle.Shell.Copy
import LazyBundle.Shell.Edit.Parse

/-!
# Carrying out edits

Every line of the input becomes the pattern space. The edits change it, and at
the end of the cycle it is printed. A hold space keeps text from one cycle to
the next.
-/

namespace LazyBundle.Shell.Edit

structure Line where
  text : Bytes
  ended : Bool
deriving Inhabited

structure InputLine where
  line : Line
  /-- The source it comes from. -/
  source : Bytes
  lastOfSource : Bool
  size : Nat
deriving Inhabited

inductive RangeState
  | waiting
  | active (stop : Option Nat)
  | closed
deriving Inhabited

inductive Addition
  | text (cs : Bytes)
  | file (name : Bytes)
deriving Inhabited

structure Progress where
  space : Line := ⟨[], true⟩
  held : Line := ⟨[], true⟩
  number : Nat := 0
  source : Bytes := ['-']
  /-- Whether the line is the last one. -/
  lastOfSource : Bool := false
  input : List InputLine := []
  used : Nat := 0
  ranges : Array RangeState := #[]
  additions : List Addition := []
  replaced : Bool := false
  machine : Option Regex.Machine := none
  /-- The outputs that lack a line feed at their end; the main one has no name. -/
  unended : List Bytes := []
  /-- The channels of the files that are written. -/
  files : List (Bytes × Nat) := []
  /-- What is left of the files that are read line by line. -/
  readers : List (Bytes × List Bytes) := []
  /-- The output of the source that is edited in place, the latest piece first. -/
  draft : List Bytes := []
deriving Inhabited

/-- What does not change while the edits are carried out. -/
structure Setting where
  script : Script
  quiet : Bool
  separate : Bool
  /-- Whether the output of a source takes its place, and how the name of a copy of the source is
  made, if there is to be one. -/
  inPlace : Option Bytes
  mark : Char
  width : Nat
  /-- Runs a command and gives its output. -/
  command : Bytes → Effect Bytes

abbrev Exec := ReaderT Setting (StateT Progress Effect)

inductive Stop
  | quit (code : Nat)
  | noExpression
  /-- A directory that was to be read. -/
  | directory (name : Bytes)

/-! ## Output -/

def standardOutput : Bytes := ofText "/dev/stdout"

def onChannel (name bytes : Bytes) : Exec Unit := do
  if name.isEmpty ∧ (← read).inPlace.isSome then
    modify fun p => { p with draft := bytes :: p.draft }
  else if name.isEmpty ∨ name = standardOutput then (Effect.put bytes : Effect Unit)
  else match (← get).files.lookup name with
    | some channel => do
      let _ ← (writeTo channel bytes : StateM World _)
    | none => pure ()

def finishLine (name : Bytes) : Exec Unit := do
  if (← get).unended.contains name then
    onChannel name [(← read).mark]
    modify fun p => { p with unended := p.unended.filter (· != name) }

def writeLine (name text : Bytes) (ended : Bool) : Exec Unit := do
  finishLine name
  let mark := (← read).mark
  onChannel name (if ended then text ++ [mark] else text)
  if !ended then modify fun p => { p with unended := name :: p.unended }

def writeText (text : Bytes) : Exec Unit := do
  finishLine []
  onChannel [] text

def writeMarked (text : Bytes) : Exec Unit := do
  let mark := (← read).mark
  writeText (if text.getLast? = some '\n' then text.dropLast ++ [mark] else text)

def printSpace : Exec Unit := do
  let l := (← get).space
  writeLine [] l.text l.ended

/-- Prints the pattern space unless that is left to the edits. -/
def printUnasked : Exec Unit := do
  if !(← read).quiet then printSpace

/-- The content of a file. One that cannot be opened counts as empty. -/
def fileText (name : Bytes) : ExceptT Stop Exec Bytes := do
  match ← (Effect.openRead name : Effect _) with
  | .error _ => pure []
  | .ok channel =>
    match ← (readAll channel : Act _) with
    | .ok cs => pure cs
    | .error .isDirectory => throw (.directory name)
    | .error _ => pure []

def writeAdditions : ExceptT Stop Exec Unit := do
  let additions := (← get).additions
  modify fun p => { p with additions := [] }
  for a in additions.reverse do
    (finishLine [] : Exec Unit)
    match a with
    | .text cs => (onChannel [] cs : Exec Unit)
    | .file name =>
      let cs ← fileText name
      (onChannel [] cs : Exec Unit)

def shownText (mark : Char) (width : Nat) (cs : Bytes) : Bytes :=
  let piece (c : Char) : Bytes :=
    if c = '\\' then ['\\', '\\']
    else if isPrintable c then [c]
    else match controlLetters.find? (·.2 == c) with
      | some (letter, _) => ['\\', letter]
      | none => octalText c
  let shown := cs.foldl (fun (text, column) c =>
    let p := piece c
    if 0 < width && width - 1 < column + p.length then (text ++ ['\\', mark] ++ p, p.length)
    else (text ++ p, column + p.length)) (([] : Bytes), 0)
  shown.1 ++ ['$', '\n']

/-! ## Input -/

def isLast : Exec Bool := do
  let p ← get
  pure (p.input.isEmpty || ((← read).separate && p.lastOfSource))

def copyName (pattern name : Bytes) : Bytes :=
  let directory := name.reverse.dropWhile (· != '/') |>.reverse
  let base := name.drop directory.length
  let copy := if pattern.contains '*' then pattern.flatMap fun c => if c = '*' then base else [c]
    else base ++ pattern
  if copy.contains '/' then copy else directory ++ copy

def replaceFile (name content : Bytes) : Effect Unit := do
  let start ← read
  match ← openFile start.descriptors start.directory name ⟨false, true, false⟩ with
  | .ok channel => let _ ← writeTo channel content
  | .error _ => pure ()

def finishSource : Exec Unit := do
  match (← read).inPlace with
  | none => pure ()
  | some pattern =>
    let p ← get
    if !pattern.isEmpty then
      match ← (Effect.content p.source : Effect _) with
      | .ok old => (replaceFile (copyName pattern p.source) old : Effect Unit)
      | .error _ => pure ()
    (replaceFile p.source p.draft.reverse.flatten : Effect Unit)
    modify fun p => { p with draft := [], unended := p.unended.filter (!·.isEmpty) }

def Script.freshRanges (s : Script) : Array RangeState :=
  s.edits.map fun e =>
    match e.scope.first, e.scope.second with
    | some (.line 0), some _ => .active none
    | _, _ => .waiting

/-- Takes the next line behind what is kept of the pattern space. A source that is edited by itself
begins anew. -/
def readNext (keep : Bytes) : ExceptT Stop Exec Bool := do
  writeAdditions
  let setting ← read
  if setting.separate && (← get).lastOfSource then
    (finishSource : Exec Unit)
    modify fun p => { p with
      number := 0
      held := ⟨[], true⟩
      ranges := setting.script.freshRanges
      readers := []
      lastOfSource := false }
  let p ← get
  match p.input with
  | [] => pure false
  | l :: rest =>
    set { p with
      space := ⟨keep ++ l.line.text, l.line.ended⟩
      number := p.number + 1
      source := l.source
      lastOfSource := l.lastOfSource
      input := rest
      used := p.used + l.size
      replaced := false }
    pure true

/-! ## Selection -/

def chosenMachine (m : Option Regex.Machine) : Exec (Option Regex.Machine) := do
  match m with
  | some m =>
    modify fun p => { p with machine := some m }
    pure (some m)
  | none => pure (← get).machine

def Address.selects (a : Address) : ExceptT Stop Exec Bool := do
  let p ← get
  match a with
  | .line n => pure (p.number == n)
  | .step first every =>
    pure (if p.number < first then false else (p.number - first) % every == 0)
  | .last => isLast
  | .matching m =>
    match ← chosenMachine m with
    | some m => pure (m.search p.space.text.toArray 0).isSome
    | none => throw .noExpression
  | .further _ | .multiple _ => pure false

def setRange (position : Nat) (r : RangeState) : Exec Unit :=
  modify fun p => { p with ranges := p.ranges.setIfInBounds position r }

def beginRange (position : Nat) (first second : Address) : ExceptT Stop Exec Bool := do
  let n := (← get).number
  let upTo (stop : Nat) : ExceptT Stop Exec Bool := do
    setRange position (if stop ≤ n then .closed else .active (some stop))
    match first with
    | .line f => pure (n == f || n ≤ stop)
    | _ => pure true
  match second with
  | .line stop => upTo stop
  | .further k => upTo (n + k)
  | .multiple k => upTo (if k = 0 then n else (n / k + 1) * k)
  | .matching _ =>
    setRange position (.active none)
    pure true
  | second =>
    setRange position (if ← second.selects then .closed else .active none)
    pure true

def Scope.selects (s : Scope) (position : Nat) : ExceptT Stop Exec Bool := do
  let inside ← match s.first, s.second with
    | none, _ => pure true
    | some a, none => a.selects
    | some a, some b => do
      let p ← get
      let start : ExceptT Stop Exec Bool := do
        let begins : Bool ← match a with
          | .line f => pure (f ≤ p.number)
          | a => a.selects
        if begins then beginRange position a b else pure false
      match (p.ranges[position]?).getD .waiting, a with
      | .active (some stop), _ =>
        if stop ≤ p.number then setRange position .closed
        -- A range that counts its lines takes one more line if the last one was passed over.
        pure (match b with
          | .line _ => p.number ≤ stop
          | _ => true)
      | .active none, _ =>
        if ← b.selects then setRange position .closed
        pure true
      | .closed, .line _ => pure false
      | _, _ => start
  pure (inside != s.negated)

/-! ## Substitution -/

/-- Writes a text in a casing. A byte that is no character has none, and is lost. -/
def Casing.write (k : Casing) (cs : Bytes) : Bytes × Casing :=
  let letter (upper : Option Bool) (c : Char) : Char :=
    match upper with
    | none => c
    | some upper => if '\x7f' < c then '\xff' else if upper then c.toUpper else c.toLower
  match cs with
  | [] => ([], k)
  | c :: cs => (letter (k.next.or k.all) c :: cs.map (letter k.all), { k with next := none })

def imageOf (parts : List ImagePart) (line : Array Char) (m : Regex.Machine.Match) : Bytes :=
  (parts.foldl (fun (text, k) part =>
    match part with
    | .text cs => let (t, k) := Casing.write k cs; (text ++ t, k)
    | .group n =>
      match m.group? n with
      | none => (text, k)
      | some (a, b) => let (t, k) := Casing.write k (line.extract a b).toList; (text ++ t, k)
    | .casing upper => (text, { all := upper, next := none })
    | .casingNext upper => (text, { k with next := some upper })) (([] : Bytes), ({} : Casing))).1

/-- Replaces matches from a position on. `count` matches came before; an empty match may not follow
right behind another match. -/
def Substitution.replace (s : Substitution) (m : Regex.Machine) (line : Array Char) :
    Nat → Nat → Bool → Nat → Bytes × Bool
  | 0, position, _, _ => ((line.extract position line.size).toList, false)
  | fuel + 1, position, behindMatch, count =>
    let tail := (line.extract position line.size).toList
    match m.search line position with
    | none => (tail, false)
    | some t =>
      let before := (line.extract position t.start).toList
      let text := (line.extract t.start t.stop).toList
      if t.start = t.stop ∧ t.start = position ∧ behindMatch then
        match tail with
        | [] => ([], false)
        | c :: _ =>
          let (more, hit) := s.replace m line fuel (position + 1) false count
          (c :: more, hit)
      else
        let chosen := s.start ≤ count + 1
        let image := if chosen then imageOf s.image line t else text
        if chosen && !s.all then (before ++ image ++ (line.extract t.stop line.size).toList, true)
        else if t.start = t.stop then
          match getElem? line t.stop with
          | none => (before ++ image, chosen)
          | some c =>
            let (more, hit) := s.replace m line fuel (t.stop + 1) false (count + 1)
            (before ++ image ++ c :: more, chosen || hit)
        else
          let (more, hit) := s.replace m line fuel t.stop true (count + 1)
          (before ++ image ++ more, chosen || hit)

def dropLastMark (mark : Char) (cs : Bytes) : Bytes :=
  if cs.getLast? = some mark then cs.dropLast else cs

def setText (cs : Bytes) : Exec Unit :=
  modify fun p => { p with space := { p.space with text := cs } }

def substitute (s : Substitution) : ExceptT Stop Exec Unit := do
  match ← chosenMachine s.machine with
  | none => throw .noExpression
  | some m =>
    let line := (← get).space.text.toArray
    let (text, hit) := s.replace m line (2 * line.size + 2) 0 false 0
    if hit then
      setText text
      modify fun p => { p with replaced := true }
      if s.runs then
        if s.printsBefore then (printSpace : Exec Unit)
        let output ← ((← read).command text : Effect Bytes)
        setText (dropLastMark (← read).mark output)
        if s.printsAfter then (printSpace : Exec Unit)
      else if s.printsBefore || s.printsAfter then (printSpace : Exec Unit)
      match s.target with
      | none => pure ()
      | some name =>
        let l := (← get).space
        (writeLine name l.text l.ended : Exec Unit)

/-! ## Cycles -/

inductive Turn
  | goOn
  | jump (target : Nat)
  /-- The end of the cycle. -/
  | finish
  | discard
  /-- A new cycle without a new line. -/
  | again
  | quit (code : Nat)
  | quitSilently (code : Nat)

def firstLine (mark : Char) (cs : Bytes) : Bytes := cs.takeWhile (· != mark)

def nextLineOf (name : Bytes) : ExceptT Stop Exec (Option Bytes) := do
  let p ← get
  let ls ← match p.readers.lookup name with
    | some ls => pure ls
    | none => do pure (splitAfter (← read).mark (← fileText name))
  let others := p.readers.filter (·.1 != name)
  modify fun p => { p with readers := (name, ls.drop 1) :: others }
  pure ls.head?

def perform (a : Action) (position : Nat) : ExceptT Stop Exec Turn := do
  let mark := (← read).mark
  let p ← get
  match a with
  | .block _ | .nothing => pure .goOn
  | .jump condition target =>
    let replaced := p.replaced
    if condition ≠ .always then modify fun p => { p with replaced := false }
    pure <| match condition with
      | .always => .jump target
      | .replaced => if replaced then .jump target else .goOn
      | .notReplaced => if replaced then .goOn else .jump target
  | .append text =>
    modify fun p => { p with additions := .text text :: p.additions }
    pure .goOn
  | .insert text => (writeMarked text : Exec Unit); pure .goOn
  | .change text =>
    match (p.ranges[position]?).getD .waiting with
    | .active _ => pure ()
    | _ => (writeMarked text : Exec Unit)
    pure .discard
  | .delete => pure .discard
  | .deleteFirst =>
    if p.space.text.contains mark then
      setText (p.space.text.drop ((firstLine mark p.space.text).length + 1))
      pure .again
    else pure .discard
  | .number => (writeMarked (decimal p.number ++ ['\n']) : Exec Unit); pure .goOn
  | .fileName => (writeMarked (p.source ++ ['\n']) : Exec Unit); pure .goOn
  | .get => modify fun p => { p with space := p.held }; pure .goOn
  | .getMore =>
    modify fun p => { p with space := ⟨p.space.text ++ mark :: p.held.text, p.held.ended⟩ }
    pure .goOn
  | .hold => modify fun p => { p with held := p.space }; pure .goOn
  | .holdMore =>
    modify fun p => { p with held := ⟨p.held.text ++ mark :: p.space.text, p.space.ended⟩ }
    pure .goOn
  | .exchange => modify fun p => { p with space := p.held, held := p.space }; pure .goOn
  | .show width =>
    (writeMarked (shownText mark (width.getD (← read).width) p.space.text) : Exec Unit)
    pure .goOn
  | .next =>
    if ← (isLast : Exec Bool) then pure .finish
    else
      (printUnasked : Exec Unit)
      let _ ← readNext []
      pure .goOn
  | .nextMore =>
    if ← (isLast : Exec Bool) then pure .finish
    else
      let _ ← readNext (p.space.text ++ [mark])
      pure .goOn
  | .print => (printSpace : Exec Unit); pure .goOn
  | .printFirst =>
    let ended := p.space.text.contains mark || p.space.ended
    (writeLine [] (firstLine mark p.space.text) ended : Exec Unit)
    pure .goOn
  | .quit code => pure (.quit code)
  | .quitSilently code => pure (.quitSilently code)
  | .readFile name =>
    modify fun p => { p with additions := .file name :: p.additions }
    pure .goOn
  | .readBefore name =>
    let cs ← fileText name
    (writeText cs : Exec Unit)
    pure .goOn
  | .readLine name =>
    match ← nextLineOf name with
    | some l => modify fun p => { p with additions := .text l :: p.additions }
    | none => pure ()
    pure .goOn
  | .substitute s => substitute s; pure .goOn
  | .transliterate table =>
    setText (p.space.text.map fun c => (table.lookup c).getD c)
    pure .goOn
  | .write name => (writeLine name p.space.text p.space.ended : Exec Unit); pure .goOn
  | .writeFirst name =>
    let ended := p.space.text.contains mark || p.space.ended
    (writeLine name (firstLine mark p.space.text) ended : Exec Unit)
    pure .goOn
  | .clear => setText []; pure .goOn
  | .run [] => do
    let output ← ((← read).command p.space.text : Effect Bytes)
    setText (dropLastMark mark output)
    pure .goOn
  | .run text => do
    let output ← ((← read).command text : Effect Bytes)
    (writeText output : Exec Unit)
    pure .goOn

/-- Goes through the edits from a position on, cycle after cycle; none begins a new cycle. -/
def cycles : Nat → Option Nat → ExceptT Stop Exec Unit
  | 0, _ => pure ()
  | fuel + 1, none => do
    if ← readNext [] then cycles fuel (some 0)
  | fuel + 1, some position => do
    match (← read).script.edits[position]? with
    | none =>
      (printUnasked : Exec Unit)
      writeAdditions
      cycles fuel none
    | some e =>
      if ← e.scope.selects position then
        match ← perform e.action position with
        | .goOn => cycles fuel (some (position + 1))
        | .jump target => cycles fuel (some target)
        | .finish =>
          (printUnasked : Exec Unit)
          writeAdditions
          cycles fuel none
        | .discard =>
          writeAdditions
          cycles fuel none
        | .again =>
          writeAdditions
          cycles fuel (some 0)
        | .quit code =>
          (printUnasked : Exec Unit)
          (finishLine [] : Exec Unit)
          writeAdditions
          (finishSource : Exec Unit)
          throw (.quit code)
        | .quitSilently code =>
          (finishSource : Exec Unit)
          throw (.quit code)
      else
        match e.action with
        | .block stop => cycles fuel (some stop)
        | _ => cycles fuel (some (position + 1))

/-- How many edits are carried out at most. -/
def patience : Nat := 2000000

/-! ## The program -/

def usage (name : Bytes) : Bytes :=
  ofText "Usage: " ++ name ++ ofText (" [OPTION]... \x7bscript-only-if-no-other-script\x7d [input-file]...\n\n" ++
    "  -n, --quiet, --silent\n" ++
    "                 suppress automatic printing of pattern space\n" ++
    "      --debug\n" ++
    "                 annotate program execution\n" ++
    "  -e script, --expression=script\n" ++
    "                 add the script to the commands to be executed\n" ++
    "  -f script-file, --file=script-file\n" ++
    "                 add the contents of script-file to the commands to be executed\n" ++
    "  --follow-symlinks\n" ++
    "                 follow symlinks when processing in place\n" ++
    "  -i[SUFFIX], --in-place[=SUFFIX]\n" ++
    "                 edit files in place (makes backup if SUFFIX supplied)\n" ++
    "  -l N, --line-length=N\n" ++
    "                 specify the desired line-wrap length for the \x60l' command\n" ++
    "  --posix\n" ++
    "                 disable all GNU extensions.\n" ++
    "  -E, -r, --regexp-extended\n" ++
    "                 use extended regular expressions in the script\n" ++
    "                 (for portability use POSIX -E).\n" ++
    "  -s, --separate\n" ++
    "                 consider files as separate rather than as a single,\n" ++
    "                 continuous long stream.\n" ++
    "      --sandbox\n" ++
    "                 operate in sandbox mode (disable e/r/w commands).\n" ++
    "  -u, --unbuffered\n" ++
    "                 load minimal amounts of data from the input files and flush\n" ++
    "                 the output buffers more often\n" ++
    "  -z, --null-data\n" ++
    "                 separate lines by NUL characters\n" ++
    "      --help     display this help and exit\n" ++
    "      --version  output version information and exit\n\n" ++
    "If no -e, --expression, -f, or --file option is given, then the first\n" ++
    "non-option argument is taken as the sed script to interpret.  All\n" ++
    "remaining arguments are names of input files; if no input files are\n" ++
    "specified, then the standard input is read.\n\n" ++
    "GNU sed home page: <https://www.gnu.org/software/sed/>.\n" ++
    "General help using GNU software: <https://www.gnu.org/gethelp/>.\n")

def options : OptionTable where
  letters := "bnrzuEs".toList.map (fun c => (c, Need.nothing)) ++
    [('e', .argument), ('f', .argument), ('l', .argument), ('i', .joined), ('V', .argument)]
  names := [("binary", .nothing, 'b'), ("debug", .nothing, 'D'), ("expression", .argument, 'e'),
    ("file", .argument, 'f'), ("follow-symlinks", .nothing, 'F'), ("in-place", .joined, 'i'),
    ("line-length", .argument, 'l'), ("null-data", .nothing, 'z'), ("zero-terminated", .nothing, 'z'),
    ("quiet", .nothing, 'n'), ("posix", .nothing, 'p'), ("silent", .nothing, 'n'),
    ("sandbox", .nothing, 'S'), ("separate", .nothing, 's'), ("unbuffered", .nothing, 'u'),
    ("help", .nothing, 'h'), ("regexp-extended", .nothing, 'E')]

def inputLines (mark : Char) (name cs : Bytes) : List InputLine :=
  let pieces := splitAfter mark cs
  (pieces.zip (List.range pieces.length)).map fun (l, i) =>
    let ended := l.getLast? = some mark
    { line := ⟨if ended then l.dropLast else l, ended⟩
      source := name
      lastOfSource := i + 1 = pieces.length
      size := l.length }

open Effect in
/-- Opens the files that are written; the fault tells the one that could not be. -/
def openAll (names : List Bytes) : Effect (Except (Bytes × Refusal) (List (Bytes × Nat))) := do
  let start ← read
  let mut files : List (Bytes × Nat) := []
  for name in (names.filter (· != standardOutput)).eraseDups do
    match ← openFile start.descriptors start.directory name ⟨false, true, false⟩ with
    | .ok channel => files := (name, channel) :: files
    | .error r => return .error (name, r)
  pure (.ok files)

structure Piece where
  text : Bytes
  file : Option Bytes

def placeName (pieces : List Piece) (number place : Nat) (whole : Bool := false) : Bytes :=
  let upTo := pieces.take number
  match upTo.getLast? with
  | some ⟨text, some name⟩ =>
    ofText "file " ++ name ++ ofText " line " ++ decimal ((text.take place).count '\n' + 1)
  | _ =>
    ofText "-e expression #" ++ decimal (upTo.countP (·.file.isNone)) ++ ofText ", char " ++
      decimal (if whole then 0 else place)

def endName (pieces : List Piece) : Bytes :=
  placeName pieces pieces.length (((pieces.getLast?).map (·.text.length)).getD 0) true

/-- What a source holds at most in the buffer of its reader. -/
def bufferSize : Nat := 4096

open Effect in
def carryOut (setting : Setting) (files : List (Bytes × Nat)) (origin : Bytes)
    (sources : List Bytes) : Program := do
  let mut status := 0
  let mut ls : List (List InputLine) := []
  for name in sources do
    match ← content name with
    | .ok cs => ls := inputLines setting.mark name cs :: ls
    | .error .isDirectory =>
      if setting.inPlace.isSome then
        complain (ofText "couldn't edit " ++ name ++ ofText ": not a regular file")
        status := 4
      else return ← giveUp 4 (ofText "read error on " ++ name ++ ofText ": Is a directory")
    | .error r =>
      complain (ofText "can't read " ++ name ++ [':', ' '] ++ r.message)
      status := 2
  let progress : Progress := {
    input := ls.reverse.flatten
    ranges := setting.script.freshRanges
    files := files }
  let (result, p) ← ((cycles patience none).run.run setting).run progress
  match result with
  | .ok () => pure status
  | .error (.quit code) =>
    -- What was not yet in the buffer is left for others.
    if sources = [['-']] then
      let kept := ((p.used + bufferSize - 1) / bufferSize) * bufferSize - p.used
      let left := p.input.flatMap fun l =>
        if l.line.ended then l.line.text ++ [setting.mark] else l.line.text
      match ← descriptor? 0 with
      | none => pure ()
      | some number =>
        match ← channel? number with
        | some (.source _) => setChannel number (.source (left.drop kept))
        | _ => pure ()
    pure (if code = 0 then status else code)
  | .error (.directory name) =>
    giveUp 4 (ofText "read error on " ++ name ++ ofText ": Is a directory")
  | .error .noExpression =>
    giveUp 1 (origin ++ ofText ": no previous regular expression")

open Effect in
/-- Edits the lines of files or of the input; `command` runs what edits ask for. -/
def program (command : Bytes → Effect Bytes) : Program := do
  let name := (← read).name
  match options.read (← read).arguments with
  | .error f =>
    complain f.message
    warn (usage name).dropLast
    pure 1
  | .ok chosen =>
    if chosen.has 'h' then
      put (usage name ++ ofText "E-mail bug reports to: <bug-sed@gnu.org>.\n")
      return 0
    let mut pieces : List Piece := []
    for (letter, argument) in chosen.options do
      if letter = 'e' then pieces := ⟨argument, none⟩ :: pieces
      else if letter = 'f' then
        match ← content argument with
        | .ok cs => pieces := ⟨cs, some argument⟩ :: pieces
        | .error r =>
          return ← giveUp 4 (ofText "couldn't open file " ++ argument ++ [':', ' '] ++ r.message)
    let given := chosen.has 'e' || chosen.has 'f'
    match given, chosen.operands with
    | false, [] =>
      warn (usage name).dropLast
      pure 1
    | given, operands =>
      let scripts := if given then pieces.reverse else [⟨operands.headD [], none⟩]
      let sources := if given then operands else operands.drop 1
      let mark := if chosen.has 'z' then '\x00' else '\n'
      let width := match chosen.last? 'l' with
        | some text => (takeNumber 10 text).1
        | none => 70
      let settings : Settings :=
        { extended := chosen.has 'E' || chosen.has 'r', mark := mark, sandbox := chosen.has 'S' }
      let (result, written) := Script.read settings (scripts.map (·.text))
      match ← openAll written, result with
      | .error (name, r), _ =>
        giveUp 4 (ofText "couldn't open file " ++ name ++ [':', ' '] ++ r.message)
      | .ok _, .error (.at piece place message) =>
        giveUp 1 (placeName scripts piece place ++ [':', ' '] ++ message)
      | .ok _, .error (.openBlock piece place) =>
        giveUp 1 (placeName scripts piece place true ++ ofText ": unmatched \x60\x7b'")
      | .ok _, .error (.whole message) => giveUp 4 message
      | .ok files, .ok script =>
        if chosen.has 'i' && sources.isEmpty then giveUp 4 (ofText "no input files")
        else
          carryOut {
            script := script
            quiet := script.quiet || chosen.has 'n'
            separate := chosen.has 's' || chosen.has 'i'
            inPlace := chosen.last? 'i'
            mark := mark
            width := width
            command := command } files (endName scripts) (if sources.isEmpty then [['-']] else sources)

end LazyBundle.Shell.Edit
