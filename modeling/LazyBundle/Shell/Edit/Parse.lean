import LazyBundle.Regex.Bracket
import LazyBundle.Regex.Posix
import LazyBundle.Shell.Edit.Basic

/-!
# Reading edits

Scripts are read piece by piece. A fault tells the piece and how many characters
of it were read.
-/

namespace LazyBundle.Shell.Edit

inductive Fault
  /-- A fault at a place of a script. -/
  | at (piece place : Nat) (message : Bytes)
  /-- A block that begins at a place and does not end. -/
  | openBlock (piece place : Nat)
  /-- A fault of the scripts as a whole. -/
  | whole (message : Bytes)
deriving Repr

structure Settings where
  extended : Bool := false
  /-- What separates lines. -/
  mark : Char := '\n'
  /-- Whether edits may neither touch files nor run commands. -/
  sandbox : Bool := false
deriving Inhabited

structure Pending where
  position : Nat
  text : Bytes
deriving Inhabited

structure Reader where
  rest : Bytes := []
  size : Nat := 0
  piece : Nat := 0
  edits : Array Instruction := #[]
  /-- The positions of open blocks, and the pieces and places that they begin at. -/
  blocks : List (Nat × Nat × Nat) := []
  labels : List (Bytes × Nat) := []
  /-- The positions of jumps and the labels that they go to. -/
  jumps : List (Nat × Bytes) := []
  pending : Option Pending := none
  /-- The files that edits write, the last one first. -/
  written : List Bytes := []
  quiet : Bool := false
deriving Inhabited

abbrev Read := ExceptT Fault (StateM Reader)

def fault {α : Type} (message : Bytes) : Read α := do
  let r ← get
  throw (.at r.piece (r.size - r.rest.length) message)

def faultText {α : Type} (message : String) : Read α := fault (ofText message)

def next? : Read (Option Char) := do
  let r ← get
  match r.rest with
  | [] => pure none
  | c :: cs =>
    set { r with rest := cs }
    pure (some c)

def back (c : Option Char) : Read Unit :=
  match c with
  | none => pure ()
  | some c => modify fun r => { r with rest := c :: r.rest }

def isBlank (c : Char) : Bool := c == ' ' || c == '\t'

def takeWhile (p : Char → Bool) : Read Bytes := do
  let r ← get
  set { r with rest := r.rest.dropWhile p }
  pure (r.rest.takeWhile p)

def nextFilled? : Read (Option Char) := do
  let _ ← takeWhile isBlank
  next?

/-- The number that begins with a character; other characters count nothing. -/
def numberFrom (c : Option Char) : Read Nat := do
  back c
  let ds ← takeWhile Char.isDigit
  pure (takeNumber 10 ds).1

/-- What may follow an edit. -/
def endOfEdit : Read Unit := do
  let c ← nextFilled?
  match c with
  | none | some '\n' | some ';' => pure ()
  | some '\x7d' | some '#' => back c
  | some _ => faultText "extra characters after command"

/-! ## Texts between separators -/

/-- What stands before the next separator that no backslash escapes, and whether there is one. -/
def untilSeparator (expression : Bool) (separator : Char) : Nat → Bytes → Bytes × Bytes × Bool
  | 0, cs => ([], cs, false)
  | _, [] => ([], [], false)
  | fuel + 1, c :: cs =>
    let after (front : Bytes) (rest : Bytes) :=
      let (text, rest, found) := untilSeparator expression separator fuel rest
      (front ++ text, rest, found)
    if c = '\n' then ([], c :: cs, false)
    else if c = separator then ([], cs, true)
    else if c = '\\' then
      match cs with
      | [] => ([], [], false)
      | d :: cs =>
        if d = separator then after (if !expression && d = '&' then [c, d] else [d]) cs
        else if d = 'n' ∧ expression then after ['\n'] cs
        else if d = '\n' then after [d] cs
        else after [c, d] cs
    else if c = '[' ∧ expression then
      let (text, rest) := Regex.Bracket.take cs
      after (c :: text) rest
    else after [c] cs

/-- Reads up to a separator; none if it is missing. -/
def delimited? (expression : Bool) (separator : Char) : Read (Option Bytes) := do
  let r ← get
  let (text, rest, found) := untilSeparator expression separator (r.rest.length + 1) r.rest
  set { r with rest := rest }
  pure (if found then some text else none)

/-! ## Escapes -/

inductive Place
  | expression
  | image
  | plain
deriving DecidableEq, Repr

def numbered? (letter : Char) (cs : Bytes) : Option (Char × Bytes) :=
  let take (base most : Nat) : Option (Char × Bytes) :=
    let ds := (cs.take most).takeWhile (isDigitOf base)
    if ds.isEmpty then none
    else some (Char.ofNat (valueOf base (ds.map digitValue) % 256), cs.drop ds.length)
  match letter with
  | 'd' => take 10 3
  | 'o' => take 8 3
  | 'x' => take 16 2
  | _ => none

def letterEscapes : List (Char × Char) := [
  ('a', '\x07'), ('f', '\x0c'), ('n', '\n'), ('r', '\r'), ('t', '\t'), ('v', '\x0b')]

/-- Resolves the escapes for single characters. An ampersand and a backslash that come out of a
number stand for themselves in an image. -/
def resolve (place : Place) : Nat → Bytes → Except Bytes Bytes
  | 0, cs => .ok cs
  | _, [] => .ok []
  | fuel + 1, '\\' :: c :: cs => do
    match letterEscapes.lookup c, numbered? c cs, c, cs with
    | some d, _, _, _ => return d :: (← resolve place fuel cs)
    | none, some (d, rest), _, _ =>
      let keep := place == .image && (d == '&' || d == '\\') || place == .plain && d == '\\'
      return (if keep then ['\\', d] else [d]) ++ (← resolve place fuel rest)
    | none, none, 'c', '\\' :: '\\' :: rest => return '\x1c' :: (← resolve place fuel rest)
    | none, none, 'c', '\\' :: _ =>
      .error (ofText "recursive escaping after \\c not allowed")
    | none, none, 'c', d :: rest =>
      return Char.ofNat (d.toUpper.toNat ^^^ 64) :: (← resolve place fuel rest)
    | none, none, c, cs => return '\\' :: c :: (← resolve place fuel cs)
  | fuel + 1, c :: cs => return c :: (← resolve place fuel cs)

def resolved (place : Place) (cs : Bytes) : Read Bytes :=
  match resolve place (cs.length + 1) cs with
  | .ok cs => pure cs
  | .error message => fault message

/-! ## Expressions -/

/-- The expression of a text; an empty one stands for the one used last. -/
def expression (s : Settings) (text : Bytes) (ignoresCase multiLine : Bool) (groups : Nat) :
    Read (Option Regex.Machine) := do
  if text.isEmpty then
    if ignoresCase || multiLine then faultText "cannot specify modifiers on empty regexp"
    pure none
  else
    let text ← resolved .expression text
    let dialect : Regex.Posix.Dialect :=
      { extended := s.extended, multiLine := multiLine, folds := ignoresCase, otherMark := s.mark != '\n' }
    match Regex.Posix.parse dialect text with
    | .error f => faultText f.message
    | .ok e =>
      if e.groupCount < groups then
        fault (ofText "invalid reference \\" ++ decimal groups ++ ofText " on \x60s' command's RHS")
      if (Regex.Bracket.setsIn (text.length + 1) text).any Regex.Bracket.looksNamed then
        throw (.whole (ofText "character class syntax is [[:space:]], not [:space:]"))
      pure (some (Regex.Machine.ofExpr e ignoresCase))

def addressLetters : Nat → Bool → Bool → Read (Bool × Bool)
  | 0, i, m => pure (i, m)
  | fuel + 1, i, m => do
    let c ← nextFilled?
    match c with
    | some 'I' => addressLetters fuel true m
    | some 'M' => addressLetters fuel i true
    | c =>
      back c
      pure (i, m)

def address? (s : Settings) (c : Option Char) : Read (Option Address) := do
  match c with
  | some '/' | some '\\' =>
    let separator ← if c = some '/' then pure c else next?
    let text ← match separator with
      | some separator => delimited? true separator
      | none => pure none
    match text with
    | none => faultText "unterminated address regex"
    | some text =>
      let (i, m) ← addressLetters ((← get).rest.length + 1) false false
      pure (some (.matching (← expression s text i m 0)))
  | some '$' => pure (some .last)
  | some '+' =>
    let n ← numberFrom (← nextFilled?)
    pure (some (if n = 0 then .step 0 1 else .further n))
  | some '~' =>
    let n ← numberFrom (← nextFilled?)
    pure (some (if n = 0 then .step 0 1 else .multiple n))
  | some d =>
    if d.isDigit then
      let n ← numberFrom c
      let c ← nextFilled?
      if c = some '~' then
        let every ← numberFrom (← nextFilled?)
        pure (some (if every = 0 then .line n else .step n every))
      else
        back c
        pure (some (.line n))
    else pure none
  | none => pure none

def scope (s : Settings) (c : Option Char) : Read (Scope × Option Char) := do
  match ← address? s c with
  | none => negation {} c
  | some first =>
    match first with
    | .further _ | .multiple _ => faultText "invalid usage of +N or ~N as first address"
    | _ => pure ()
    let c ← nextFilled?
    let (second, c) ← if c = some ',' then do
        match ← address? s (← nextFilled?) with
        | none => faultText "unexpected \x60,'"
        | some second =>
          let c ← nextFilled?
          pure (some second, c)
      else pure (none, c)
    match first, second with
    | .line 0, some (.matching _) => pure ()
    | .line 0, none =>
      -- A file can be read in front of the first line.
      if c ≠ some 'r' then faultText "invalid usage of line address 0"
    | .line 0, _ => faultText "invalid usage of line address 0"
    | _, _ => pure ()
    negation { first := some first, second := second } c
where
  negation (sc : Scope) (c : Option Char) : Read (Scope × Option Char) := do
    if c = some '!' then
      let c ← nextFilled?
      if c = some '!' then faultText "multiple \x60!'s"
      pure ({ sc with negated := true }, c)
    else pure (sc, c)

/-! ## The parts of edits -/

def readLabel : Read Bytes := do
  let _ ← takeWhile isBlank
  takeWhile fun c => !isSpace c && c != ';' && c != '\x7d' && c != '#'

def readFileName : Read Bytes := do
  let _ ← takeWhile isBlank
  let name ← takeWhile (· != '\n')
  let _ ← next?
  if name.isEmpty then faultText "missing filename in r/R/w/W commands"
  pure name

def readTarget : Read Bytes := do
  let name ← readFileName
  modify fun r => { r with written := name :: r.written }
  pure name

/-- Resolves the escapes of a text that is added; a backslash before anything else is dropped. -/
def textOf : Nat → Bytes → Bytes
  | 0, cs => cs
  | _, [] => []
  | fuel + 1, '\\' :: c :: cs =>
    match letterEscapes.lookup c, numbered? c cs, c, cs with
    | some d, _, _, _ => d :: textOf fuel cs
    | none, some (d, rest), _, _ => d :: textOf fuel rest
    | none, none, 'c', d :: rest => Char.ofNat (d.toUpper.toNat ^^^ 64) :: textOf fuel rest
    | none, none, c, cs => c :: textOf fuel cs
  | fuel + 1, c :: cs => c :: textOf fuel cs

/-- The characters up to a line feed that no backslash escapes, and whether the piece ends behind
a backslash. -/
def textLine : Nat → Bytes → Bytes × Bytes × Bool
  | 0, cs => ([], cs, false)
  | _, [] => ([], [], false)
  | _ + 1, '\n' :: cs => ([], cs, false)
  | _ + 1, ['\\'] => ([], [], true)
  | fuel + 1, '\\' :: c :: cs =>
    let (text, rest, more) := textLine fuel cs
    ('\\' :: c :: text, rest, more)
  | fuel + 1, c :: cs =>
    let (text, rest, more) := textLine fuel cs
    (c :: text, rest, more)

/-- The text of an edit at a position, behind what was read of it. A text that is still open holds
its escapes as they are. -/
def readText (position : Nat) (front : Bytes) : Read Bytes := do
  let r ← get
  let (text, rest, more) := textLine (r.rest.length + 1) r.rest
  let whole := front ++ text ++ ['\n']
  set { r with rest := rest, pending := if more then some ⟨position, whole⟩ else none }
  pure (if more then whole else textOf (whole.length + 1) whole)

def addedText (position : Nat) : Read Bytes := do
  let c ← nextFilled?
  match c with
  | none => faultText "expected \\ after \x60a', \x60c' or \x60i'"
  | some '\\' =>
    let r ← get
    match r.rest with
    | [] =>
      set { r with pending := some ⟨position, []⟩ }
      pure []
    | '\n' :: [] =>
      set { r with rest := [] }
      pure ['\n']
    | '\n' :: rest =>
      set { r with rest := rest }
      readText position []
    | _ => readText position []
  | some _ =>
    back c
    readText position []

def imageParts : Nat → Bytes → List ImagePart
  | 0, _ => []
  | _, [] => []
  | _ + 1, ['\\'] => [.text ['\\']]
  | fuel + 1, '\\' :: c :: cs =>
    let part : ImagePart := match c with
      | 'L' => .casing (some false)
      | 'U' => .casing (some true)
      | 'E' => .casing none
      | 'l' => .casingNext false
      | 'u' => .casingNext true
      | c => if c.isDigit then .group (c.toNat - 48) else .text [c]
    part :: imageParts fuel cs
  | fuel + 1, '&' :: cs => .group 0 :: imageParts fuel cs
  | fuel + 1, c :: cs => .text [c] :: imageParts fuel cs

def highestGroup (parts : List ImagePart) : Nat :=
  parts.foldl (fun n p => match p with
    | .group m => max n m
    | _ => n) 0

structure SubstitutionLetters where
  ignoresCase : Bool := false
  multiLine : Bool := false
  all : Bool := false
  start : Option Nat := none
  runs : Bool := false
  printsBefore : Bool := false
  printsAfter : Bool := false
  target : Option Bytes := none

/-- Refuses what a sandbox does not allow. -/
def sandboxed (s : Settings) : Read Unit :=
  if s.sandbox then faultText "e/r/w commands disabled in sandbox mode" else pure ()

def substitutionLetters (s : Settings) : Nat → SubstitutionLetters → Read SubstitutionLetters
  | 0, l => pure l
  | fuel + 1, l => do
    let c ← next?
    if c = some 'e' ∨ c = some 'w' then sandboxed s
    match c with
    | some 'i' | some 'I' => substitutionLetters s fuel { l with ignoresCase := true }
    | some 'm' | some 'M' => substitutionLetters s fuel { l with multiLine := true }
    | some 'e' => substitutionLetters s fuel { l with runs := true }
    | some 'p' =>
      if l.printsBefore || l.printsAfter then faultText "multiple \x60p' options to \x60s' command"
      substitutionLetters s fuel
        (if l.runs then { l with printsAfter := true } else { l with printsBefore := true })
    | some 'g' =>
      if l.all then faultText "multiple \x60g' options to \x60s' command"
      substitutionLetters s fuel { l with all := true }
    | some 'w' => do
      let name ← readTarget
      pure { l with target := some name }
    | some '\x7d' | some '#' =>
      back c
      pure l
    | none | some '\n' | some ';' => pure l
    | some '\r' =>
      if (← next?) = some '\n' then pure l else faultText "unknown option to \x60s'"
    | some d =>
      if d.isDigit then
        if l.start.isSome then faultText "multiple number options to \x60s' command"
        let n ← numberFrom c
        if n = 0 then faultText "number option to \x60s' command may not be zero"
        substitutionLetters s fuel { l with start := some n }
      else if isBlank d then substitutionLetters s fuel l
      else faultText "unknown option to \x60s'"

def substitution (s : Settings) : Read Substitution := do
  let unterminated {α : Type} : Read α := faultText "unterminated \x60s' command"
  match ← next? with
  | none => unterminated
  | some separator =>
    match ← delimited? true separator with
    | none => unterminated
    | some text =>
      match ← delimited? false separator with
      | none => unterminated
      | some image =>
        let image ← resolved .image image
        let parts := imageParts (image.length + 1) image
        let l ← substitutionLetters s ((← get).rest.length + 2) {}
        let machine ← expression s text l.ignoresCase l.multiLine (highestGroup parts)
        pure {
          machine := machine
          image := parts
          start := l.start.getD 1
          all := l.all
          runs := l.runs
          printsBefore := l.printsBefore
          printsAfter := l.printsAfter
          target := l.target }

def sideOf : Bytes → Bytes
  | '\\' :: c :: cs => c :: sideOf cs
  | c :: cs => c :: sideOf cs
  | [] => []

def transliteration : Read (List (Char × Char)) := do
  let unterminated {α : Type} : Read α := faultText "unterminated \x60y' command"
  match ← next? with
  | none => unterminated
  | some separator =>
    match ← delimited? false separator with
    | none => unterminated
    | some source =>
      match ← delimited? false separator with
      | none => unterminated
      | some image =>
        let source := sideOf (← resolved .plain source)
        let image := sideOf (← resolved .plain image)
        if source.length ≠ image.length then
          faultText "strings for \x60y' command are different lengths"
        pure (source.zip image).reverse

/-- A number that may be left out, up to the end of the edit. -/
def optionalNumber : Read (Option Nat) := do
  let c ← nextFilled?
  let n ← match c with
    | some d => if d.isDigit then do pure (some (← numberFrom c)) else do back c; pure none
    | none => pure none
  endOfEdit
  pure n

/-! ## Scripts -/

def isGap (c : Char) : Bool := isSpace c || c == ';'

/-- The version that a script may ask for at most. -/
def version : List Nat := [4, 9]

def versionOf (text : Bytes) : List Nat :=
  (splitOn '.' text).map fun part => (takeNumber 10 part).1

def push (sc : Scope) (a : Action) : Read Unit :=
  modify fun r => { r with edits := r.edits.push ⟨sc, a⟩ }

def edit (s : Settings) (sc : Scope) (c : Option Char) : Read Unit := do
  let position := (← get).edits.size
  let plain (a : Action) : Read Unit := do
    endOfEdit
    push sc a
  let jump (condition : Condition) : Read Unit := do
    let label ← readLabel
    modify fun r => { r with jumps := (position, label) :: r.jumps }
    push sc (.jump condition 0)
  let single : Read Unit :=
    if sc.second.isSome then faultText "command only uses one address" else pure ()
  match c with
  | none => faultText "missing command"
  | some '#' =>
    if sc.first.isSome then faultText "comments don't accept any addresses"
    let r ← get
    if r.rest.head? = some 'n' ∧ r.piece = 1 ∧ r.size = r.rest.length + 1 then
      set { r with quiet := true }
    let _ ← takeWhile (· != '\n')
  | some 'v' =>
    let label ← readLabel
    if version < versionOf label then faultText "expected newer version of sed"
  | some '\x7b' =>
    modify fun r => { r with blocks := (position, r.piece, r.size - r.rest.length) :: r.blocks }
    push sc (.block 0)
  | some '\x7d' =>
    match (← get).blocks with
    | [] => faultText "unexpected \x60\x7d'"
    | (start, _) :: blocks =>
      if sc.first.isSome then faultText "\x60\x7d' doesn't want any addresses"
      endOfEdit
      modify fun r => { r with
        blocks := blocks
        edits := r.edits.modify start fun e => { e with action := .block position } }
  | some 'e' =>
    sandboxed s
    let c ← nextFilled?
    match c with
    | none | some '\n' => push sc (.run [])
    | c =>
      back c
      let text ← readText position []
      push sc (.run text)
  | some 'a' => do let text ← addedText position; push sc (.append text)
  | some 'i' => do let text ← addedText position; push sc (.insert text)
  | some 'c' => do let text ← addedText position; push sc (.change text)
  | some ':' =>
    if sc.first.isSome then faultText ": doesn't want any addresses"
    let label ← readLabel
    if label.isEmpty then faultText "\":\" lacks a label"
    modify fun r => { r with labels := r.labels ++ [(label, position)] }
  | some 'b' => jump .always
  | some 't' => jump .replaced
  | some 'T' => jump .notReplaced
  | some 'q' => do single; push sc (.quit ((← optionalNumber).getD 0))
  | some 'Q' => do single; push sc (.quitSilently ((← optionalNumber).getD 0))
  | some 'l' => push sc (.show (← optionalNumber))
  | some '=' => plain .number
  | some 'd' => plain .delete
  | some 'D' => plain .deleteFirst
  | some 'F' => plain .fileName
  | some 'g' => plain .get
  | some 'G' => plain .getMore
  | some 'h' => plain .hold
  | some 'H' => plain .holdMore
  | some 'x' => plain .exchange
  | some 'n' => plain .next
  | some 'N' => plain .nextMore
  | some 'p' => plain .print
  | some 'P' => plain .printFirst
  | some 'z' => plain .clear
  | some 'r' => do
    sandboxed s
    let name ← readFileName
    match sc.first with
    | some (.line 0) =>
      if sc.second.isNone then push { sc with first := some (.line 1) } (.readBefore name)
      else push sc (.readFile name)
    | _ => push sc (.readFile name)
  | some 'R' => do sandboxed s; push sc (.readLine (← readFileName))
  | some 'w' => do sandboxed s; push sc (.write (← readTarget))
  | some 'W' => do sandboxed s; push sc (.writeFirst (← readTarget))
  | some 's' => push sc (.substitute (← substitution s))
  | some 'y' => do
    let table ← transliteration
    endOfEdit
    push sc (.transliterate table)
  | some c => fault (ofText "unknown command: \x60" ++ [c, '\''])

def edits (s : Settings) : Nat → Read Unit
  | 0 => pure ()
  | fuel + 1 => do
    let _ ← takeWhile isGap
    match ← next? with
    | none => pure ()
    | c =>
      let (sc, c) ← scope s c
      edit s sc c
      edits s fuel

def Action.withText (a : Action) (text : Bytes) : Action :=
  match a with
  | .append _ => .append text
  | .insert _ => .insert text
  | .change _ => .change text
  | .run _ => .run text
  | a => a

def readPiece (s : Settings) (piece : Bytes) : Read Unit := do
  modify fun r => { r with rest := piece, size := piece.length, piece := r.piece + 1 }
  match (← get).pending with
  | none => pure ()
  | some p =>
    let text ← readText p.position p.text
    modify fun r => { r with
      edits := r.edits.modify p.position fun e => { e with action := e.action.withText text } }
  edits s (piece.length + 1)

def close : Read Script := do
  let r ← get
  if let (_, piece, place) :: _ := r.blocks then throw (.openBlock piece place)
  let edits ← r.jumps.foldlM (fun edits (position, label) => do
    let target ← if label.isEmpty then pure r.edits.size
      else match r.labels.lookup label with
        | some target => pure target
        | none => throw (.whole (ofText "can't find label for jump to \x60" ++ label ++ ['\'']))
    pure (edits.modify position fun e =>
      match e.action with
      | .jump condition _ => { e with action := .jump condition target }
      | _ => e)) r.edits
  pure { edits := edits, quiet := r.quiet }

def Script.read (s : Settings) (pieces : List Bytes) : Except Fault Script × List Bytes :=
  let all : Read Script := do
    pieces.forM (readPiece s)
    close
  let (result, r) := all.run.run {}
  (result, r.written.reverse)

end LazyBundle.Shell.Edit
