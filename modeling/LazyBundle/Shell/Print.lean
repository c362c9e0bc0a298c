import LazyBundle.Shell.Format
import LazyBundle.Text.Utf8

/-!
# Writing arguments

Writes arguments as they are, or as a format says. There are two manners: that
of the commands inside the shell and that of the programs of the same names.
-/

namespace LazyBundle.Shell.Print

inductive Manner
  | inside
  | program
deriving DecidableEq, Repr

inductive Piece
  | text (cs : Bytes)
  | note (message : Bytes)

structure Page where
  /-- The latest piece first. -/
  pieces : List Piece := []
  arguments : List Bytes := []
  /-- Whether the current round took an argument. -/
  took : Bool := false
  status : Nat := 0

abbrev Press := ExceptT Nat (StateM Page)

namespace Press

def put (cs : Bytes) : Press Unit :=
  modify fun p => { p with pieces := .text cs :: p.pieces }

def note (message : Bytes) : Press Unit :=
  modify fun p => { p with pieces := .note message :: p.pieces }

def blame (message : Bytes) : Press Unit := do
  note message
  modify fun p => { p with status := 1 }

def giveUp {α : Type} (status : Nat) (message : Bytes) : Press α := do
  note message
  throw status

def next? : Press (Option Bytes) := do
  let p ← get
  match p.arguments with
  | [] => pure none
  | a :: rest =>
    set { p with arguments := rest, took := true }
    pure (some a)

def finish (press : Press Unit) (arguments : List Bytes) : List Piece × Nat :=
  match press.run { arguments := arguments } with
  | (.ok (), p) => (p.pieces.reverse, p.status)
  | (.error status, p) => (p.pieces.reverse, status)

end Press

/-! ## Escapes -/

inductive Escape
  | byte (c : Char) (rest : Bytes)
  | bytes (cs : Bytes) (rest : Bytes)
  | stop
  /-- The backslash stands for itself. -/
  | literal
  | malformed (message : Bytes)

/-- The bytes of a character; those beyond ASCII cannot be written. -/
def characterText (n : Nat) : Bytes :=
  if n < 128 then [Char.ofNat n]
  else if n < 65536 then ofText "\\u" ++ padLeft '0' 4 (Format.toUpper (Nat.toDigits 16 n))
  else ofText "\\U" ++ padLeft '0' 8 (Format.toUpper (Nat.toDigits 16 n))

def missingHex : Bytes := ofText "missing hexadecimal number in escape"

/-- An escape of the programs; `zero` tells that octal numbers may have a zero in front. -/
def programEscape (zero : Bool) : Bytes → Escape
  | 'x' :: cs =>
    if (cs.head?.map isHex).getD false then
      let (c, rest) := takeHex 2 cs
      .byte c rest
    else .malformed missingHex
  | 'c' :: _ => .stop
  | 'e' :: cs => .byte '\x1b' cs
  | '"' :: cs => .byte '"' cs
  | 'u' :: cs => unicode 4 cs
  | 'U' :: cs => unicode 8 cs
  | c :: cs =>
    if isOctal c then
      let (c, rest) := takeOctal (if zero && c = '0' then 4 else 3) (c :: cs)
      .byte c rest
    else match controlLetters.lookup c with
      | some d => .byte d cs
      | none => .bytes ['\\', c] cs
  | [] => .literal
where
  unicode (count : Nat) (cs : Bytes) : Escape :=
    let ds := (cs.take count).takeWhile isHex
    if ds.length < count then .malformed missingHex
    else .bytes (characterText (takeNumber 16 ds).1) (cs.drop count)

/-- An escape inside the shell; in an argument a zero may stand in front of octal digits. -/
def insideEscape (inArgument : Bool) : Bytes → Escape
  | 'c' :: cs => if inArgument then .stop else .bytes ['\\', 'c'] cs
  | 'e' :: cs => .byte '\x1b' cs
  | c :: cs =>
    if isOctal c then
      let more := inArgument && c = '0' && (cs.head?.map isOctal).getD false
      let (c, rest) := takeOctal (if more then 4 else 3) (c :: cs)
      .byte c rest
    else match controlLetters.lookup c with
      | some d => .byte d cs
      | none => .literal
  | [] => .literal

/-- Resolves the escapes of a text; the flag tells whether one of them ends all output. -/
def unescape (escape : Bytes → Escape) : Nat → Bytes → Except Bytes (Bytes × Bool)
  | _, [] | 0, _ => .ok ([], false)
  | fuel + 1, '\\' :: cs => do
    let (front, rest) ← match escape cs with
      | .byte c rest => pure ([c], rest)
      | .bytes ds rest => pure (ds, rest)
      | .literal => pure (['\\'], cs)
      | .stop => return ([], true)
      | .malformed message => throw message
    let (more, stop) ← unescape escape fuel rest
    pure (front ++ more, stop)
  | fuel + 1, c :: cs => do
    let (more, stop) ← unescape escape fuel cs
    pure (c :: more, stop)

/-! ## Plain writing -/

/-- The words with their escapes resolved; the line feed may be left out. -/
def echoInside (args : List Bytes) : Bytes :=
  let (bare, args) := match args with
    | ['-', 'n'] :: args => (true, args)
    | args => (false, args)
  go bare args
where
  go (bare : Bool) : List Bytes → Bytes
    | [] => if bare then [] else ['\n']
    | a :: rest =>
      match unescape (insideEscape true) (a.length + 1) a with
      | .ok (text, true) => text
      | .ok (text, false) =>
        text ++ (if rest.isEmpty then [] else [' ']) ++ go bare rest
      | .error _ => []

def isEchoOption (a : Bytes) : Bool :=
  match a with
  | '-' :: c :: cs => (c :: cs).all fun c => c == 'n' || c == 'e' || c == 'E'
  | _ => false

def echoEscape : Bytes → Escape
  | 'x' :: cs =>
    if (cs.head?.map isHex).getD false then
      let (c, rest) := takeHex 2 cs
      .byte c rest
    else .literal
  | 'c' :: _ => .stop
  | 'e' :: cs => .byte '\x1b' cs
  | '0' :: cs =>
    let (c, rest) := takeOctal 3 cs
    .byte c rest
  | c :: cs =>
    if isOctal c then
      let (c, rest) := takeOctal 3 (c :: cs)
      .byte c rest
    else match controlLetters.lookup c with
      | some d => .byte d cs
      | none => .literal
  | [] => .literal

def echo : Program := do
  let args := (← read).arguments
  let chosen := (args.takeWhile isEchoOption).flatten
  let words := args.dropWhile isEchoOption
  let escapes := (chosen.filter fun c => c == 'e' || c == 'E').getLast? = some 'e'
  let text := joinWords words
  let (text, stop) := if escapes then
      ((unescape echoEscape (text.length + 1) text).toOption).getD ([], true)
    else (text, false)
  Effect.put (if chosen.contains 'n' || stop then text else text ++ ['\n'])
  pure 0

/-! ## Formats -/

open Press

def checkNumber (m : Manner) (arg rest : Bytes) (outside : Bool) : Press Unit := do
  let named := if m = .inside then arg else quoted arg
  let tooLarge : Press Unit :=
    if outside then blame (named ++ ofText ": Numerical result out of range") else pure ()
  if rest.isEmpty ∨ (m = .program ∧ outside) then tooLarge
  else if rest.length = arg.length then
    blame (named ++ ofText (if m = .inside then ": expected numeric value" else ": expected a numeric value"))
  else
    blame (named ++ ofText (if m = .inside then ": not completely converted" else ": value not completely converted"))

def quotedNumber? (m : Manner) (arg : Bytes) : Option Nat :=
  match arg with
  | q :: rest =>
    if q = '\'' ∨ q = '"' then
      match rest with
      | c :: _ => some c.toNat
      | [] => if m = .inside then some 0 else none
    else none
  | [] => none

def noteLeftOver (m : Manner) (arg : Bytes) : Press Unit :=
  if m = .program ∧ 2 < arg.length then
    note (ofText "warning: " ++ arg.drop 2 ++
      ofText ": character(s) following character constant have been ignored")
  else pure ()

def signedArgument (m : Manner) : Press Int := do
  match ← next? with
  | none => pure 0
  | some arg =>
    match quotedNumber? m arg with
    | some n => noteLeftOver m arg; pure n
    | none =>
      let (n, rest) := Format.takeWhole arg
      let (n, outside) := Format.clampSigned n
      checkNumber m arg rest outside
      pure n

def unsignedArgument (m : Manner) : Press Nat := do
  match ← next? with
  | none => pure 0
  | some arg =>
    match quotedNumber? m arg with
    | some n => noteLeftOver m arg; pure n
    | none =>
      let (n, rest) := Format.takeWhole arg
      let (n, outside) := Format.clampUnsigned n
      checkNumber m arg rest outside
      pure n

/-- How exact numbers are that are not whole. -/
def sizeOf (m : Manner) : Format.Size :=
  if m = .inside then .double else .extended

def realArgument (m : Manner) : Press Format.Real := do
  match ← next? with
  | none => pure (.finite false 0 1)
  | some arg =>
    match quotedNumber? m arg with
    | some n => noteLeftOver m arg; pure (.finite false n 1)
    | none =>
      let (x, rest, outside) := Format.takeReal (sizeOf m) arg
      checkNumber m arg rest outside
      pure x

/-- A number as a word of half the size; what does not fit wraps around. -/
def wrapped (n : Int) : Int := Int.bmod n (Nat.pow 2 32)

def starred (m : Manner) (precision : Bool) : Bytes → Press (Option Int × Bytes)
  | '*' :: cs => do
    let arg := ((← get).arguments.head?).getD []
    let n ← signedArgument m
    let limit : Int := Format.sizeLimit
    if m = .inside then pure (some (wrapped n), cs)
    else if limit < n ∨ (n < -limit - 1 ∧ !precision) then
      giveUp 1 (ofText (if precision then "invalid precision: " else "invalid field width: ") ++ quoted arg)
    else pure (some n, cs)
  | cs => pure (none, cs)

/-- The flags in front of a conversion, and the letters that they rule out; a program knows flags
for the language too. -/
def readFlags (m : Manner) : Format.Spec → String → Bytes → Format.Spec × String × Bytes
  | s, barred, [] => (s, barred, [])
  | s, barred, c :: cs =>
    if m = .program ∧ (c = '\'' ∨ c = 'I') then readFlags m s (barred ++ "aAceEosxX") cs
    else match s.withFlag? c with
      | some s =>
        readFlags m s (if c = '#' then barred ++ "cdisu" else if c = '0' then barred ++ "cs" else barred)
          cs
      | none => (s, barred, c :: cs)

/-- Ends all output; for a program that is a success. -/
def finishEarly (m : Manner) : Press Unit := do
  let status := (← get).status
  throw (if m = .program then 0 else status)

/-- Writes an argument as its letter says; gives false if there is no such letter. -/
def convert (m : Manner) (s : Format.Spec) (kind : Char) : Press Bool := do
  match kind with
  | 'b' =>
    let arg := (← next?).getD []
    let escape := if m = .inside then insideEscape true else programEscape true
    match unescape escape (arg.length + 1) arg with
    | .error message => giveUp 1 message
    | .ok (text, stop) =>
      put (Format.text s text)
      if stop then finishEarly m
      pure true
  | 'c' =>
    let arg := (← next?).getD []
    let c := match arg with
      | c :: _ => [c]
      | [] => ['\x00']
    put (s.pad c)
    pure true
  | 's' => put (Format.text s ((← next?).getD [])); pure true
  | 'd' | 'i' => put (Format.signed s (← signedArgument m)); pure true
  | 'o' | 'u' | 'x' | 'X' => put (Format.unsigned s kind (← unsignedArgument m)); pure true
  | 'a' | 'A' | 'e' | 'E' | 'f' | 'F' | 'g' | 'G' =>
    put (Format.real s (sizeOf m) kind (← realArgument m))
    pure true
  | _ => pure false

def isLengthLetter (c : Char) : Bool := "lLhjtz".contains c

/-- A conversion behind its percent sign; gives what follows it. -/
def conversion (m : Manner) (cs : Bytes) : Press Bytes := do
  let shown (rest : Bytes) : Bytes := '%' :: cs.take (cs.length - rest.length)
  match m, cs with
  | .program, 'q' :: rest =>
    match ← next? with
    | some arg => put (shellQuoted arg)
    | none => pure ()
    pure rest
  | .program, 'b' :: rest =>
    let _ ← convert m {} 'b'
    pure rest
  | m, cs =>
    let (s, barred, rest) := readFlags m {} "" cs
    let (star, rest) ← starred m false rest
    let (s, rest) := match star with
      | some w => (s.withWidth w, rest)
      | none =>
        let (n, rest) := takeNumber 10 rest
        ({ s with width := n }, rest)
    let (s, barred, rest) ← match rest with
      | '.' :: rest => do
        let (star, rest) ← starred m true rest
        match star with
        | some p => pure (s.withPrecision p, barred.push 'c', rest)
        | none =>
          let (n, rest) := takeNumber 10 rest
          pure ({ s with precision := some n }, barred.push 'c', rest)
      | rest => pure (s, barred, rest)
    let rest := if m = .program then rest.dropWhile isLengthLetter else rest
    match m, rest with
    | .inside, [] => giveUp 2 (ofText "missing format character")
    | .inside, kind :: rest =>
      if s.isExcessive then giveUp 2 (ofText "xvsnprintf failed")
      else if ← convert m s kind then pure rest
      else giveUp 2 (shown rest ++ ofText ": invalid directive")
    | .program, [] => giveUp 1 (shown [] ++ ofText ": invalid conversion specification")
    | .program, kind :: rest =>
      if "aAcdeEfFgGiosuxX".contains kind ∧ !barred.contains kind then
        if s.isExcessive then giveUp 1 (ofText "write error")
        let _ ← convert m s kind
        pure rest
      else giveUp 1 (shown rest ++ ofText ": invalid conversion specification")

def pass (m : Manner) : Nat → Bytes → Press Unit
  | _, [] | 0, _ => pure ()
  | fuel + 1, '%' :: '%' :: cs => do
    put ['%']
    pass m fuel cs
  | fuel + 1, '%' :: cs => do
    let rest ← conversion m cs
    pass m fuel rest
  | fuel + 1, '\\' :: cs => do
    let escape := if m = .inside then insideEscape false else programEscape false
    match escape cs with
    | .byte c rest => put [c]; pass m fuel rest
    | .bytes ds rest => put ds; pass m fuel rest
    | .literal => put ['\\']; pass m fuel cs
    | .stop => finishEarly m
    | .malformed message => giveUp 1 message
  | fuel + 1, c :: cs => do
    put [c]
    pass m fuel cs

def rounds (m : Manner) (format : Bytes) : Nat → Press Unit
  | 0 => pure ()
  | fuel + 1 => do
    modify fun p => { p with took := false }
    pass m (format.length + 1) format
    let p ← get
    match p.arguments with
    | [] => pure ()
    | a :: _ =>
      if p.took then rounds m format fuel
      else if m = .program then
        note (ofText "warning: ignoring excess arguments, starting with " ++ quoted a)

def formatted (m : Manner) (format : Bytes) (args : List Bytes) : List Piece × Nat :=
  Press.finish (rounds m format (args.length + 1)) args

def printf : Program := do
  let args := match (← read).arguments with
    | ['-', '-'] :: args => args
    | args => args
  match args with
  | [] => Effect.misused 1 (ofText "missing operand")
  | format :: args =>
    let (pieces, status) := formatted .program format args
    for piece in pieces do
      match piece with
      | .text cs => Effect.put cs
      | .note message => Effect.complain message
    pure status

end LazyBundle.Shell.Print
