import LazyBundle.Shell.Copy

/-!
# Parts of a source

Writes the first or the last bytes or lines of every source, below a heading if
there are several.
-/

namespace LazyBundle.Shell.Portion

open Effect Copy

/-- What counts: bytes or lines, from one end or up to the other. -/
structure Extent where
  bytes : Bool := false
  /-- Whether the count tells what is left out instead of what is written. -/
  rest : Bool := false
  count : Nat := 10
  /-- Whether sources have headings; if that is not told, several have them. -/
  headed : Option Bool := none
  zero : Bool := false

def Extent.mark (p : Extent) : Char := if p.zero then '\x00' else '\n'

def Extent.pieces (p : Extent) (cs : Bytes) : List Bytes :=
  if p.bytes then cs.map fun c => [c] else splitAfter p.mark cs

def options : OptionTable where
  letters := [('c', .argument), ('n', .argument), ('q', .nothing), ('v', .nothing), ('z', .nothing)] ++
    "0123456789".toList.map fun c => (c, .nothing)
  names := [("bytes", .argument, 'c'), ("lines", .argument, 'n'), ("quiet", .nothing, 'q'),
    ("silent", .nothing, 'q'), ("verbose", .nothing, 'v'), ("zero-terminated", .nothing, 'z')]

def number (bytes : Bool) (text : Bytes) : Except Misuse Nat :=
  amountOr (if bytes then "invalid number of bytes" else "invalid number of lines") true 0 (wordLimit - 1)
    text

/-- The options that do not count. -/
def Extent.withSetting (p : Extent) (letter : Char) : Extent :=
  match letter with
  | 'q' => { p with headed := some false }
  | 'v' => { p with headed := some true }
  | 'z' => { p with zero := true }
  | _ => p

def heading (isFirst : Bool) (name : Bytes) : Bytes :=
  (if isFirst then [] else ['\n']) ++ ofText "==> " ++
    (if name = ['-'] then ofText "standard input" else name) ++ ofText " <==\n"

/-- Goes through the sources; `act` writes the part of one, or tells what is wrong. -/
def overParts (p : Extent) (sources : List Bytes) (act : Bytes → Nat → Effect (Except Refusal Bytes)) :
    Program := do
  let headed := p.headed.getD (1 < sources.length)
  let mut status := 0
  let mut isFirst := true
  for name in sources do
    let opened ← if name = ['-'] then do
        pure (match ← descriptor? 0 with
          | some n => .ok n
          | none => .error .badDescriptor)
      else openRead name
    match opened with
    | .error r =>
      complain (ofText "cannot open " ++ enquoted name ++ ofText " for reading: " ++ r.message)
      status := 1
    | .ok number =>
      if headed then put (heading isFirst name)
      isFirst := false
      match ← act name number with
      | .ok part => put part
      | .error r =>
        complain (ofText "error reading " ++ enquoted (if name = ['-'] then ofText "standard input" else name) ++
          [':', ' '] ++ r.message)
        status := 1
  pure status

/-! ## The front -/

def blockSize : Nat := 8192

/-- Takes the front of a source. A source that cannot be rewound loses whole blocks. -/
def Extent.takeFront (p : Extent) (number : Nat) : Effect (Except Refusal Bytes) := do
  if p.rest then
    match ← readAll number with
    | .error r => pure (.error r)
    | .ok cs =>
      let pieces := p.pieces cs
      pure (.ok ((pieces.take (pieces.length - p.count)).flatten))
  else if p.count = 0 then pure (.ok [])
  else match ← channel? number with
    | some (.source seen) =>
      let part := ((p.pieces seen).take p.count).flatten
      let blocks := (part.length + blockSize - 1) / blockSize
      let _ ← readSome number (if p.bytes then part.length else blocks * blockSize)
      pure (.ok part)
    | whole =>
      match ← readAll number with
      | .error r => pure (.error r)
      | .ok cs =>
        let part := ((p.pieces cs).take p.count).flatten
        match whole with
        | some (.file place position d) => setChannel number (.file place (position + part.length) d)
        | _ => pure ()
        pure (.ok part)

def Extent.withTrailing (p : Extent) (digits : Bytes) : Bytes → Option Char → Except Misuse Extent
  | [], unit => do
    let n ← number p.bytes (digits ++ unit.toList)
    pure { p with count := n }
  | c :: cs, unit =>
    match c with
    | 'c' => { p with bytes := true }.withTrailing digits cs none
    | 'b' | 'k' | 'm' => { p with bytes := true }.withTrailing digits cs (some c)
    | 'l' => { p with bytes := false }.withTrailing digits cs unit
    | 'q' | 'v' | 'z' => (p.withSetting c).withTrailing digits cs unit
    | c => throw (.withHint (ofText "invalid trailing option -- " ++ [c]))

def headStep (p : Extent) (letter : Char) (argument : Bytes) : Except Misuse Extent :=
  let counted (bytes : Bool) : Except Misuse Extent := do
    let (rest, text) := match argument with
      | '-' :: cs => (true, cs)
      | cs => (false, cs)
    let n ← number bytes text
    pure { p with bytes := bytes, rest := rest, count := n }
  match letter with
  | 'c' => counted true
  | 'n' => counted false
  | c =>
    if c.isDigit then throw (.withHint (ofText "invalid trailing option -- " ++ [c]))
    else pure (p.withSetting c)

def sourcesIn (operands : List Bytes) : List Bytes :=
  if operands.isEmpty then [['-']] else operands

def head : Program := fun start =>
  match start.arguments with
  | ('-' :: c :: cs) :: args =>
    if c.isDigit then
      let digits := (c :: cs).takeWhile Char.isDigit
      match Extent.withTrailing {} digits (cs.drop (digits.length - 1)) none with
      | .ok p => go p { start with arguments := args }
      | .error m => (if m.hinted then misused 1 m.message else giveUp 1 m.message) start
    else go {} start
  | _ => go {} start
where
  go (p : Extent) : Program := inOrder options 1 p headStep fun p operands =>
    overParts p (sourcesIn operands) fun _ number => p.takeFront number

/-! ## The back -/

def Extent.takeBack (p : Extent) (cs : Bytes) : Bytes :=
  let pieces := p.pieces cs
  if p.rest then (pieces.drop (p.count - 1)).flatten
  else (pieces.drop (pieces.length - p.count)).flatten

def tailOptions : OptionTable :=
  { options with
    letters := [('f', .nothing), ('F', .nothing), ('s', .argument)] ++ options.letters
    names := [("follow", .joined, 'f'), ("retry", .nothing, 'F')] ++ options.names }

def tailStep (p : Extent) (letter : Char) (argument : Bytes) : Except Misuse Extent :=
  let counted (bytes : Bool) : Except Misuse Extent := do
    let rest := p.rest || argument.head? = some '+'
    let text := if argument.head? = some '-' then argument.drop 1 else argument
    let n ← number bytes text
    pure { p with bytes := bytes, rest := rest, count := n }
  match letter with
  | 'c' => counted true
  | 'n' => counted false
  | c =>
    if c.isDigit then throw (.plain (ofText "option used in invalid context -- " ++ [c]))
    else pure (p.withSetting c)

/-- A single option in front of at most one file: a count with a sign and a unit. -/
def obsolete? : List Bytes → Option Extent
  | option :: args =>
    let alone : Bool := match args with
      | [] => true
      | [a] => a.head? ≠ some '-' ∨ a.length = 1
      | [a, _] => a = ['-', '-']
      | _ => false
    let few : Bool := alone || (args.length ≤ 2 && args.head? = some ['-', '-'])
    let body := option.drop 1
    let digits := body.takeWhile Char.isDigit
    let unit := body.drop digits.length
    let sign := option.head?
    let meant : Bool := sign = some '+' ||
      (sign = some '-' && (if body.head? = some 'c' then 2 ≤ body.length else 1 ≤ body.length))
    let letters := if unit.getLast? = some 'f' then unit.dropLast else unit
    if !few || !meant || !([[], ['b'], ['c'], ['l']] : List Bytes).contains letters then none
    else
      let factor := if letters = ['b'] then 512 else 1
      let count := (if digits.isEmpty then 10 else (takeNumber 10 digits).1) * factor
      some {
        bytes := letters = ['b'] || letters = ['c']
        rest := sign = some '+'
        count := count }
  | [] => none

def tail : Program := fun start =>
  match obsolete? start.arguments with
  | some p => go p { start with arguments := start.arguments.drop 1 }
  | none => go {} start
where
  go (p : Extent) : Program := inOrder tailOptions 1 p tailStep fun p operands => do
    if p.count = 0 ∧ !p.rest then return 0
    overParts p (sourcesIn operands) fun _ number => do
      match ← readAll number with
      | .ok cs => pure (.ok (p.takeBack cs))
      | .error r => pure (.error r)

end LazyBundle.Shell.Portion
