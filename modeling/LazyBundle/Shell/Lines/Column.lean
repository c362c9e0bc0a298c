import LazyBundle.Shell.Lines.Basic

/-!
# Columns

Takes bytes or fields out of lines, and joins lines side by side.
-/

namespace LazyBundle.Shell.Lines

open Effect Copy

/-! ## Lists of positions -/

/-- Positions from one on; the last one may be open. -/
abbrev Positions := List (Nat × Option Nat)

structure RangeReader where
  low : Option Nat := none
  high : Option Nat := none
  dash : Bool := false
  done : Positions := []

namespace RangeReader

def misuse (text : Bytes) : Misuse := (.withHint (text))

def zeroMessage (fields : Bool) : Bytes :=
  ofText (if fields then "fields are numbered from 1" else "byte/character positions are numbered from 1")

def finish (fields : Bool) (r : RangeReader) : Except Misuse Positions :=
  if r.dash then
    match r.low, r.high with
    | none, none => .error (misuse (ofText "invalid range with no endpoint: -"))
    | low, none => .ok (r.done ++ [(low.getD 1, none)])
    | low, some high =>
      if high < low.getD 1 then .error (misuse (ofText "invalid decreasing range"))
      else .ok (r.done ++ [(low.getD 1, some high)])
  else match r.low with
    | none | some 0 => .error (misuse (zeroMessage fields))
    | some n => .ok (r.done ++ [(n, some n)])

/-- Reads ranges; `start` is the text at the beginning of the current number. -/
def read (fields : Bool) (r : RangeReader) : Bytes → Except Misuse Positions
  | [] => r.finish fields
  | c :: cs =>
    if c = '-' then
      if r.dash then
        .error (misuse (ofText (if fields then "invalid field range" else "invalid byte or character range")))
      else if r.low = some 0 then .error (misuse (zeroMessage fields))
      else read fields { r with dash := true } cs
    else if c = ',' ∨ isBlank c then
      match r.finish fields with
      | .ok done => read fields { done := done } cs
      | .error m => .error m
    else if c.isDigit then
      let digit := c.toNat - 48
      let grown (n : Option Nat) : Nat := n.getD 0 * 10 + digit
      let n := grown (if r.dash then r.high else r.low)
      if wordLimit ≤ n then
        .error (misuse (ofText (if fields then "field number " else "byte/character offset ") ++
          quoted (decimal (n / 10) ++ (c :: cs).takeWhile Char.isDigit) ++ ofText " is too large"))
      else if r.dash then read fields { r with high := some n } cs
      else read fields { r with low := some n } cs
    else
      .error (misuse (ofText (if fields then "invalid field value " else "invalid byte/character position ") ++
        quoted (c :: cs)))

end RangeReader

def isChosen (ps : Positions) (n : Nat) : Bool :=
  ps.any fun (a, b) => a ≤ n && (b.map fun b => decide (n ≤ b)).getD true

/-- Whether a range begins at a position and none goes through it from before. -/
def isStart (ps : Positions) (n : Nat) : Bool :=
  (ps.any fun (a, _) => a = n) && !(ps.any fun (a, b) => a < n && (b.map fun b => decide (n ≤ b)).getD true)

/-! ## Taking out -/

structure Cut where
  list : Option Bytes := none
  bytes : Bool := false
  delimiter : Option Char := none
  delimitedOnly : Bool := false
  complement : Bool := false
  joint : Option Bytes := none
  zero : Bool := false

def cutOptions : OptionTable where
  letters := [('b', .argument), ('c', .argument), ('f', .argument), ('d', .argument), ('n', .nothing),
    ('s', .nothing), ('z', .nothing)]
  names := [("bytes", .argument, 'b'), ("characters", .argument, 'c'), ("fields", .argument, 'f'),
    ("delimiter", .argument, 'd'), ("only-delimited", .nothing, 's'), ("complement", .nothing, 'C'),
    ("output-delimiter", .argument, 'O'), ("zero-terminated", .nothing, 'z')]

namespace Cut

def step (k : Cut) (letter : Char) (argument : Bytes) : Except Misuse Cut :=
  match letter with
  | 'b' | 'c' | 'f' =>
    if k.list.isSome then .error (.withHint (ofText "only one list may be specified"))
    else .ok { k with list := some argument, bytes := letter != 'f' }
  | 'd' =>
    if 1 < argument.length then .error (.withHint (ofText "the delimiter must be a single character"))
    else .ok { k with delimiter := some (argument.headD '\x00') }
  | 's' => .ok { k with delimitedOnly := true }
  | 'z' => .ok { k with zero := true }
  | 'C' => .ok { k with complement := true }
  | 'O' => .ok { k with joint := some (if argument.isEmpty then ['\x00'] else argument) }
  | _ => .ok k

def pick {α : Type} (k : Cut) (ps : Positions) (items : List α) : List (Nat × α) :=
  (items.zipIdx.map fun (x, i) => (i + 1, x)).filter fun (n, _) => isChosen ps n != k.complement

/-- The wanted bytes; where ranges meet, a joint may stand between them. -/
def bytesOf (k : Cut) (ps : Positions) (l : Bytes) : Bytes :=
  let taken := k.pick ps l
  match k.joint with
  | none => taken.map (·.2)
  | some joint =>
    let starts (n : Nat) : Bool :=
      if k.complement then isChosen ps (n - 1) || n = 1 else isStart ps n
    (taken.foldl (fun (text, started) (n, c) =>
      (text ++ (if started && starts n then joint else []) ++ [c], true)) (([] : Bytes), false)).1

def line (k : Cut) (ps : Positions) (l : Bytes) : Option Bytes :=
  let d := k.delimiter.getD '\t'
  if k.bytes then some (k.bytesOf ps l)
  else if !l.contains d then (if k.delimitedOnly then none else some l)
  else some (joinWith (k.joint.getD [d]) ((k.pick ps (splitOn d l)).map (·.2)))

end Cut

def cut : Program := inOrder cutOptions 1 ({} : Cut) Cut.step fun k operands => do
  match k.list with
  | none => misused 1 (ofText "you must specify a list of bytes, characters, or fields")
  | some list =>
    if k.bytes ∧ k.delimiter.isSome then
      misused 1 (ofText "an input delimiter may be specified only when operating on fields")
    else if k.bytes ∧ k.delimitedOnly then
      misused 1 (ofText "suppressing non-delimited lines makes sense\n\tonly when operating on fields")
    else match RangeReader.read (!k.bytes) {} list with
      | .error m => misused 1 m.message
      | .ok ps =>
        let mark := if k.zero then '\x00' else '\n'
        overSources (if operands.isEmpty then [['-']] else operands) 1 fun _ cs =>
          put ((linesBy mark cs).flatMap fun l => ((k.line ps l).map (· ++ [mark])).getD [])

/-! ## Joining -/

def pasteOptions : OptionTable where
  letters := [('d', .argument), ('s', .nothing), ('z', .nothing)]
  names := [("delimiters", .argument, 'd'), ("serial", .nothing, 's'), ("zero-terminated", .nothing, 'z')]

def joinCycling (separators : List Bytes) : List Bytes → Bytes
  | [] => []
  | p :: ps => p ++ ps.zipIdx.flatMap fun (q, i) => (separators[i % separators.length]?).getD [] ++ q

/-- The separators of a list; a zero stands for none. A backslash at the end stands for nothing. -/
def separatorsOf? : Bytes → Option (List Bytes)
  | ['\\'] => none
  | '\\' :: c :: cs =>
    let one := if c = '0' then [] else match c with
      | 'b' => ['\x08']
      | 'f' => ['\x0c']
      | 'n' => ['\n']
      | 'r' => ['\r']
      | 't' => ['\t']
      | 'v' => ['\x0b']
      | c => [c]
    (separatorsOf? cs).map (one :: ·)
  | c :: cs => (separatorsOf? cs).map ([c] :: ·)
  | [] => some []

/-- Deals lines out to columns that share one source; other columns take their own. -/
def deal (shared : List Bytes) : Nat → List (Option (List Bytes)) → List (List (Option Bytes))
  | 0, _ => []
  | fuel + 1, columns =>
    let (row, shared, columns) := columns.foldl (fun (row, shared, done) column =>
      match column with
      | none => (row ++ [shared.head?], shared.drop 1, done ++ [none])
      | some ls => (row ++ [ls.head?], shared, done ++ [some (ls.drop 1)]))
      (([] : List (Option Bytes)), shared, ([] : List (Option (List Bytes))))
    if row.all Option.isNone then [] else row :: deal shared fuel columns

def paste : Program := withOptions pasteOptions 1 fun chosen => do
  let list := (chosen.last? 'd').getD ['\t']
  let mark := if chosen.has 'z' then '\x00' else '\n'
  match separatorsOf? list with
  | none =>
    giveUp 1 (ofText "delimiter list ends with an unescaped backslash: " ++ list)
  | some separators =>
    let separators := if separators.isEmpty then [[]] else separators
    let sources := sourcesOf chosen
    if chosen.has 's' then
      overSources sources 1 fun _ cs => put (joinCycling separators (linesBy mark cs) ++ [mark])
    else
      let mut columns : List (Option (List Bytes)) := []
      for name in sources do
        if name = ['-'] then columns := columns ++ [none]
        else match ← content name with
          | .ok cs => columns := columns ++ [some (linesBy mark cs)]
          | .error r => return ← giveUp 1 (nameText name ++ [':', ' '] ++ r.message)
      let shared ← if sources.contains ['-'] then do
          match ← input with
          | .ok cs => pure (linesBy mark cs)
          | .error _ => pure []
        else pure []
      let height := shared.length + (columns.map fun c => (c.getD []).length).foldl max 0 + 1
      put ((deal shared height columns).flatMap fun row =>
        joinCycling separators (row.map fun c => c.getD []) ++ [mark])
      pure 0

end LazyBundle.Shell.Lines
