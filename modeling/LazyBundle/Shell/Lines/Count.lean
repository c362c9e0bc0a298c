import LazyBundle.Shell.Lines.Basic

/-!
# Counting

Counts the lines, the words and the bytes of every source, and of all together.
-/

namespace LazyBundle.Shell.Lines

open Effect Copy

structure Counts where
  lines : Nat := 0
  words : Nat := 0
  bytes : Nat := 0
  longest : Nat := 0

namespace Counts

def add (a b : Counts) : Counts :=
  ⟨a.lines + b.lines, a.words + b.words, a.bytes + b.bytes, max a.longest b.longest⟩

def wordsIn : Bool → Bytes → Nat
  | _, [] => 0
  | inside, c :: cs =>
    if isSpace c then wordsIn false cs
    else if isPrintable c then (if inside then 0 else 1) + wordsIn true cs
    else wordsIn inside cs

/-- How far a line reaches; tabs go to the next multiple of eight. -/
def reach (cs : Bytes) : Nat :=
  (cs.foldl (fun (n, most) c =>
    let n := if c = '\n' ∨ c = '\r' ∨ c = '\x0c' then 0
      else if c = '\t' then n + 8 - n % 8
      else if isPrintable c then n + 1 else n
    (n, max most n)) (0, 0)).2

def of (cs : Bytes) : Counts where
  lines := cs.count '\n'
  words := wordsIn false cs
  bytes := cs.length
  longest := reach cs

end Counts

def wcOptions : OptionTable where
  letters := "lwcmL".toList.map fun c => (c, .nothing)
  names := [("lines", .nothing, 'l'), ("words", .nothing, 'w'), ("bytes", .nothing, 'c'),
    ("chars", .nothing, 'm'), ("max-line-length", .nothing, 'L')]

/-- How wide the columns are, told from the sizes of the sources. A source whose size is not known
in advance asks for seven. -/
def widthOf (sizes : List (Option Nat)) : Nat :=
  let known := decimal (sizes.foldl (fun n s => n + s.getD 0) 0)
  max known.length (if sizes.all Option.isSome then 1 else 7)

/-- The size of a source in advance; none for a source that is not there at all. -/
def sizeOf? (name : Bytes) : Effect (Option (Option Nat)) := do
  let opened ← if name = ['-'] then descriptor? 0 else
    match ← openRead name with
    | .ok n => pure (some n)
    | .error _ => pure none
  match opened with
  | none => pure none
  | some number =>
    match ← channel? number with
    | some (.file place _ _) =>
      match (← get).found? place with
      | some (.file _) => pure (some (some (← channelSize number)))
      | _ => pure (some none)
    | _ => pure (some none)

def wc : Program := withOptions wcOptions 1 fun chosen => do
  let plain := chosen.options.isEmpty
  let wanted (c : Char) : Bool := chosen.has c || (plain && "lwc".contains c)
  let columns (n : Counts) : List Nat :=
    (if wanted 'l' then [n.lines] else []) ++ (if wanted 'w' then [n.words] else []) ++
      (if wanted 'm' then [n.bytes] else []) ++ (if wanted 'c' then [n.bytes] else []) ++
      (if wanted 'L' then [n.longest] else [])
  let sources := sourcesOf chosen
  let sizes ← sources.mapM sizeOf?
  let width := if (sources.length = 1 ∧ (columns {}).length = 1) ∨ (sizes.head?.getD none).isNone then 1
    else widthOf (sizes.filterMap id)
  let row (n : Counts) (name : Option Bytes) : Bytes :=
    joinWords ((columns n).map fun k => padLeft ' ' width (decimal k)) ++
      (match name with
        | some name => ' ' :: name
        | none => []) ++ ['\n']
  let mut status := 0
  let mut total : Counts := {}
  for name in sources do
    let shown := if chosen.operands.isEmpty then none else some name
    match ← content name with
    | .ok cs =>
      let n := Counts.of cs
      total := total.add n
      put (row n shown)
    | .error r =>
      complain (nameText name ++ [':', ' '] ++ r.message)
      status := 1
      if r = .isDirectory then put (row {} shown)
  if 1 < sources.length then put (row total (some (ofText "total")))
  pure status

end LazyBundle.Shell.Lines
