import LazyBundle.Shell.Amount

/-!
# Copying

Programs that write what they read, or write it in another order.
-/

namespace LazyBundle.Shell.Copy

open Effect

def withOptions (table : OptionTable) (misuse : Nat) (act : Chosen → Program) : Program := do
  match table.read (← read).arguments with
  | .error f => misused misuse f.message
  | .ok chosen => act chosen

/-- The operands, or the input if there are none. -/
def sourcesOf (chosen : Chosen) : List Bytes :=
  if chosen.operands.isEmpty then [['-']] else chosen.operands

/-- Works on the content of every source; a source that cannot be read leaves a mark on the
status. -/
def overSources (sources : List Bytes) (failure : Nat) (act : Bytes → Bytes → Effect Unit)
    (lead : Bytes → Bytes := nameText) : Program := do
  let mut status := 0
  for name in sources do
    match ← content name with
    | .ok cs => act name cs
    | .error r =>
      complain (lead name ++ [':', ' '] ++ r.message)
      status := failure
  pure status

def gather (sources : List Bytes) (failure : Nat) (lead : Bytes → Bytes := nameText) :
    Effect (Bytes × Nat) := do
  let mut status := 0
  let mut all : List Bytes := []
  for name in sources do
    match ← content name with
    | .ok cs => all := cs :: all
    | .error r =>
      complain (lead name ++ [':', ' '] ++ r.message)
      status := failure
  pure (all.reverse.flatten, status)

/-! ## Whole copies -/

structure Display where
  numbers : Bool := false
  filledOnly : Bool := false
  squeeze : Bool := false
  ends : Bool := false
  tabs : Bool := false
  controls : Bool := false

def Display.isPlain (d : Display) : Bool :=
  !(d.numbers || d.filledOnly || d.squeeze || d.ends || d.tabs || d.controls)

/-- A byte with a caret for control characters and `M-` for the upper half. -/
def caretText (c : Char) : Bytes :=
  let low (n : Nat) : Bytes :=
    if n < 32 then ['^', Char.ofNat (n + 64)] else if n = 127 then ['^', '?'] else [Char.ofNat n]
  if c.toNat < 128 then low c.toNat else 'M' :: '-' :: low (c.toNat - 128)

def Display.byte (d : Display) (c : Char) : Bytes :=
  if c = '\t' then if d.tabs then ['^', 'I'] else [c]
  else if d.controls then caretText c
  else [c]

structure Cursor where
  number : Nat := 0
  lineStart : Bool := true
  blanks : Nat := 0

def Display.line (d : Display) (cursor : Cursor) (l : Bytes) : Bytes × Cursor :=
  let ended := l.getLast? = some '\n'
  let body := if ended then l.dropLast else l
  -- In front of a line feed that is shown, a return is shown too.
  let tail := if d.ends && !d.controls && ended && body.getLast? = some '\r' then ['^', 'M'] else []
  let body := if tail.isEmpty then body else body.dropLast
  let blank := cursor.lineStart && body.isEmpty && tail.isEmpty && ended
  let blanks := if blank then cursor.blanks + 1 else 0
  if d.squeeze && 1 < blanks then ([], { cursor with blanks := blanks })
  else
    let counts := cursor.lineStart && (if d.filledOnly then !blank else d.numbers)
    let number := if counts then cursor.number + 1 else cursor.number
    let front := if counts then padLeft ' ' 6 (decimal number) ++ ['\t'] else []
    let back := if ended then (if d.ends then ['$', '\n'] else ['\n']) else []
    (front ++ body.flatMap d.byte ++ tail ++ back,
      { number := number, lineStart := ended, blanks := blanks })

def Display.lines (d : Display) : Cursor → List Bytes → Bytes × Cursor
  | c, [] => ([], c)
  | c, l :: ls =>
    let (front, c) := d.line c l
    let (back, c) := d.lines c ls
    (front ++ back, c)

def catOptions : OptionTable where
  letters := "beEnstTuvA".toList.map fun c => (c, .nothing)
  names := [("number-nonblank", .nothing, 'b'), ("number", .nothing, 'n'),
    ("squeeze-blank", .nothing, 's'), ("show-nonprinting", .nothing, 'v'),
    ("show-ends", .nothing, 'E'), ("show-tabs", .nothing, 'T'), ("show-all", .nothing, 'A')]

def cat : Program := withOptions catOptions 1 fun chosen => do
  let all := chosen.has 'A'
  let d : Display := {
    numbers := chosen.has 'n'
    filledOnly := chosen.has 'b'
    squeeze := chosen.has 's'
    ends := chosen.has 'E' || chosen.has 'e' || all
    tabs := chosen.has 'T' || chosen.has 't' || all
    controls := chosen.has 'v' || chosen.has 'e' || chosen.has 't' || all }
  let mut status := 0
  let mut cursor : Cursor := {}
  for name in sourcesOf chosen do
    match ← content name with
    | .ok cs =>
      if d.isPlain then put cs
      else
        let (text, next) := d.lines cursor (splitLines cs)
        put text
        cursor := next
    | .error r =>
      complain (nameText name ++ [':', ' '] ++ r.message)
      status := 1
  if (sourcesOf chosen).contains ['-'] ∧ (← descriptor? 0).isNone then
    complain (ofText "closing standard input: Bad file descriptor")
    status := 1
  pure status

def tee : Program := withOptions { letters := [('a', .nothing), ('i', .nothing), ('p', .nothing)] } 1
    fun chosen => do
  match ← input with
  | .error r => giveUp 1 (ofText "read error: " ++ r.message)
  | .ok cs =>
    put cs
    let start ← read
    let mut status := 0
    for name in chosen.operands do
      match ← openFile start.descriptors start.directory name ⟨false, true, chosen.has 'a'⟩ with
      | .ok number => let _ ← writeTo number cs
      | .error r =>
        complain (nameText name ++ [':', ' '] ++ r.message)
        status := 1
    pure status

def piecesBy (separator : Bytes) (before : Bool) : Nat → Bytes → Bytes → List Bytes
  | 0, piece, _ => [piece]
  | _, piece, [] => if piece.isEmpty then [] else [piece]
  | fuel + 1, piece, c :: cs =>
    if separator.isPrefixOf (c :: cs) then
      let rest := (c :: cs).drop separator.length
      if before then
        (if piece.isEmpty then [] else [piece]) ++ piecesBy separator before fuel separator rest
      else (piece ++ separator) :: piecesBy separator before fuel [] rest
    else piecesBy separator before fuel (piece ++ [c]) cs

def tacOptions : OptionTable where
  letters := [('b', .nothing), ('r', .nothing), ('s', .argument)]
  names := [("before", .nothing, 'b'), ("regex", .nothing, 'r'), ("separator", .argument, 's')]

def tac : Program := withOptions tacOptions 1 fun chosen => do
  let separator := match (chosen.last? 's').getD ['\n'] with
    | [] => ['\x00']
    | cs => cs
  let mut status := 0
  for name in sourcesOf chosen do
    match ← content name with
    | .ok cs => put (piecesBy separator (chosen.has 'b') (cs.length + 1) [] cs).reverse.flatten
    | .error .isDirectory =>
      complain (nameText name ++ ofText ": read error: Invalid argument")
      status := 1
    | .error r =>
      complain (ofText "failed to open " ++ enquoted name ++ ofText " for reading: " ++ r.message)
      status := 1
  pure status

def rev : Program := withOptions { letters := [] } 1 fun chosen =>
  overSources (sourcesOf chosen) 1 (fun _ cs =>
    put ((splitLines cs).flatMap fun l =>
      if l.getLast? = some '\n' then l.dropLast.reverse ++ ['\n'] else l.reverse))
    (fun name => ofText "cannot open " ++ name)

def endless : Nat := 10000

def yes : Program := do
  let args := (← read).arguments
  let line := (if args.isEmpty then ['y'] else joinWords args) ++ ['\n']
  put (List.replicate endless line).flatten
  pure 1

end LazyBundle.Shell.Copy
