/-!
# Control sequences

What is left of a text when it is shown where no terminal reads it: control
characters other than blanks are dropped, and so are the sequences that steer a
terminal, from the escape character to the end that their kind has. Blanks
inside a sequence are shown nevertheless, and so is the text that follows them.
-/

namespace LazyBundle.Text.Terminal

inductive Mode
  | plain
  | escape
  /-- An escape with characters in front of its last one. -/
  | longEscape
  /-- A sequence of parameters up to a letter. -/
  | parameters
  /-- The parameters in front of the data of a device. -/
  | device
  /-- Text that is not shown, up to its terminator. -/
  | data
  /-- A command to the terminal program, up to a bell. -/
  | command
deriving DecidableEq, Repr

def isShownControl (c : Char) : Bool :=
  c == '\t' || c == '\n' || c == '\x0c' || c == '\r'

def isBetween (low high : Nat) (c : Char) : Bool :=
  low ≤ c.toNat && c.toNat ≤ high

def endsData (c : Char) : Bool :=
  (String.utf8EncodeChar c).contains 0x9C

def Mode.next (mode : Mode) (c : Char) : Mode :=
  match mode with
  | .plain => .plain
  | .escape =>
    if isBetween 0x20 0x2F c then .longEscape
    else if c = '[' then .parameters
    else if c = ']' then .command
    else if c = 'P' then .device
    else if c ∈ ['X', '^', '_'] then .data
    else if isBetween 0x30 0x7E c then .plain
    else .escape
  | .longEscape => if isBetween 0x30 0x7E c then .plain else .longEscape
  | .parameters => if isBetween 0x40 0x7E c then .plain else .parameters
  | .device => if isBetween 0x40 0x7E c then .data else .device
  | .data => if endsData c then .plain else .data
  | .command => if c = '\x07' then .plain else .command

def Mode.shows (mode : Mode) (c : Char) : Bool :=
  match mode with
  | .plain => isShownControl c || (0x20 ≤ c.toNat && c.toNat ≠ 0x7F)
  | .escape | .longEscape | .parameters => isShownControl c
  | .device | .data | .command => false

def Mode.step (mode : Mode) (c : Char) : Mode × Bool :=
  if c = '\x1b' then (.escape, false)
  else if c = '\x18' ∨ c = '\x1a' then (.plain, false)
  else (mode.next c, mode.shows c)

/-- Drops what is not shown. While `showing`, everything that plain text shows is shown, and the mode
waits for the next character that is not. -/
def strip (mode : Mode) (showing : Bool) : List Char → List Char
  | [] => []
  | c :: cs =>
    if showing && (Mode.step .plain c).2 then
      c :: strip (if 0x80 ≤ c.toNat then .plain else mode) true cs
    else
      let (mode, shown) := mode.step c
      if shown then c :: strip mode true cs else strip mode false cs

def plainText (s : String) : String :=
  String.ofList (strip .plain false s.toList)

example : strip .plain false ['a', '\x1b', '[', '1', 'm', 'b'] = ['a', 'b'] := by decide

end LazyBundle.Text.Terminal
