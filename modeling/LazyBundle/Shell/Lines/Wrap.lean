import LazyBundle.Regex.Machine
import LazyBundle.Regex.Posix
import LazyBundle.Shell.Lines.Basic

/-!
# Widths and numbers

Breaks long lines, and writes numbers in front of lines.
-/

namespace LazyBundle.Shell.Lines

open Effect Copy

/-! ## Breaking -/

structure Fold where
  bytes : Bool := false
  atBlanks : Bool := false
  width : Nat := 80

def Fold.advance (f : Fold) (column : Nat) (c : Char) : Nat :=
  if f.bytes then column + 1
  else match c with
    | '\x08' => column - 1
    | '\r' => 0
    | '\t' => column + 8 - column % 8
    | _ => column + 1

/-- Adds a character to a line that is kept back, and writes what does not fit. -/
def Fold.add (f : Fold) (c : Char) : Nat → Bytes × Nat → Bytes × Bytes × Nat
  | 0, (kept, column) => ([], kept ++ [c], column)
  | fuel + 1, (kept, column) =>
    let next := f.advance column c
    if next ≤ f.width then ([], kept ++ [c], next)
    else
      let front := (kept.reverse.dropWhile fun c => !isBlank c).reverse
      if f.atBlanks ∧ !front.isEmpty then
        let back := kept.drop front.length
        let (text, rest) := f.add c fuel (back, back.foldl f.advance 0)
        (front ++ '\n' :: text, rest)
      else if kept.isEmpty then ([], [c], next)
      else
        let (text, rest) := f.add c fuel ([], 0)
        (kept ++ '\n' :: text, rest)

def Fold.text (f : Fold) (cs : Bytes) : Bytes :=
  let (pieces, kept, _) := cs.foldl (fun (pieces, kept, column) c =>
    if c = '\n' then ((kept ++ [c]) :: pieces, ([], 0))
    else
      let (text, rest) := f.add c (kept.length + 2) (kept, column)
      (text :: pieces, rest)) (([] : List Bytes), ([], 0))
  pieces.reverse.flatten ++ kept

def foldOptions : OptionTable where
  letters := [('b', .nothing), ('s', .nothing), ('w', .argument)] ++
    "0123456789".toList.map fun c => (c, .joined)
  names := [("width", .argument, 'w'), ("spaces", .nothing, 's'), ("bytes", .nothing, 'b')]

def Fold.step (f : Fold) (letter : Char) (argument : Bytes) : Except Misuse Fold :=
  let sized (text : Bytes) : Except Misuse Fold := do
    let n ← amountOr "invalid number of columns" false 1 (wordLimit - 10) text
    pure { f with width := n }
  match letter with
  | 'b' => pure { f with bytes := true }
  | 's' => pure { f with atBlanks := true }
  | 'w' => sized argument
  | digit => sized (digit :: argument)

def fold : Program := inOrder foldOptions 1 ({} : Fold) Fold.step fun f operands =>
  overSources (if operands.isEmpty then [['-']] else operands) 1 fun _ cs => put (f.text cs)

/-! ## Numbering -/

inductive Numbered
  | all
  | filled
  | none
  | matching (m : Regex.Machine)

inductive Section
  | header
  | body
  | footer
deriving DecidableEq, Repr

structure Numbering where
  header : Numbered := .none
  body : Numbered := .filled
  footer : Numbered := .none
  start : Int := 1
  increment : Int := 1
  keeps : Bool := false
  /-- How many empty lines count as one. -/
  joined : Nat := 1
  separator : Bytes := ['\t']
  width : Nat := 6
  /-- The letters for the place of the number in its column. -/
  form : Bytes := ['r', 'n']
  /-- Two of these three times, twice or once stand in front of a part. -/
  marks : Bytes := ['\\', ':']
  /-- What is wrong with the options. -/
  faults : List Bytes := []

namespace Numbering

def nlOptions : OptionTable where
  letters := [('p', .nothing)] ++ "hbfvilswnd".toList.map fun c => (c, Need.argument)
  names := [("header-numbering", .argument, 'h'), ("body-numbering", .argument, 'b'),
    ("footer-numbering", .argument, 'f'), ("starting-line-number", .argument, 'v'),
    ("line-increment", .argument, 'i'), ("no-renumber", .nothing, 'p'),
    ("join-blank-lines", .argument, 'l'), ("number-separator", .argument, 's'),
    ("number-width", .argument, 'w'), ("number-format", .argument, 'n'),
    ("section-delimiter", .argument, 'd')]

def signedAmount (what : String) (text : Bytes) : Except Misuse Int :=
  let body := text.dropWhile isSpace
  let (negative, digits) := match body with
    | '-' :: ds => (true, ds)
    | ds => (false, ds)
  match amount? false 0 (Nat.pow 2 63 - 1) digits with
  | .ok n => .ok (if negative then -(n : Int) else n)
  | .error f => .error (.plain (ofText what ++ ofText ": " ++ quoted text ++ f.message))

def style? (text : Bytes) : Except Bytes (Option Numbered) :=
  match text with
  | 'a' :: _ => .ok (some .all)
  | 't' :: _ => .ok (some .filled)
  | 'n' :: _ => .ok (some .none)
  | 'p' :: pattern =>
    match Regex.Posix.parse {} pattern with
    | .ok e => .ok (some (.matching (Regex.Machine.ofExpr e false)))
    | .error f => .error (ofText f.message)
  | _ => .ok Option.none

def step (n : Numbering) (letter : Char) (argument : Bytes) : Except Misuse Numbering := do
  let styled (what : String) (put : Numbered → Numbering) : Except Misuse Numbering :=
    match style? argument with
    | .ok (some x) => .ok (put x)
    | .ok Option.none =>
      .ok { n with faults := n.faults ++ [ofText ("invalid " ++ what ++ " numbering style: ") ++ quoted argument] }
    | .error m => .error (.plain (m))
  match letter with
  | 'h' => styled "header" fun x => { n with header := x }
  | 'b' => styled "body" fun x => { n with body := x }
  | 'f' => styled "footer" fun x => { n with footer := x }
  | 'v' => do let v ← signedAmount "invalid starting line number" argument; pure { n with start := v }
  | 'i' => do let v ← signedAmount "invalid line number increment" argument; pure { n with increment := v }
  | 'p' => pure { n with keeps := true }
  | 'l' => do
    let v ← amountOr "invalid line number of blank lines" false 1 (Nat.pow 2 63 - 1) argument
    pure { n with joined := v }
  | 's' => pure { n with separator := argument }
  | 'w' => do
    let v ← amountOr "invalid line number field width" false 1 (Nat.pow 2 31 - 1) argument
    pure { n with width := v }
  | 'n' =>
    if [['l', 'n'], ['r', 'n'], ['r', 'z']].contains argument then pure { n with form := argument }
    else
      pure { n with faults := n.faults ++ [ofText "invalid line numbering format: " ++ quoted argument] }
  | _ => pure { n with marks := if argument.length = 1 then argument ++ [':'] else argument }

def numberText (n : Numbering) (k : Int) : Bytes :=
  let text := decimalOf k
  if n.form = ['l', 'n'] then padRight n.width text
  else if n.form = ['r', 'z'] then
    if k < 0 then '-' :: padLeft '0' (n.width - 1) (decimal k.natAbs) else padLeft '0' n.width text
  else padLeft ' ' n.width text

structure Place where
  part : Section := .body
  number : Int
  blanks : Nat := 0

def partOf? (n : Numbering) (l : Bytes) : Option Section :=
  if n.marks.isEmpty then .none
  else if l = n.marks ++ n.marks ++ n.marks then some .header
  else if l = n.marks ++ n.marks then some .body
  else if l = n.marks then some .footer
  else .none

def line (n : Numbering) (p : Place) (l : Bytes) : Bytes × Place :=
  match n.partOf? l with
  | some part => (['\n'], { p with part := part, number := if n.keeps then p.number else n.start })
  | .none =>
    let numbered : Bytes × Place :=
      (n.numberText p.number ++ n.separator ++ l ++ ['\n'], { p with number := p.number + n.increment })
    let bare : Bytes × Place :=
      (List.replicate (n.width + n.separator.length) ' ' ++ l ++ ['\n'], p)
    match match p.part with
      | .header => n.header
      | .body => n.body
      | .footer => n.footer with
    | .all =>
      if 1 < n.joined ∧ l.isEmpty then
        if p.blanks + 1 = n.joined then (numbered.1, { numbered.2 with blanks := 0 })
        else (bare.1, { p with blanks := p.blanks + 1 })
      else (numbered.1, { numbered.2 with blanks := 0 })
    | .filled => if l.isEmpty then bare else numbered
    | .none => bare
    | .matching m => if (m.search l.toArray 0).isSome then numbered else bare

end Numbering

def nl : Program := inOrder Numbering.nlOptions 1 ({} : Numbering) Numbering.step fun n operands => do
  match n.faults.reverse with
  | last :: others =>
    for m in others.reverse do complain m
    misused 1 last
  | [] =>
    let (cs, status) ← gather (if operands.isEmpty then [['-']] else operands) 1
    let (pieces, _) := (linesBy '\n' cs).foldl (fun (pieces, p) l =>
      let (text, p) := n.line p l
      (text :: pieces, p)) (([] : List Bytes), ({ number := n.start } : Numbering.Place))
    put pieces.reverse.flatten
    pure status

end LazyBundle.Shell.Lines
