import LazyBundle.Shell.Copy
import LazyBundle.Shell.Format
import LazyBundle.Shell.Print

/-!
# Series of numbers

A program that counts from one number to another in steps. Numbers are decimal
and exact; how many places are shown follows from how the first number and the
step are written.
-/

namespace LazyBundle.Shell.Series

open Effect Copy

/-! ## Operands -/

/-- A number as it is written: `units` of the last of its `places`. -/
structure Number where
  units : Int
  places : Nat
  /-- How wide the text is without its exponent. -/
  width : Nat
  isNegative : Bool
deriving Repr

def Number.one : Number := ⟨1, 0, 0, false⟩

def isBlankOrPlus (c : Char) : Bool :=
  isSpace c || c == '+'

def signed (negative : Bool) (n : Nat) : Int :=
  if negative then -(n : Int) else n

/-- The digits behind the point and where the exponent may begin. -/
def fractionOf : Bytes → Option Bytes × Bytes
  | '.' :: more => (some (more.takeWhile Char.isDigit), more.dropWhile Char.isDigit)
  | rest => (none, rest)

def exponent? : Bytes → Option Int
  | [] => some 0
  | c :: rest =>
    if c = 'e' ∨ c = 'E' then
      let (negative, ds) := Format.takeSign rest
      (digits? ds).map (signed negative)
    else none

def widening (wholeIsEmpty : Bool) (fraction : Option Bytes) (places : Nat) (e : Int) : Int :=
  let decimals := (fraction.getD []).length
  let point : Int := match fraction with
    | none => 0
    | some [] => -1
    | some _ => if wholeIsEmpty then 1 else 0
  if e < 0 then point + (if decimals = 0 then 1 else 0) + e.natAbs
  else point - (if decimals ≠ 0 ∧ places = 0 then 1 else 0) + (e.toNat - decimals : Nat)

def decimalNumber? (width : Nat) (negative : Bool) (body : Bytes) : Option Number :=
  let whole := body.takeWhile Char.isDigit
  let (fraction, rest) := fractionOf (body.drop whole.length)
  let decimals := fraction.getD []
  if whole.isEmpty ∧ decimals.isEmpty then none
  else (exponent? rest).map fun e =>
    let digits := whole ++ decimals ++ List.replicate (e.toNat - decimals.length) '0'
    let places := decimals.length - e.toNat + (-e).toNat
    let width : Int := (width - rest.length : Nat) + widening whole.isEmpty fraction places e
    ⟨signed negative (takeNumber 10 digits).1, places, width.toNat, negative⟩

/-- The number that a text stands for; a width is only known for decimal ones. -/
def number? (text : Bytes) : Option Number :=
  let (negative, body) := Format.takeSign text
  let decimal := decimalNumber? (text.dropWhile isBlankOrPlus).length negative body
  match body with
  | '0' :: x :: ds =>
    if x = 'x' ∨ x = 'X' then
      match takeNumber 16 ds with
      | (n, []) => if ds.isEmpty then none else some ⟨signed negative n, 0, 0, negative⟩
      | _ => none
    else decimal
  | _ => decimal

def placed (places : Nat) (n : Int) : Bytes :=
  let digits := padLeft '0' (places + 1) (decimal n.natAbs)
  let whole := digits.take (digits.length - places)
  let fraction := digits.drop (digits.length - places)
  (if n < 0 then ['-'] else []) ++ whole ++ (if places = 0 then [] else '.' :: fraction)

def rangeFrom (last step : Int) : Nat → Int → List Int × Int
  | 0, n => ([], n)
  | fuel + 1, n =>
    if (0 < step ∧ last < n) ∨ (step < 0 ∧ n < last) then ([], n)
    else let r := rangeFrom last step fuel (n + step); (n :: r.1, r.2)

/-! ## Formats -/

/-- A format cut around its directive, or what is wrong with it. Two percent signs stand for one. -/
structure Layout where
  /-- How many characters stand before and behind the number. -/
  before : Nat
  behind : Nat

/-- Counts the characters up to a directive; returns the text behind its percent sign. -/
def plainRun : Nat → Bytes → Nat × Option Bytes
  | n, [] => (n, none)
  | n, '%' :: '%' :: cs => plainRun (n + 1) cs
  | n, '%' :: cs => (n, some cs)
  | n, _ :: cs => plainRun (n + 1) cs

def layout (format : Bytes) : Except Bytes Layout :=
  let fault (text : Bytes) : Except Bytes Layout :=
    .error (ofText "format " ++ quoted format ++ ofText " has " ++ text)
  match plainRun 0 format with
  | (_, none) => fault (ofText "no % directive")
  | (before, some cs) =>
    let cs := (cs.dropWhile ['-', '+', '#', '0', ' ', '\''].contains).dropWhile Char.isDigit
    let cs := match cs with
      | '.' :: more => more.dropWhile Char.isDigit
      | cs => cs
    let cs := match cs with
      | 'L' :: more => more
      | cs => cs
    match cs with
    | [] => .error (ofText "format " ++ quoted format ++ ofText " ends in %")
    | c :: rest =>
      if !("efgaEFGA".toList.contains c) then fault (ofText "unknown %" ++ c :: ofText " directive")
      else
        match plainRun 0 rest with
        | (behind, none) => .ok ⟨before, behind⟩
        | (_, some _) => fault (ofText "too many % directives")

def filled (format number : Bytes) : Bytes :=
  (Print.formatted .program format [number]).1.flatMap fun p => match p with
    | .text cs => cs
    | .note _ => []

/-! ## The program -/

def options : OptionTable where
  letters := [('s', .argument), ('f', .argument), ('w', .nothing)]
  names := [("separator", .argument, 's'), ("format", .argument, 'f'), ("equal-width", .nothing, 'w')]
  anywhere := false

def isNegativeNumber : Bytes → Bool
  | '-' :: c :: _ => c.isDigit || c == '.'
  | _ => false

def takesNext : Bytes → Bool
  | '-' :: '-' :: name =>
    !name.isEmpty && (name.isPrefixOf (ofText "separator") || name.isPrefixOf (ofText "format"))
  | '-' :: letters =>
    match letters.dropWhile (· == 'w') with
    | [c] => c == 's' || c == 'f'
    | _ => false
  | _ => false

/-- Ends the options in front of a negative number, which is none; `taken` says that the first word
belongs to the option before it. -/
def shieldNumbers (taken : Bool) : List Bytes → List Bytes
  | [] => []
  | a :: args =>
    if taken then a :: shieldNumbers false args
    else if isNegativeNumber a then ['-', '-'] :: a :: args
    else if a.head? ≠ some '-' ∨ a.length < 2 ∨ a = ['-', '-'] then a :: args
    else a :: shieldNumbers (takesNext a) args

structure Bounds where
  first : Number := .one
  step : Number := .one
  last : Number

namespace Bounds

def places (b : Bounds) : Nat := max b.first.places b.step.places

def finest (b : Bounds) : Nat := max b.places b.last.places

def scaled (b : Bounds) (n : Number) : Int := n.units * Int.pow 10 (b.finest - n.places)

def textOf (b : Bounds) (n : Int) : Bytes :=
  placed b.places (n.tdiv (Int.pow 10 (b.finest - b.places)))

def width (b : Bounds) : Nat :=
  let ends (n : Number) : Nat :=
    n.width + b.places - n.places + (if n.places = 0 ∧ b.places ≠ 0 then 1 else 0)
  let last := ends b.last - (if b.last.places ≠ 0 ∧ b.places = 0 then 1 else 0)
  max (ends b.first) last

def texts (b : Bounds) : List Bytes × Bytes :=
  let step := b.scaled b.step
  let first := b.scaled b.first
  let last := b.scaled b.last
  let count := ((last - first).natAbs / step.natAbs) + 1
  let (numbers, beyond) := rangeFrom last step (count + 1) first
  let texts := numbers.map b.textOf
  (match texts with
    | t :: ts => (if b.first.isNegative ∧ first = 0 then '-' :: t else t) :: ts
    | [] => [], b.textOf beyond)

end Bounds

/-- The numbers in a format. Behind the end there is one more if it reads as the end itself and not as
the number before it. -/
def shownBy (format : Bytes) (l : Layout) (b : Bounds) : List Bytes :=
  let (texts, beyond) := b.texts
  let shown := texts.map (filled format)
  let extra := filled format beyond
  let text := (extra.drop l.before).take (extra.length - l.before - l.behind)
  let meetsEnd : Bool := match number? text with
    | some n => n.units * Int.pow 10 b.last.places == b.last.units * Int.pow 10 n.places
    | none => false
  match shown.getLast? with
  | some previous => if meetsEnd && previous != extra then shown ++ [extra] else shown
  | none => []

def widened (width : Nat) : Bytes → Bytes
  | '-' :: cs => '-' :: padLeft '0' (width - 1) cs
  | cs => padLeft '0' width cs

def operand (text : Bytes) : Except Bytes Number :=
  match number? text with
  | some n => .ok n
  | none => .error (ofText "invalid floating point argument: " ++ quoted text)

def bounds : List Bytes → Except Bytes Bounds
  | [last] => return { last := ← operand last }
  | [first, last] => return { first := ← operand first, last := ← operand last }
  | first :: step :: last :: _ => do
    let f ← operand first
    let s ← operand step
    if s.units = 0 then throw (ofText "invalid Zero increment value: " ++ quoted step)
    return { first := f, step := s, last := ← operand last }
  | [] => .error (ofText "missing operand")

def seq : Program := fun start =>
  go { start with arguments := shieldNumbers false start.arguments }
where
  putAll (chosen : Chosen) (texts : List Bytes) : Program := do
    let separator := (chosen.last? 's').getD ['\n']
    if !texts.isEmpty then put (joinWith separator texts ++ ['\n'])
    pure 0
  ranged (operands : List Bytes) (act : Bounds → Program) : Program :=
    match bounds operands with
    | .error message => misused 1 message
    | .ok b => act b
  go : Program := withOptions options 1 fun chosen => do
    match chosen.operands with
    | [] => misused 1 (ofText "missing operand")
    | _ :: _ :: _ :: d :: _ => misused 1 (ofText "extra operand " ++ quoted d)
    | operands =>
      match chosen.last? 'f' with
      | none =>
        ranged operands fun b =>
          putAll chosen (if chosen.has 'w' then b.texts.1.map (widened b.width) else b.texts.1)
      | some format =>
        match layout format with
        | .error message => giveUp 1 message
        | .ok l =>
          if chosen.has 'w' then
            misused 1 (ofText "format string may not be specified when printing equal width strings")
          else ranged operands fun b => putAll chosen (shownBy format l b)

end LazyBundle.Shell.Series
