import LazyBundle.Shell.World

/-!
# Formats

The conversions of values into text that a format asks for: signs, widths,
precisions and bases of whole numbers, decimal and scientific forms of others.
-/

namespace LazyBundle.Shell.Format

structure Spec where
  left : Bool := false
  plus : Bool := false
  blank : Bool := false
  alternate : Bool := false
  zero : Bool := false
  width : Nat := 0
  precision : Option Nat := none
deriving DecidableEq, Repr, Inhabited

/-- The largest number that a width or a precision can be. -/
def sizeLimit : Nat := Nat.pow 2 31 - 1

namespace Spec

def isExcessive (s : Spec) : Bool :=
  sizeLimit ≤ s.width || sizeLimit ≤ s.precision.getD 0

def withWidth (s : Spec) (w : Int) : Spec :=
  { s with width := w.natAbs, left := s.left || w < 0 }

/-- A negative precision is none. -/
def withPrecision (s : Spec) (p : Int) : Spec :=
  { s with precision := if p < 0 then none else some p.toNat }

def withFlag? (s : Spec) (c : Char) : Option Spec :=
  match c with
  | '-' => some { s with left := true }
  | '+' => some { s with plus := true }
  | ' ' => some { s with blank := true }
  | '#' => some { s with alternate := true }
  | '0' => some { s with zero := true }
  | _ => none

def pad (s : Spec) (text : Bytes) : Bytes :=
  if s.left then padRight s.width text else padLeft ' ' s.width text

def padNumber (s : Spec) (zeros : Bool) (sign digits : Bytes) : Bytes :=
  if zeros && s.zero && !s.left then sign ++ padLeft '0' (s.width - sign.length) digits
  else s.pad (sign ++ digits)

def sign (s : Spec) (negative : Bool) : Bytes :=
  if negative then ['-'] else if s.plus then ['+'] else if s.blank then [' '] else []

end Spec

def text (s : Spec) (cs : Bytes) : Bytes :=
  s.pad (match s.precision with
    | some p => cs.take p
    | none => cs)

def digitsTo (s : Spec) (digits : Bytes) : Bytes :=
  match s.precision with
  | some 0 => if digits = ['0'] then [] else digits
  | some p => padLeft '0' p digits
  | none => digits

def signed (s : Spec) (n : Int) : Bytes :=
  s.padNumber s.precision.isNone (s.sign (n < 0)) (digitsTo s (decimal n.natAbs))

def toUpper (cs : Bytes) : Bytes := cs.map Char.toUpper

/-- A number without a sign by the letter of its base. -/
def unsigned (s : Spec) (kind : Char) (n : Nat) : Bytes :=
  let zeros := s.precision.isNone
  match kind with
  | 'o' =>
    let digits := digitsTo s (Nat.toDigits 8 n)
    let digits := if s.alternate && digits.head? != some '0' then '0' :: digits else digits
    s.padNumber zeros [] digits
  | 'x' => s.padNumber zeros (if s.alternate && n ≠ 0 then ['0', 'x'] else []) (digitsTo s (Nat.toDigits 16 n))
  | 'X' =>
    s.padNumber zeros (if s.alternate && n ≠ 0 then ['0', 'X'] else [])
      (digitsTo s (toUpper (Nat.toDigits 16 n)))
  | _ => s.padNumber zeros [] (digitsTo s (decimal n))

/-! ## Numbers that are not whole -/

inductive Real
  | finite (negative : Bool) (num den : Nat)
  | infinite (negative : Bool)
  | notNumber (negative : Bool)
deriving Repr, Inhabited

/-- The nearest whole number to a quotient; a half goes to the even one. -/
def roundQuotient (num den : Nat) : Nat :=
  let q := num / den
  let twice := 2 * (num % den)
  if den < twice ∨ (twice = den ∧ q % 2 = 1) then q + 1 else q

/-- How many binary digits a number keeps, and the exponents of its first digit. -/
structure Size where
  bits : Nat
  /-- The least exponent that all digits are kept at. -/
  least : Int
  greatest : Int
  /-- How many of the digits stand in front of the point in base sixteen. -/
  lead : Nat

def Size.double : Size := ⟨53, -1022, 1023, 1⟩

def Size.extended : Size := ⟨64, -16382, 16383, 4⟩

def binaryExponent (num den : Nat) : Int :=
  let guess : Int := (num.log2 : Int) - den.log2
  let less : Bool :=
    if 0 ≤ guess then num < den * Nat.pow 2 guess.toNat else num * Nat.pow 2 (-guess).toNat < den
  if less then guess - 1 else guess

def scaleBinary (num den : Nat) (e : Int) : Nat × Nat :=
  if 0 ≤ e then (num * Nat.pow 2 e.toNat, den) else (num, den * Nat.pow 2 (-e).toNat)

def Size.round (z : Size) (negative : Bool) (num den : Nat) : Real × Bool :=
  if num = 0 then (.finite negative 0 1, false)
  else
    let e := max (binaryExponent num den) z.least
    let unit : Int := e - (z.bits - 1)
    let (n, d) := scaleBinary num den (-unit)
    let m := roundQuotient n d
    if z.greatest < e ∨ (e = z.greatest ∧ Nat.pow 2 z.bits ≤ m) then (.infinite negative, true)
    else
      let (num, den) := scaleBinary m 1 unit
      (.finite negative num den, decide (m < Nat.pow 2 (z.bits - 1) ∧ n % d ≠ 0))

def fixedDigits (places num den : Nat) : Bytes × Bytes :=
  let n := roundQuotient (num * Nat.pow 10 places) den
  let digits := padLeft '0' (places + 1) (decimal n)
  (digits.take (digits.length - places), digits.drop (digits.length - places))

def exponentOf (num den : Nat) : Int :=
  if num = 0 then 0
  else
    let guess : Int := (decimal num).length - (decimal den).length
    let less : Bool :=
      if 0 ≤ guess then num < den * Nat.pow 10 guess.toNat else num * Nat.pow 10 (-guess).toNat < den
    if less then guess - 1 else guess

def scientificDigits (places num den : Nat) : Nat × Int :=
  let e := exponentOf num den
  let scaled (e : Int) : Nat :=
    let shift : Int := places - e
    if 0 ≤ shift then roundQuotient (num * Nat.pow 10 shift.toNat) den
    else roundQuotient num (den * Nat.pow 10 (-shift).toNat)
  let n := scaled e
  if n < Nat.pow 10 (places + 1) then (n, e) else (scaled (e + 1), e + 1)

def withPoint (s : Spec) (whole fraction : Bytes) : Bytes :=
  if fraction.isEmpty && !s.alternate then whole else whole ++ '.' :: fraction

def exponentText (letter : Char) (e : Int) : Bytes :=
  letter :: (if e < 0 then '-' else '+') :: padLeft '0' 2 (decimal e.natAbs)

def dropZeros (cs : Bytes) : Bytes :=
  (cs.reverse.dropWhile (· == '0')).reverse

def finiteText (s : Spec) (kind : Char) (num den : Nat) : Bytes :=
  let places := s.precision.getD 6
  let scientific (places : Nat) (strip : Bool) :=
    let (n, e) := scientificDigits places num den
    let digits := padLeft '0' (places + 1) (decimal n)
    let fraction := digits.drop 1
    withPoint s (digits.take 1) (if strip then dropZeros fraction else fraction) ++
      exponentText (if kind.isUpper then 'E' else 'e') e
  match kind.toLower with
  | 'e' => scientific places false
  | 'f' =>
    let (whole, fraction) := fixedDigits places num den
    withPoint s whole fraction
  | _ =>
    let p := if places = 0 then 1 else places
    let (_, e) := scientificDigits (p - 1) num den
    if -4 ≤ e ∧ e < p then
      let (whole, fraction) := fixedDigits (p - 1 - e).toNat num den
      withPoint s whole (if s.alternate then fraction else dropZeros fraction)
    else scientific (p - 1) (!s.alternate)

def hexText (s : Spec) (z : Size) (num den : Nat) : Bytes :=
  let places := (z.bits - z.lead + 3) / 4
  let (mantissa, e) : Nat × Int :=
    if num = 0 then (0, 0)
    else
      let e : Int := max (binaryExponent num den) z.least - (z.lead - 1)
      let (n, d) := scaleBinary num den (-e)
      (n * Nat.pow 16 places / d, e)
  let wanted := s.precision.getD places
  let m := if wanted < places then roundQuotient mantissa (Nat.pow 16 (places - wanted))
    else mantissa * Nat.pow 16 (wanted - places)
  let (m, e) := if Nat.pow 16 (wanted + 1) ≤ m then (m / 16, e + 4) else (m, e)
  let digits := padLeft '0' (wanted + 1) (Nat.toDigits 16 m)
  let fraction := digits.drop 1
  withPoint s (digits.take 1) (if s.precision.isNone then dropZeros fraction else fraction) ++
    'p' :: (if e < 0 then '-' else '+') :: decimal e.natAbs

def real (s : Spec) (z : Size) (kind : Char) (x : Real) : Bytes :=
  let cased (t : Bytes) := if kind.isUpper then toUpper t else t
  match x with
  | .finite negative num den =>
    if kind.toLower = 'a' then
      s.padNumber true (s.sign negative ++ cased ['0', 'x']) (cased (hexText s z num den))
    else s.padNumber true (s.sign negative) (finiteText s kind num den)
  | .infinite negative => s.padNumber false (s.sign negative) (cased (ofText "inf"))
  | .notNumber negative => s.padNumber false (s.sign negative) (cased (ofText "nan"))

/-! ## Reading numbers -/

def takeSign (cs : Bytes) : Bool × Bytes :=
  match cs.dropWhile isSpace with
  | '-' :: cs => (true, cs)
  | '+' :: cs => (false, cs)
  | cs => (false, cs)

/-- A whole number, octal behind a zero and hexadecimal behind a zero and an x. It gives the whole
text back if there is no number in front. -/
def takeWhole (cs : Bytes) : Int × Bytes :=
  let (negative, body) := takeSign cs
  let value (n : Nat) : Int := if negative then -n else n
  match body with
  | '0' :: x :: d :: rest =>
    if (x = 'x' ∨ x = 'X') ∧ isHex d then
      let (n, rest) := takeNumber 16 (d :: rest)
      (value n, rest)
    else
      let (n, rest) := takeNumber 8 body
      (value n, rest)
  | '0' :: _ =>
    let (n, rest) := takeNumber 8 body
    (value n, rest)
  | c :: _ =>
    if c.isDigit then
      let (n, rest) := takeNumber 10 body
      (value n, rest)
    else (0, cs)
  | [] => (0, cs)

def takeExponent (cs : Bytes) : Int × Bytes :=
  match cs with
  | e :: rest =>
    if e = 'e' ∨ e = 'E' then
      let (negative, digits) := match rest with
        | '-' :: ds => (true, ds)
        | '+' :: ds => (false, ds)
        | ds => (false, ds)
      if (digits.head?.map Char.isDigit).getD false then
        let (n, rest) := takeNumber 10 digits
        (if negative then -(n : Int) else n, rest)
      else (0, cs)
    else (0, cs)
  | [] => (0, [])

def takeBinaryExponent (cs : Bytes) : Int × Bytes :=
  match cs with
  | p :: rest =>
    if p = 'p' ∨ p = 'P' then
      match takeExponent ('e' :: rest) with
      | (e, left) => if left.length ≤ rest.length then (e, left) else (0, cs)
    else (0, cs)
  | [] => (0, [])

def takePointed (base : Nat) (cs : Bytes) : Bytes × Bytes × Bytes :=
  let isDigit := isDigitOf base
  let whole := cs.takeWhile isDigit
  match cs.dropWhile isDigit with
  | '.' :: ds =>
    let fraction := ds.takeWhile isDigit
    if whole.isEmpty ∧ fraction.isEmpty then ([], [], cs)
    else (whole, fraction, ds.dropWhile isDigit)
  | rest => (whole, [], rest)

/-- What may stand between brackets behind the letters for no number. -/
def dropNote (cs : Bytes) : Bytes :=
  match cs with
  | '(' :: rest =>
    match rest.dropWhile fun c => c.isAlphanum || c == '_' with
    | ')' :: rest => rest
    | _ => cs
  | _ => cs

/-- The largest power of ten that is told from larger ones. -/
def shiftLimit : Nat := 12000

/-- A number of a size, what follows it, and whether it lies outside of the range. It gives the whole
text back if there is no number in front. -/
def takeReal (z : Size) (cs : Bytes) : Real × Bytes × Bool :=
  let (negative, body) := takeSign cs
  let lower := (body.take 8).map Char.toLower
  if "infinity".toList.isPrefixOf lower then (.infinite negative, body.drop 8, false)
  else if "inf".toList.isPrefixOf lower then (.infinite negative, body.drop 3, false)
  else if "nan".toList.isPrefixOf lower then (.notNumber negative, dropNote (body.drop 3), false)
  else
    let (whole, fraction, rest) := takePointed 16 (body.drop 2)
    if lower.take 2 = ['0', 'x'] ∧ (!whole.isEmpty ∨ !fraction.isEmpty) then
      let (e, rest) := takeBinaryExponent rest
      let n := valueOf 16 ((whole ++ fraction).map digitValue)
      let shift : Int := e - 4 * fraction.length
      let limit : Int := 4 * shiftLimit
      let (num, den) := scaleBinary n 1 (max (-limit) (min limit shift))
      let (x, outside) := z.round negative num den
      (x, rest, outside)
    else
      let (whole, fraction, rest) := takePointed 10 body
      if whole.isEmpty ∧ fraction.isEmpty then (.finite false 0 1, cs, false)
      else
        let (e, rest) := takeExponent rest
        let n := valueOf 10 ((whole ++ fraction).map digitValue)
        let shift : Int := e - fraction.length
        let limited := min shift.natAbs shiftLimit
        let (num, den) := if 0 ≤ shift then (n * Nat.pow 10 limited, 1) else (n, Nat.pow 10 limited)
        let (x, outside) := z.round negative num den
        (x, rest, outside)

/-! ## Ranges of numbers -/

def clampSigned (n : Int) : Int × Bool :=
  if n < -(Int.pow 2 63) then (-(Int.pow 2 63), true)
  else if Int.pow 2 63 ≤ n then (Int.pow 2 63 - 1, true)
  else (n, false)

/-- A number as an unsigned word; negative ones wrap around. -/
def clampUnsigned (n : Int) : Nat × Bool :=
  if Nat.pow 2 64 ≤ n.natAbs then (Nat.pow 2 64 - 1, true)
  else ((n % Int.pow 2 64).toNat, false)

end LazyBundle.Shell.Format
