import LazyBundle.Decimal.Binary64
import LazyBundle.Text.Hex

/-!
# Numbers

Unquoted numbers. Reading a text checks the shape of its numbers; what a whole
number stands for is asked only when it is used, and then it may turn out to
stand for none.
-/

namespace LazyBundle.Toml

def digit? (base : Nat) (c : Char) : Option Nat :=
  (Text.hexValue? c).filter (· < base)

def ofDigits (base : Nat) (ds : List Nat) : Nat :=
  ds.foldl (fun n d => n * base + d) 0

def isSign (c : Char) : Bool :=
  c == '+' || c == '-'

def splitSign : List Char → Bool × List Char
  | '+' :: cs => (false, cs)
  | '-' :: cs => (true, cs)
  | cs => (false, cs)

/-- Whether underscores stand only between digits. What stands behind the last one may end in
anything. -/
def hasPlacedUnderscores (isDigit : Char → Bool) (cs : List Char) : Bool :=
  match cs.splitOn '_' with
  | [] | [_] => true
  | parts =>
    parts.all (!·.isEmpty) &&
      (parts.drop 1).all (fun part => (part.head?.map isDigit).getD true) &&
      parts.dropLast.all fun part => (part.getLast?.map isDigit).getD true

def withoutUnderscores (cs : List Char) : List Char :=
  cs.filter (· != '_')

def wholeNumber? (base : Nat) (cs : List Char) : Option Int :=
  let (negative, ds) := splitSign (withoutUnderscores cs)
  if ds.isEmpty then none
  else (ds.mapM (digit? base)).map fun ds =>
    if negative then -(ofDigits base ds : Int) else (ofDigits base ds : Int)

/-- Drops digits and underscores in front; none if there is no digit. A zero may stand in front of
other digits only where `padded` says so. -/
def dropDigits? (padded : Bool) (cs : List Char) : Option (List Char) :=
  let run := cs.takeWhile fun c => c.isDigit || c == '_'
  let count := (run.filter Char.isDigit).length
  if count = 0 then none
  else if count ≠ 1 ∧ !padded ∧ cs.head? = some '0' then none
  else some (cs.drop run.length)

/-- Whether a text without sign has the shape of a number with a point or an exponent. -/
def isFloatShape (cs : List Char) : Bool :=
  let shape : Option (List Char) := do
    let rest ← dropDigits? false cs
    let rest ← match rest with
      | '.' :: rest => dropDigits? true rest
      | rest => pure rest
    match rest with
    | 'e' :: rest | 'E' :: rest => dropDigits? true (if (rest.head?.map isSign).getD false then rest.drop 1 else rest)
    | rest => pure rest
  shape == some []

def cutAt (p : Char → Bool) (cs : List Char) : List Char × Option (List Char) :=
  match cs.dropWhile (!p ·) with
  | [] => (cs, none)
  | _ :: rest => (cs.takeWhile (!p ·), some rest)

/-- The number `m * 10 ^ e`; exponents out of reach are cut off. -/
def floatOf (m : Nat) (e : Int) : Float :=
  if e < -5000 then 0.0
  else if 5000 < e then (if m = 0 then 0.0 else 1.0 / 0.0)
  else if e < 0 then Float.ofScientific m true e.natAbs
  else Float.ofScientific m false e.natAbs

def decimalValue (cs : List Char) : Nat :=
  cs.foldl (fun n c => n * 10 + (c.toNat - 48)) 0

/-- The positional text of a number with a point or an exponent; none when it is too large. -/
def floatText? (negative : Bool) (cs : List Char) : Option String :=
  let (mantissa, exponent) := cutAt (fun c => c == 'e' || c == 'E') (withoutUnderscores cs)
  let (whole, fraction) := cutAt (· == '.') mantissa
  let fraction := fraction.getD []
  let (minus, es) := splitSign (exponent.getD ['0'])
  let e : Int := if minus then -(decimalValue es : Int) else (decimalValue es : Int)
  let x := floatOf (decimalValue (whole ++ fraction)) (e - fraction.length)
  if x.isInf then none else some (Decimal.positionalText (if negative then -x else x))

example : hasPlacedUnderscores Char.isDigit ['1', '_', '0', 'x'] = true := by decide

example : hasPlacedUnderscores Char.isDigit ['1', '_', '_', '0'] = false := by decide

end LazyBundle.Toml
