import LazyBundle.Decimal.Binary64
import LazyBundle.Json.Token

/-!
# Values of numerals

A numeral without point and exponent that fits into 64 bits is an integer. Every
other numeral is a floating-point number: its first digits that fit into 64 bits
are scaled by powers of ten.
-/

namespace LazyBundle.Json

inductive Number
  | integer (n : Int)
  | float (x : Float)

namespace Numeral

def maxWord : Nat := Nat.pow 2 64 - 1

def digitValue (c : Char) : Nat :=
  c.toNat - 48

/-- Reads digits while the value fits into a word; returns it and how many digits were read. -/
def readWord (start : Nat) : List Char → Nat × Nat
  | [] => (start, 0)
  | c :: cs =>
    let next := start * 10 + digitValue c
    if next ≤ maxWord then let r := readWord next cs; (r.1, r.2 + 1) else (start, 0)

/-- The largest exponent that is told from greater ones. -/
def maxExponent : Nat := Nat.pow 2 31 - 1

def decimalValue (ds : List Char) : Nat :=
  ds.foldl (fun n c => n * 10 + digitValue c) 0

def scale (word : Nat) (exponent : Int) : Option Float :=
  go 4 (UInt64.ofNat word).toFloat exponent
where
  /-- A power below the smallest one is reached in steps; the number is zero after three. -/
  go : Nat → Float → Int → Option Float
    | 0, _, _ => some 0.0
    | n + 1, x, e =>
      if e.natAbs ≤ 308 then
        let power := Float.ofScientific 1 false e.natAbs
        if 0 ≤ e then
          let y := x * power
          if y.isInf then none else some y
        else some (x / power)
      else if x == 0.0 then some x
      else if 0 ≤ e then none
      else go n (x / Float.ofScientific 1 false 308) (e + 308)

/-- The number a numeral stands for, unless it is too large. -/
def value? (n : Numeral) : Option Number :=
  let sign (x : Float) := if n.negative then -x else x
  let (word, used) := readWord 0 n.whole
  if used = n.whole.length ∧ n.fraction = [] ∧ n.exponent = none then
    if !n.negative then some (.integer word)
    else if word = 0 ∨ Nat.pow 2 63 < word then some (.float (sign (UInt64.ofNat word).toFloat))
    else some (.integer (-word))
  else
    let (digits, places) := readWord word n.fraction
    let start : Int := (n.whole.length - used : Nat) - (places : Int)
    match n.exponent with
    | none => (scale digits start).map fun x => .float (sign x)
    | some (minus, ds) =>
      let e := decimalValue ds
      if maxExponent < e then
        if digits ≠ 0 ∧ !minus then none else some (.float (sign 0.0))
      else (scale digits (if minus then start - e else start + e)).map fun x => .float (sign x)

end Numeral

end LazyBundle.Json
