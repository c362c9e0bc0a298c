/-!
# Shortest decimals

The shortest decimal that reads back as a given binary fraction. A fraction
`m * 2 ^ q` stands for every number that rounds to it. Of the decimals with the
fewest digits in that interval the nearest one is taken, and of two equally near
ones the `Tie` rule takes one.
-/

namespace LazyBundle.Decimal

/-- Which of two equally near decimals is taken: the one with an even last digit or the larger. -/
inductive Tie where
  | even
  | larger
deriving DecidableEq, Repr

/-- Whether the rule takes `k + 1` where `k` and `k + 1` are equally near. -/
def Tie.up : Tie → Nat → Bool
  | .even, k => k % 2 == 1
  | .larger, _ => true

/-- A number `digits * 10 ^ exponent`. -/
structure Scaled where
  digits : Nat
  exponent : Int
deriving DecidableEq, Repr

/-- Whether `a * 10 ^ e` is at most `b * 2 ^ q`. -/
def tensLeTwos (a : Nat) (e : Int) (b : Nat) (q : Int) : Bool :=
  a * Nat.pow 10 e.toNat * Nat.pow 2 (-q).toNat ≤ b * Nat.pow 2 q.toNat * Nat.pow 10 (-e).toNat

def twosLeTens (b : Nat) (q : Int) (a : Nat) (e : Int) : Bool :=
  b * Nat.pow 2 q.toNat * Nat.pow 10 (-e).toNat ≤ a * Nat.pow 10 e.toNat * Nat.pow 2 (-q).toNat

/-- The largest `k` with `k * 10 ^ e ≤ b * 2 ^ q`. -/
def floorAt (b : Nat) (q e : Int) : Nat :=
  b * Nat.pow 2 q.toNat * Nat.pow 10 (-e).toNat / (Nat.pow 10 e.toNat * Nat.pow 2 (-q).toNat)

/-- The exponent of the leading digit of `m * 2 ^ q`, which is above `10 ^ -400`. -/
def leading (m : Nat) (q : Int) : Int :=
  ((Nat.toDigits 10 (floorAt m q (-400))).length : Int) - 401

/-- Tries the two neighbours on the grid `10 ^ e`, then finer grids. -/
def search (tie : Tie) (fuel : Nat) (m : Nat) (q : Int) (below : Nat) (e : Int) : Scaled :=
  let k := floorAt m q e
  match fuel with
  | 0 => ⟨k, e⟩
  | fuel + 1 =>
    let closed := m % 2 == 0
    let low := 4 * m - below
    let high := 4 * m + 2
    let inside (a : Nat) : Bool :=
      if closed then twosLeTens low (q - 2) a e && tensLeTwos a e high (q - 2)
      else !tensLeTwos a e low (q - 2) && !twosLeTens high (q - 2) a e
    match inside k, inside (k + 1) with
    | true, true =>
      -- The middle between the neighbours decides.
      if !twosLeTens (2 * m) q (2 * k + 1) e then ⟨k + 1, e⟩
      else if tensLeTwos (2 * k + 1) e (2 * m) q && tie.up k then ⟨k + 1, e⟩
      else ⟨k, e⟩
    | true, false => ⟨k, e⟩
    | false, true => ⟨k + 1, e⟩
    | false, false => search tie fuel m q below (e - 1)

/-- `below` is 1 where the next smaller fraction is half as far away as the next larger, else 2. -/
def shortest (tie : Tie) (m : Nat) (q : Int) (below : Nat) : Scaled :=
  if m = 0 then ⟨0, 0⟩ else search tie 20 m q below (leading m q + 1)

def Scaled.digitChars (s : Scaled) : List Char × Int :=
  let ds := Nat.toDigits 10 s.digits
  let zeros := (ds.reverse.takeWhile (· == '0')).length
  if s.digits = 0 then (['0'], 0) else (ds.take (ds.length - zeros), s.exponent + zeros)

example : shortest .even 3 (-1) 2 = ⟨15, -1⟩ := by decide +kernel

-- The number 844388166275443.25 is as near to 844388166275443.2 as to 844388166275443.3.
example : shortest .even 6755105330203546 (-3) 2 = ⟨8443881662754432, -1⟩ := by decide +kernel

example : shortest .larger 6755105330203546 (-3) 2 = ⟨8443881662754433, -1⟩ := by decide +kernel

end LazyBundle.Decimal
