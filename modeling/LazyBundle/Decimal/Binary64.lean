import LazyBundle.Decimal.Shortest

/-!
# Texts of floating-point numbers

Two ways to write a 64-bit floating-point number with the fewest digits: with an
exponent where the number is far from one, and always positional. A whole number
ends in a zero after the point.
-/

namespace LazyBundle.Decimal

def decompose (tie : Tie) (x : Float) : Bool × List Char × Int :=
  let bits : Nat := x.toBits.toNat
  let field : Nat := bits / Nat.pow 2 52 % Nat.pow 2 11
  let fraction : Nat := bits % Nat.pow 2 52
  let (m, q) : Nat × Int :=
    if field = 0 then (fraction, -1074) else (fraction + Nat.pow 2 52, (field : Int) - 1075)
  let below := if fraction = 0 ∧ field > 1 then 1 else 2
  let (ds, e) := (shortest tie m q below).digitChars
  (bits / Nat.pow 2 63 == 1, ds, e)

/-- Digits with a point and without an exponent. -/
def positional (ds : List Char) (e : Int) : List Char :=
  if 0 ≤ e then ds ++ List.replicate e.toNat '0' ++ ['.', '0']
  else
    let places := (-e).toNat
    if places < ds.length then ds.take (ds.length - places) ++ '.' :: ds.drop (ds.length - places)
    else '0' :: '.' :: List.replicate (places - ds.length) '0' ++ ds

def scientific (ds : List Char) (e : Int) : List Char :=
  let exponent := e + (ds.length - 1 : Nat)
  let mantissa := match ds with
    | [] => ['0']
    | [d] => [d]
    | d :: rest => d :: '.' :: rest
  mantissa ++ 'e' :: (if exponent < 0 then '-' else '+') :: Nat.toDigits 10 exponent.natAbs

def signed (negative : Bool) (cs : List Char) : String :=
  String.ofList (if negative then '-' :: cs else cs)

/-- Positional from `10 ^ -5` up to `10 ^ 16`, else with an exponent. Ties go to the even digit. -/
def compactText (x : Float) : String :=
  let (negative, ds, e) := decompose .even x
  let point := e + ds.length
  signed negative (if -5 < point ∧ point ≤ 16 then positional ds e else scientific ds e)

/-- Positional at every size. Ties go to the larger number. -/
def positionalText (x : Float) : String :=
  if x.isNaN then "NaN"
  else if x.isInf then (if x < 0 then "-inf" else "inf")
  else
    let (negative, ds, e) := decompose .larger x
    signed negative (positional ds e)

end LazyBundle.Decimal
