import LazyBundle.Regex.Basic

/-!
# Ranges of code points

Sets of characters as rising ranges of code points that do not touch, with the
operations on them, and the bytes that encode them. A range is cut into parts
whose encodings are all combinations of one range for each byte.
-/

namespace LazyBundle.Regex

abbrev Ranges := List (Nat × Nat)

namespace Ranges

def insert (r : Nat × Nat) : Ranges → Ranges
  | [] => [r]
  | s :: ss =>
    if r.2 + 1 < s.1 then r :: s :: ss
    else if s.2 + 1 < r.1 then s :: insert r ss
    else insert (min r.1 s.1, max r.2 s.2) ss

def union (a b : Ranges) : Ranges :=
  b.foldl (fun rs r => insert r rs) a

def lastCode : Nat := 0x10FFFF

def complementFrom (start : Nat) : Ranges → Ranges
  | [] => if start ≤ lastCode then [(start, lastCode)] else []
  | r :: rs => (if start < r.1 then [(start, r.1 - 1)] else []) ++ complementFrom (r.2 + 1) rs

def complement (rs : Ranges) : Ranges :=
  complementFrom 0 rs

def intersection (a b : Ranges) : Ranges :=
  complement (union (complement a) (complement b))

def difference (a b : Ranges) : Ranges :=
  intersection a (complement b)

def symmetricDifference (a b : Ranges) : Ranges :=
  difference (union a b) (intersection a b)

def single (c : Char) : Ranges :=
  [(c.toNat, c.toNat)]

def ofCharRanges (rs : List (Char × Char)) : Ranges :=
  rs.foldl (fun acc r => insert (r.1.toNat, r.2.toNat) acc) []

def charRange (r : Nat × Nat) : Char × Char :=
  let low := if 0xD800 ≤ r.1 ∧ r.1 < 0xE000 then 0xE000 else r.1
  let high := if 0xD800 ≤ r.2 ∧ r.2 < 0xE000 then 0xD7FF else r.2
  (Char.ofNat low, Char.ofNat high)

def toCharSet (rs : Ranges) : CharSet :=
  ⟨rs.map charRange, false⟩

def foldCase (rs : Ranges) : Ranges :=
  ofCharRanges rs.toCharSet.foldCase.ranges

def isAscii (rs : Ranges) : Bool :=
  rs.all (·.2 < 128)

/-! ## Bytes -/

def withoutSurrogates (r : Nat × Nat) : Ranges :=
  [(r.1, min r.2 0xD7FF), (max r.1 0xE000, r.2)].filter fun s => s.1 ≤ s.2

/-- The last code point in front of the place where a range has to be cut: where the number of bytes
changes, or where a byte leaves its range while the bytes behind it do not start over. -/
def cut? (low high : Nat) : Option Nat :=
  match [0x7F, 0x7FF, 0xFFFF].find? fun last => low ≤ last && last < high with
  | some last => some last
  | none =>
    if high ≤ 0x7F then none
    else [64, Nat.pow 64 2, Nat.pow 64 3].findSome? fun block =>
      if low / block = high / block then none
      else if low % block ≠ 0 then some ((low / block + 1) * block - 1)
      else if high % block ≠ block - 1 then some (high / block * block - 1)
      else none

def bytes (code : Nat) : List Nat :=
  (String.utf8EncodeChar (Char.ofNat code)).map UInt8.toNat

/-- The encodings of a range, in rising order. No range is cut more often in a row than there are
places to cut at. -/
def encodingsOf : Nat → Nat → Nat → List Ranges
  | 0, _, _ => []
  | fuel + 1, low, high =>
    match cut? low high with
    | some last => encodingsOf fuel low last ++ encodingsOf fuel (last + 1) high
    | none => [(bytes low).zip (bytes high)]

def encodings (rs : Ranges) : List Ranges :=
  (rs.flatMap withoutSurrogates).flatMap fun r => encodingsOf 32 r.1 r.2

example : encodings [(0x61, 0x62), (0x7F, 0x80)] =
    [[(0x61, 0x62)], [(0x7F, 0x7F)], [(0xC2, 0xC2), (0x80, 0x80)]] := by decide

end Ranges

end LazyBundle.Regex
