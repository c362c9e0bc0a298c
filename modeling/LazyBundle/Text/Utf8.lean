/-!
# UTF-8

Decoding of bytes that may be malformed. A malformed run is the longest start of
a well-formed sequence, or a single byte. Reading for people puts one
replacement character in the place of each run.
-/

namespace LazyBundle.Text

inductive Lead
  /-- A character and the number of its bytes. -/
  | char (c : Char) (size : Nat)
  /-- A run of bytes that no further byte can complete. -/
  | malformed (size : Nat)
  /-- A sequence that the end of the list cuts off. -/
  | cutOff
deriving DecidableEq, Repr

def isContinuation (b : UInt8) : Bool :=
  0x80 ≤ b && b ≤ 0xBF

def secondRange (first : UInt8) : UInt8 × UInt8 :=
  if first = 0xE0 then (0xA0, 0xBF)
  else if first = 0xED then (0x80, 0x9F)
  else if first = 0xF0 then (0x90, 0xBF)
  else if first = 0xF4 then (0x80, 0x8F)
  else (0x80, 0xBF)

/-- The number of bytes a sequence has by its first byte; none for a byte that opens none. -/
def sequenceSize (first : UInt8) : Option Nat :=
  if first < 0x80 then some 1
  else if 0xC2 ≤ first ∧ first ≤ 0xDF then some 2
  else if 0xE0 ≤ first ∧ first ≤ 0xEF then some 3
  else if 0xF0 ≤ first ∧ first ≤ 0xF4 then some 4
  else none

def payload (b : UInt8) : Nat :=
  b.toNat % 64

def lead (first : UInt8) (rest : List UInt8) : Lead :=
  match sequenceSize first with
  | none => .malformed 1
  | some 1 => .char (Char.ofNat first.toNat) 1
  | some n =>
    let (low, high) := secondRange first
    match rest with
    | [] => .cutOff
    | b :: bs =>
      if b < low ∨ high < b then .malformed 1
      else if n = 2 then .char (Char.ofNat (first.toNat % 32 * 64 + payload b)) 2
      else
        match bs with
        | [] => .cutOff
        | c :: cs =>
          if !isContinuation c then .malformed 2
          else if n = 3 then
            .char (Char.ofNat ((first.toNat % 16 * 64 + payload b) * 64 + payload c)) 3
          else
            match cs with
            | [] => .cutOff
            | d :: _ =>
              if !isContinuation d then .malformed 3
              else .char (Char.ofNat
                (((first.toNat % 8 * 64 + payload b) * 64 + payload c) * 64 + payload d)) 4

structure Utf8Error where
  validUpTo : Nat
  /-- The length of the malformed run; none when the bytes end too early. -/
  length : Option Nat
deriving DecidableEq, Repr

def Utf8Error.message (e : Utf8Error) : String :=
  match e.length with
  | some n =>
    "invalid utf-8 sequence of " ++ toString n ++ " bytes from index " ++ toString e.validUpTo
  | none => "incomplete utf-8 byte sequence from index " ++ toString e.validUpTo

def utf8Error? (fuel start : Nat) (bytes : List UInt8) : Option Utf8Error :=
  match fuel, bytes with
  | 0, _ | _, [] => none
  | fuel + 1, b :: bs =>
    match lead b bs with
    | .char _ size => utf8Error? fuel (start + size) ((b :: bs).drop size)
    | .malformed size => some ⟨start, some size⟩
    | .cutOff => some ⟨start, none⟩

def replacement : Char := '\uFFFD'

def lossyChars (fuel : Nat) (bytes : List UInt8) : List Char :=
  match fuel, bytes with
  | 0, _ | _, [] => []
  | fuel + 1, b :: bs =>
    match lead b bs with
    | .char c size => c :: lossyChars fuel ((b :: bs).drop size)
    | .malformed size => replacement :: lossyChars fuel ((b :: bs).drop size)
    | .cutOff => [replacement]

def lossy (bytes : List UInt8) : String :=
  String.ofList (lossyChars bytes.length bytes)

theorem fromUTF8?_eq_some_iff {content : ByteArray} {s : String} :
    String.fromUTF8? content = some s ↔ content = s.toUTF8 := by
  unfold String.fromUTF8?
  split
  · rename_i valid
    rw [Option.some.injEq]
    constructor
    · rintro rfl
      rfl
    · rintro rfl
      rfl
  · rename_i invalid
    refine ⟨fun h => (by cases h), ?_⟩
    rintro rfl
    exact absurd s.isValidUTF8 invalid

end LazyBundle.Text
