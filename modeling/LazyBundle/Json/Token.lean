import LazyBundle.Json.Fault
import LazyBundle.Text.Hex

/-!
# Strings and numerals of a text

A string is cut into pieces up to the place where it stops, then the pieces are
joined: two escapes that form a pair of surrogates become one character. A
reader that skips a string does not join, so it accepts half a pair. A numeral
keeps its digits.
-/

namespace LazyBundle.Json

/-! ## Strings -/

inductive Piece
  | char (c : Char)
  /-- An escape with four digits. -/
  | unit (n : Nat)
deriving DecidableEq, Repr

inductive Stop
  | quote
  | textEnd
  | unknownEscape
  | badDigits
  | control
deriving DecidableEq, Repr

def Stop.fault? : Stop → Option Fault
  | quote => none
  | textEnd => some .endInString
  | unknownEscape | badDigits => some .badEscape
  | control => some .controlCharacter

def Stop.faultAfterHalf : Stop → Fault
  | textEnd => .endInString
  | badDigits => .badEscape
  | quote | unknownEscape | control => .unfinishedPair

def escaped? : Char → Option Char
  | '"' => some '"'
  | '\\' => some '\\'
  | '/' => some '/'
  | 'b' => some '\x08'
  | 'f' => some '\x0c'
  | 'n' => some '\n'
  | 'r' => some '\r'
  | 't' => some '\t'
  | _ => none

def unit? (a b c d : Char) : Option Nat := do
  let a ← Text.hexValue? a
  let b ← Text.hexValue? b
  let c ← Text.hexValue? c
  let d ← Text.hexValue? d
  pure (((a * 16 + b) * 16 + c) * 16 + d)

def byteCount (cs : List Char) : Nat :=
  (cs.map Char.utf8Size).foldr (· + ·) 0

/-- The pieces of a string after its opening quote, where it stops, and what follows. -/
def scanPieces : List Char → List Piece × Stop × List Char
  | [] => ([], .textEnd, [])
  | '"' :: cs => ([], .quote, cs)
  | '\\' :: 'u' :: a :: b :: c :: d :: cs =>
    match unit? a b c d with
    | some n => let r := scanPieces cs; (.unit n :: r.1, r.2)
    | none => ([], .badDigits, cs)
  | '\\' :: 'u' :: cs => ([], if byteCount cs < 4 then .textEnd else .badDigits, [])
  | '\\' :: c :: cs =>
    match escaped? c with
    | some e => let r := scanPieces cs; (.char e :: r.1, r.2)
    | none => ([], .unknownEscape, cs)
  | '\\' :: [] => ([], .textEnd, [])
  | c :: cs =>
    if c.toNat < 32 then ([], .control, cs)
    else let r := scanPieces cs; (.char c :: r.1, r.2)

def isLeading (n : Nat) : Bool :=
  0xD800 ≤ n && n ≤ 0xDBFF

def isTrailing (n : Nat) : Bool :=
  0xDC00 ≤ n && n ≤ 0xDFFF

def joinPair (lead trail : Nat) : Char :=
  Char.ofNat ((lead - 0xD800) * 0x400 + (trail - 0xDC00) + 0x10000)

def joinPieces (stop : Stop) : List Piece → Except Fault (List Char)
  | [] =>
    match stop.fault? with
    | none => .ok []
    | some f => .error f
  | .char c :: ps => (joinPieces stop ps).map (c :: ·)
  | .unit n :: ps =>
    if isTrailing n then .error .lonePair
    else if isLeading n then
      match ps with
      | [] => .error stop.faultAfterHalf
      | .char _ :: _ => .error .unfinishedPair
      | .unit k :: ps =>
        if isTrailing k then (joinPieces stop ps).map (joinPair n k :: ·) else .error .lonePair
    else (joinPieces stop ps).map (Char.ofNat n :: ·)

structure Token where
  text : Except Fault String
  whenSkipped : Option Fault

/-- The string after an opening quote, and what follows it unless the text is broken there. -/
def scanToken (cs : List Char) : Token × Option (List Char) :=
  let (pieces, stop, rest) := scanPieces cs
  let skipped := stop.fault?
  (⟨(joinPieces stop pieces).map String.ofList, skipped⟩,
    if skipped.isNone then some rest else none)

/-! ## Numerals -/

structure Numeral where
  negative : Bool
  whole : List Char
  /-- The digits after the point; none without a point. -/
  fraction : List Char
  /-- Whether the exponent is negative, and its digits. -/
  exponent : Option (Bool × List Char)
deriving DecidableEq, Repr

def numeralEnds : Flaw :=
  ⟨.endInValue, .badNumber⟩

def scanExponent (negative : Bool) (whole fraction : List Char) :
    List Char → Except Flaw (Numeral × List Char)
  | [] => .error numeralEnds
  | c :: cs =>
    let (minus, digits) := match c with
      | '-' => (true, cs)
      | '+' => (false, cs)
      | _ => (false, c :: cs)
    match digits.takeWhile Char.isDigit, digits with
    | [], [] => .error numeralEnds
    | [], _ => .error (.both .badNumber)
    | ds, _ => .ok (⟨negative, whole, fraction, some (minus, ds)⟩, digits.dropWhile Char.isDigit)

def scanTail (negative : Bool) (whole fraction : List Char) :
    List Char → Except Flaw (Numeral × List Char)
  | 'e' :: cs | 'E' :: cs => scanExponent negative whole fraction cs
  | cs => .ok (⟨negative, whole, fraction, none⟩, cs)

def scanFraction (negative : Bool) (whole : List Char) :
    List Char → Except Flaw (Numeral × List Char)
  | '.' :: cs =>
    match cs.takeWhile Char.isDigit, cs with
    | [], [] => .error numeralEnds
    | [], _ => .error (.both .badNumber)
    | ds, _ => scanTail negative whole ds (cs.dropWhile Char.isDigit)
  | cs => scanTail negative whole [] cs

/-- A numeral after its sign. A zero stands alone in front of the point. -/
def scanNumeral (negative : Bool) : List Char → Except Flaw (Numeral × List Char)
  | [] => .error numeralEnds
  | '0' :: cs =>
    if (cs.head?.map Char.isDigit).getD false then .error (.both .badNumber)
    else scanFraction negative ['0'] cs
  | c :: cs =>
    if c.isDigit then
      scanFraction negative (c :: cs.takeWhile Char.isDigit) (cs.dropWhile Char.isDigit)
    else .error (.both .badNumber)

end LazyBundle.Json
