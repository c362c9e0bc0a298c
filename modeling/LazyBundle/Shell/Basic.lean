/-!
# Bytes

Programs work on bytes. They are given as the characters with the same numbers,
so that a text that is not well-formed can be worked on like any other.
-/

namespace LazyBundle.Shell

abbrev Bytes := List Char

def ofText (s : String) : Bytes :=
  s.toUTF8.toList.map fun b => Char.ofNat b.toNat

def toByteArray (bytes : Bytes) : ByteArray :=
  ⟨(bytes.map fun c => UInt8.ofNat c.toNat).toArray⟩

def notAfter : Bytes → Bytes → Bool
  | [], _ => true
  | _ :: _, [] => false
  | a :: as, b :: bs => if a = b then notAfter as bs else decide (a.toNat < b.toNat)

def decimal (n : Nat) : Bytes := Nat.toDigits 10 n

def decimalOf (n : Int) : Bytes :=
  if n < 0 then '-' :: decimal n.natAbs else decimal n.natAbs

def valueOf (base : Nat) (digits : List Nat) : Nat :=
  digits.foldl (fun n d => n * base + d) 0

def digitValue (c : Char) : Nat :=
  if '0' ≤ c ∧ c ≤ '9' then c.toNat - 48
  else if 'a' ≤ c ∧ c ≤ 'z' then c.toNat - 87
  else if 'A' ≤ c ∧ c ≤ 'Z' then c.toNat - 55
  else 99

def isDigitOf (base : Nat) (c : Char) : Bool := digitValue c < base

def takeNumber (base : Nat) (cs : Bytes) : Nat × Bytes :=
  (valueOf base ((cs.takeWhile (isDigitOf base)).map digitValue), cs.dropWhile (isDigitOf base))

def digits? (cs : Bytes) : Option Nat :=
  if cs.isEmpty ∨ !cs.all Char.isDigit then none else some (takeNumber 10 cs).1

def isOctal (c : Char) : Bool := isDigitOf 8 c

def isHex (c : Char) : Bool := isDigitOf 16 c

def takeOctal (most : Nat) (cs : Bytes) : Char × Bytes :=
  let ds := (cs.take most).takeWhile isOctal
  (Char.ofNat (valueOf 8 (ds.map digitValue) % 256), cs.drop ds.length)

def takeHex (most : Nat) (cs : Bytes) : Char × Bytes :=
  let ds := (cs.take most).takeWhile isHex
  (Char.ofNat (valueOf 16 (ds.map digitValue) % 256), cs.drop ds.length)

def controlLetters : List (Char × Char) := [
  ('a', '\x07'), ('b', '\x08'), ('f', '\x0c'), ('n', '\n'), ('r', '\r'), ('t', '\t'),
  ('v', '\x0b'), ('\\', '\\')]

def isPrintable (c : Char) : Bool := ' ' ≤ c && c ≤ '~'

def isSpace (c : Char) : Bool := c == ' ' || ('\t' ≤ c && c ≤ '\r')

def allBytes : Bytes := (List.range 256).map Char.ofNat

def joinWith (separator : Bytes) (words : List Bytes) : Bytes :=
  (words.intersperse separator).flatten

def joinWords (words : List Bytes) : Bytes := joinWith [' '] words

def splitOn (separator : Char) (cs : Bytes) : List Bytes :=
  cs.foldr (fun c pieces =>
    if c = separator then [] :: pieces
    else match pieces with
      | [] => [[c]]
      | p :: ps => (c :: p) :: ps) [[]]

/-- The pieces with the separators that end them; the last one may have none. -/
def splitAfter (separator : Char) : Bytes → List Bytes
  | [] => []
  | c :: cs =>
    if c = separator then [c] :: splitAfter separator cs
    else
      match splitAfter separator cs with
      | [] => [[c]]
      | l :: ls => (c :: l) :: ls

theorem flatten_splitAfter (separator : Char) (cs : Bytes) :
    (splitAfter separator cs).flatten = cs := by
  induction cs with
  | nil => rfl
  | cons c cs ih =>
    simp only [splitAfter]
    split
    · simp [ih]
    · split <;> simp_all

def splitLines (cs : Bytes) : List Bytes := splitAfter '\n' cs

/-- The lines of a text; a line feed at the end ends the last one. -/
def linesOf (cs : Bytes) : List Bytes :=
  (splitLines cs).map fun l => if l.getLast? = some '\n' then l.dropLast else l

def padLeft (fill : Char) (width : Nat) (cs : Bytes) : Bytes :=
  List.replicate (width - cs.length) fill ++ cs

def padRight (width : Nat) (cs : Bytes) : Bytes :=
  cs ++ List.replicate (width - cs.length) ' '

/-- The bytes without what a reader cannot see, in octal. -/
def octalText (c : Char) : Bytes :=
  '\\' :: padLeft '0' 3 (Nat.toDigits 8 c.toNat)

/-- A word between quotes in a message; only its line feeds and quotes are escaped. -/
def quoted (cs : Bytes) : Bytes :=
  let escape (c : Char) : Bytes :=
    if c = '\'' then ['\\', '\'']
    else if c = '\\' then ['\\', '\\']
    else if isPrintable c then [c]
    else match controlLetters.find? (·.2 == c) with
      | some (letter, _) => ['\\', letter]
      | none => octalText c
  '\'' :: cs.flatMap escape ++ ['\'']

def isPlainWord (cs : Bytes) : Bool :=
  let isSafe (c : Char) : Bool := c.isAlphanum || "%+,-./:@]_\x7b\x7d#~".contains c
  match cs with
  | [] => false
  | [c] => isSafe c && !"\x7b\x7d#~".contains c
  | c :: rest => isSafe c && !"#~".contains c && rest.all isSafe

/-- A word between quotes, so that the shell would read it again. What cannot be seen stands between
quotes of its own. -/
def enquoted (cs : Bytes) : Bytes :=
  if cs.all isPrintable then
    if cs.contains '\'' && !(cs.any fun c => "\"$\x60\\".contains c) then '"' :: cs ++ ['"']
    else '\'' :: cs.flatMap (fun c => if c = '\'' then ['\'', '\\', '\'', '\''] else [c]) ++ ['\'']
  else
    let shown (c : Char) : Bytes := match controlLetters.find? (·.2 == c) with
      | some (letter, _) => ['\\', letter]
      | none => octalText c
    let text := (cs.foldl (fun (text, special) c =>
      if isPrintable c then
        (text ++ (if special then ['\'', '\''] else []) ++
          (if c = '\'' then ['\'', '\\', '\'', '\''] else [c]), false)
      else (text ++ (if special then [] else ['\'', '$', '\'']) ++ shown c, true)) (['\''], false)).1
    text ++ ['\'']

def shellQuoted (cs : Bytes) : Bytes := if isPlainWord cs then cs else enquoted cs

def nameText (cs : Bytes) : Bytes :=
  if isPlainWord cs ∧ !cs.contains ':' then cs else enquoted cs

end LazyBundle.Shell
