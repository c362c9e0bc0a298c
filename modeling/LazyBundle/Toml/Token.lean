import LazyBundle.Toml.Basic
import LazyBundle.Toml.Number

/-!
# Keys, strings and plain values

The parts of a settings text that hold no other part. A reader returns what it
has read and the text behind it, or nothing when the text is malformed.
-/

namespace LazyBundle.Toml

def isSpace (c : Char) : Bool :=
  c == ' ' || c == '\t'

def skipSpace (cs : List Char) : List Char :=
  cs.dropWhile isSpace

/-- Control characters other than the tab stand nowhere. -/
def isPlain (c : Char) : Bool :=
  c == '\t' || (32 ≤ c.toNat && c.toNat ≠ 127)

def lineEnd? : List Char → Option (List Char)
  | '\n' :: cs => some cs
  | '\r' :: '\n' :: cs => some cs
  | _ => none

def skipComment? : List Char → Option (List Char)
  | '#' :: cs => go cs
  | cs => some cs
where
  go : List Char → Option (List Char)
    | [] => some []
    | '\n' :: cs => some ('\n' :: cs)
    | '\r' :: '\n' :: cs => some ('\n' :: cs)
    | c :: cs => if isPlain c then go cs else none

def skipLines (fuel : Nat) (cs : List Char) : Option (List Char) :=
  match fuel with
  | 0 => some cs
  | fuel + 1 =>
    match skipComment? (skipSpace cs) with
    | none => none
    | some cs =>
      match lineEnd? cs with
      | some rest => skipLines fuel rest
      | none => some cs

/-! ## Strings -/

def hexNumber? : List Char → Option Nat :=
  fun ds => ds.foldlM (fun n c => (Text.hexValue? c).map (n * 16 + ·)) 0

/-- The character an escape of `count` digits stands for. -/
def codeEscape? (count : Nat) (cs : List Char) : Option (Char × List Char) := do
  guard (count ≤ cs.length)
  let n ← hexNumber? (cs.take count)
  guard (n.isValidChar)
  pure (Char.ofNat n, cs.drop count)

def escape? : List Char → Option (Char × List Char)
  | 'b' :: cs => some ('\x08', cs)
  | 't' :: cs => some ('\t', cs)
  | 'n' :: cs => some ('\n', cs)
  | 'f' :: cs => some ('\x0c', cs)
  | 'r' :: cs => some ('\r', cs)
  | 'e' :: cs => some ('\x1b', cs)
  | '"' :: cs => some ('"', cs)
  | '\\' :: cs => some ('\\', cs)
  | 'x' :: cs => codeEscape? 2 cs
  | 'u' :: cs => codeEscape? 4 cs
  | 'U' :: cs => codeEscape? 8 cs
  | _ => none

def consChar (c : Char) (r : Option (List Char × List Char)) : Option (List Char × List Char) :=
  r.map fun p => (c :: p.1, p.2)

def basicString (fuel : Nat) (cs : List Char) : Option (List Char × List Char) :=
  match fuel, cs with
  | 0, _ | _, [] => none
  | _ + 1, '"' :: cs => some ([], cs)
  | fuel + 1, '\\' :: cs => do
    let (c, rest) ← escape? cs
    consChar c (basicString fuel rest)
  | fuel + 1, c :: cs => if isPlain c then consChar c (basicString fuel cs) else none

def literalString : List Char → Option (List Char × List Char)
  | [] => none
  | c :: cs =>
    if c = '\x27' then some ([], cs)
    else if isPlain c then consChar c (literalString cs) else none

def skipBlank : List Char → List Char
  | '\r' :: '\n' :: cs => skipBlank cs
  | c :: cs => if isSpace c ∨ c = '\n' then skipBlank cs else c :: cs
  | [] => []

/-- A backslash at the end of a line drops the blanks and line ends behind it. -/
def continuation? (cs : List Char) : Option (List Char) :=
  (lineEnd? (skipSpace cs)).map skipBlank

/-- A string over several lines, behind its opening quotes. Line ends are kept as they are. `raw`
strings have no escapes. Up to two quotes may stand right before the closing ones. -/
def longString (quote : Char) (raw : Bool) (fuel : Nat) (cs : List Char) :
    Option (List Char × List Char) :=
  match fuel, cs with
  | 0, _ | _, [] => none
  | fuel + 1, c :: cs =>
    if c = quote then
      match cs with
      | a :: b :: rest =>
        if a = quote ∧ b = quote then
          let more := (rest.takeWhile (· == quote)).length.min 2
          some (List.replicate more quote, rest.drop more)
        else consChar c (longString quote raw fuel cs)
      | _ => none
    else if c = '\\' ∧ !raw then
      match continuation? cs with
      | some rest => longString quote raw fuel rest
      | none => do
        let (e, rest) ← escape? cs
        consChar e (longString quote raw fuel rest)
    else if isPlain c ∨ c = '\n' ∨ (c = '\r' ∧ cs.head? = some '\n') then
      consChar c (longString quote raw fuel cs)
    else none

/-- A line end right behind the opening quotes is dropped. -/
def openLong (quote : Char) (raw : Bool) (cs : List Char) : Option (List Char × List Char) :=
  longString quote raw (cs.length + 1) ((lineEnd? cs).getD cs)

def string? : List Char → Option (List Char × List Char)
  | '"' :: '"' :: '"' :: cs => openLong '"' false cs
  | '"' :: cs => basicString (cs.length + 1) cs
  | '\x27' :: '\x27' :: '\x27' :: cs => openLong '\x27' true cs
  | '\x27' :: cs => literalString cs
  | _ => none

/-! ## Keys -/

def isBare (c : Char) : Bool :=
  c.isAlphanum || c == '-' || c == '_'

def simpleKey? : List Char → Option (String × List Char)
  | '"' :: cs => (basicString (cs.length + 1) cs).map fun p => (String.ofList p.1, p.2)
  | '\x27' :: cs => (literalString cs).map fun p => (String.ofList p.1, p.2)
  | cs =>
    match cs.takeWhile isBare with
    | [] => none
    | key => some (String.ofList key, cs.dropWhile isBare)

/-- How many keys a path may have, and how many lists and tables may lie in each other. -/
def depthLimit : Nat := 80

/-- Keys with dots between them; blanks may surround a dot. -/
def keys? : Nat → List Char → Option (List String × List Char)
  | 0, _ => none
  | room + 1, cs => do
    let (k, rest) ← simpleKey? cs
    match skipSpace rest with
    | '.' :: more =>
      let (ks, rest) ← keys? room (skipSpace more)
      pure (k :: ks, rest)
    | _ => pure ([k], rest)

def key? (cs : List Char) : Option (List String × List Char) :=
  keys? depthLimit cs

/-! ## Dates and times -/

/-- A number of exactly `count` digits. -/
def fixed? (count : Nat) (cs : List Char) : Option (Nat × List Char) := do
  let ds := cs.take count
  guard (ds.length = count ∧ ds.all Char.isDigit)
  pure (ds.foldl (fun n c => n * 10 + (c.toNat - 48)) 0, cs.drop count)

def expect? (c : Char) : List Char → Option (List Char)
  | d :: cs => if c = d then some cs else none
  | [] => none

def daysIn (year month : Nat) : Nat :=
  if month = 2 then
    if year % 4 = 0 ∧ (year % 100 ≠ 0 ∨ year % 400 = 0) then 29 else 28
  else if month = 4 ∨ month = 6 ∨ month = 9 ∨ month = 11 then 30
  else 31

def date? (cs : List Char) : Option (List Char) := do
  let (year, cs) ← fixed? 4 cs
  let (month, cs) ← fixed? 2 (← expect? '-' cs)
  let (day, cs) ← fixed? 2 (← expect? '-' cs)
  guard (1 ≤ month ∧ month ≤ 12 ∧ 1 ≤ day ∧ day ≤ daysIn year month)
  pure cs

def time? (cs : List Char) : Option (List Char) := do
  let (hour, cs) ← fixed? 2 cs
  let (minute, cs) ← fixed? 2 (← expect? ':' cs)
  guard (hour ≤ 23 ∧ minute ≤ 59)
  match cs with
  | ':' :: cs =>
    let (second, cs) ← fixed? 2 cs
    guard (second ≤ 60)
    match cs with
    | '.' :: cs =>
      guard (cs.takeWhile Char.isDigit ≠ [])
      pure (cs.dropWhile Char.isDigit)
    | _ => pure cs
  | _ => pure cs

def offset? : List Char → Option (List Char)
  | 'Z' :: cs | 'z' :: cs => some cs
  | '+' :: cs | '-' :: cs => do
    let (hour, cs) ← fixed? 2 cs
    let (minute, cs) ← fixed? 2 (← expect? ':' cs)
    guard (hour ≤ 23 ∧ minute ≤ 59)
    pure cs
  | cs => some cs

/-- Whether a token is a date, a time, or both with or without an offset. -/
def isDatetime (token : List Char) : Bool :=
  (time? token == some []) ||
    match date? token with
    | none => false
    | some [] => true
    | some (c :: cs) =>
      (c == 'T' || c == 't' || c == ' ') && ((time? cs).bind offset? == some [])

/-! ## Plain values -/

def endsToken (c : Char) : Bool :=
  c ∈ ['=', ',', '[', ']', '\x7b', '\x7d', ' ', '\t', '#', '\r', '\n']

def isQuote (c : Char) : Bool :=
  c == '"' || c == '\x27'

/-- A token and what follows it. A second word behind blanks belongs to the token, since a time may
stand so behind its date; what a value makes of the blanks is its own matter. -/
def token (cs : List Char) : List Char × List Char :=
  let first := cs.takeWhile (!endsToken ·)
  let rest := cs.dropWhile (!endsToken ·)
  let more := skipSpace rest
  match more.takeWhile (!endsToken ·) with
  | [] => (first, rest)
  | c :: word =>
    if isQuote c then (first, rest)
    else (first ++ rest.takeWhile isSpace ++ c :: word, more.dropWhile (!endsToken ·))

/-- A number or a date. `token` is the value with its sign and `cs` the value without it. -/
def numeric? (token cs : List Char) : Option Value :=
  let rest := cs.dropWhile Char.isDigit
  let padded := 1 < cs.length ∧ cs.head? = some '0'
  let whole : Option Value := do
    guard (!padded)
    guard (hasPlacedUnderscores (fun c => (Text.hexValue? c).isSome) token)
    pure (.integer (wholeNumber? 10 token))
  match rest with
  | [] => whole
  | c :: _ =>
    if c = '-' ∨ c = ':' then (if isDatetime token then some .datetime else none)
    else if ' ' ∈ rest then none
    else if rest.any fun c => c == '.' || c == 'e' || c == 'E' then do
      guard (isFloatShape cs)
      guard (hasPlacedUnderscores Char.isDigit token)
      pure (.float (floatText? (splitSign token).1 cs))
    else if c = '_' then whole
    else none

def radixed? (base : Nat) (cs : List Char) : Option Value := do
  guard (cs.all fun c => c == '_' || (digit? base c).isSome)
  guard (hasPlacedUnderscores (fun c => (Text.hexValue? c).isSome) cs)
  pure (.integer (wholeNumber? base cs))

def plain? (t : List Char) : Option Value :=
  let (negative, cs) := splitSign t
  let signed := t.length ≠ cs.length
  match cs with
  | ['t', 'r', 'u', 'e'] => if signed then none else some (.bool true)
  | ['f', 'a', 'l', 's', 'e'] => if signed then none else some (.bool false)
  | ['i', 'n', 'f'] => some (.float (some (if negative then "-inf" else "inf")))
  | ['n', 'a', 'n'] => some (.float (some "NaN"))
  | '0' :: 'x' :: ds => if signed then none else radixed? 16 ds
  | '0' :: 'o' :: ds => if signed then none else radixed? 8 ds
  | '0' :: 'b' :: ds => if signed then none else radixed? 2 ds
  | c :: _ => if c.isDigit then numeric? t cs else none
  | [] => none

end LazyBundle.Toml
