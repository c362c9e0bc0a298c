import LazyBundle.Regex.Basic
import LazyBundle.Shell.Options
import LazyBundle.Shell.World

/-!
# Transliteration

Replaces, deletes and squeezes bytes. The bytes are written as lists of single
bytes, ranges, classes and repetitions. Two lists are brought to the same length
before their bytes are paired.
-/

namespace LazyBundle.Shell.Translate

/-! ## Lists of bytes -/

inductive Element
  | single (c : Char)
  | range (low high : Char)
  | named (name : String)
  | alike (c : Char)
  /-- A repetition without a number fills a list up. -/
  | repeated (c : Char) (count : Option Nat)
deriving DecidableEq, Repr

inductive Fault
  | emptyClass
  | emptyAlike
  | unknownClass (name : Bytes)
  | longAlike (text : Bytes)
  | badCount (text : Bytes)
  | reversed (low high : Char)
  | fillsFirst
  | fillsTwice
  | alikeInSecond
  | classInSecond
  | misaligned
  | emptySecond
  | endsWithClass
  | manyImages
  | fillsInVain
deriving DecidableEq, Repr

def shown (c : Char) : Bytes :=
  if isPrintable c then [c] else octalText c

def shownText (cs : Bytes) : Bytes :=
  cs.flatMap fun c => match controlLetters.find? (·.2 == c) with
    | some (letter, _) => ['\\', letter]
    | none => shown c

def Fault.message : Fault → Bytes
  | emptyClass => ofText "missing character class name '[::]'"
  | emptyAlike => ofText "missing equivalence class character '[==]'"
  | unknownClass name => ofText "invalid character class " ++ quoted (shownText name)
  | longAlike text =>
    shownText text ++ ofText ": equivalence class operand must be a single character"
  | badCount text =>
    ofText "invalid repeat count " ++ quoted (shownText text) ++ ofText " in [c*n] construct"
  | reversed low high =>
    ofText "range-endpoints of '" ++ shown low ++ ['-'] ++ shown high ++
      ofText "' are in reverse collating sequence order"
  | fillsFirst => ofText "the [c*] repeat construct may not appear in string1"
  | fillsTwice => ofText "only one [c*] repeat construct may appear in string2"
  | alikeInSecond =>
    ofText "[=c=] expressions may not appear in string2 when translating"
  | classInSecond =>
    ofText ("when translating, the only character classes that may appear in\n" ++
      "string2 are 'upper' and 'lower'")
  | misaligned => ofText "misaligned [:upper:] and/or [:lower:] construct"
  | emptySecond => ofText "when not truncating set1, string2 must be non-empty"
  | endsWithClass =>
    ofText ("when translating with string1 longer than string2,\n" ++
      "the latter string must not end with a character class")
  | manyImages =>
    ofText ("when translating with complemented character classes,\n" ++
      "string2 must map all characters in the domain to one")
  | fillsInVain => ofText "the [c*] construct may appear in string2 only when translating"

abbrev Mark := Char × Bool

/-- Resolves backslashes; collects the warnings that they cause. -/
def unquote : Nat → Bytes → List Mark × List Bytes
  | _, [] | 0, _ => ([], [])
  | _ + 1, ['\\'] =>
    ([('\\', false)],
      [ofText "warning: an unescaped backslash at end of string is not portable"])
  | fuel + 1, '\\' :: c :: cs =>
    if isOctal c then
      let ds := ((c :: cs).take 3).takeWhile isOctal
      let value := valueOf 8 (ds.map digitValue)
      let rest := (c :: cs).drop ds.length
      if value < 256 then
        let (more, warnings) := unquote fuel rest
        ((Char.ofNat value, true) :: more, warnings)
      else
        -- Three digits may stand for two bytes.
        let front := ds.take 2
        let last := ds.drop 2
        let warning := ofText "warning: the ambiguous octal escape \\" ++ ds ++
          ofText " is being\n\tinterpreted as the 2-byte sequence \\0" ++ front ++ ofText ", " ++ last
        let (more, warnings) := unquote fuel (last ++ rest)
        ((Char.ofNat (valueOf 8 (front.map digitValue)), true) :: more, warning :: warnings)
    else
      let (more, warnings) := unquote fuel cs
      (((controlLetters.lookup c).getD c, true) :: more, warnings)
  | fuel + 1, c :: cs =>
    let (more, warnings) := unquote fuel cs
    ((c, false) :: more, warnings)

def isPlain (c : Char) : Option Mark → Bool
  | some m => m == (c, false)
  | none => false

def untilClosing (mark : Char) : List Mark → Option (Bytes × List Mark)
  | m :: n :: ms =>
    if m = (mark, false) ∧ n = (']', false) then some ([], ms)
    else (untilClosing mark (n :: ms)).map fun (text, rest) => (m.1 :: text, rest)
  | _ => none

def starDigitsBracket : List Mark → Bool
  | ('*', false) :: ms => isPlain ']' (ms.dropWhile fun m => m.1.isDigit && !m.2).head?
  | _ => false

/-- A count; one that begins with a zero is octal. -/
def repeatCount? (text : Bytes) : Option Nat :=
  let base := if text.head? = some '0' then 8 else 10
  if text.all (isDigitOf base) then some (takeNumber base text).1 else none

/-- A repetition behind its opening bracket; none if there is none. -/
def repetition : List Mark → Except Fault (Option (Element × List Mark))
  | (c, _) :: ('*', false) :: ms =>
    let text := ms.takeWhile fun m => !m.2 && m.1 != ']'
    match ms.drop text.length with
    | (']', false) :: rest =>
      let text := text.map (·.1)
      if text.isEmpty then .ok (some (.repeated c none, rest))
      else match repeatCount? text with
        | some n => .ok (some (.repeated c (if n = 0 then none else some n), rest))
        | none => .error (.badCount text)
    | _ => .ok none
  | _ => .ok none

/-- What begins with an opening bracket; none if the bracket stands for itself. -/
def bracket (ms : List Mark) : Except Fault (Option (Element × List Mark)) :=
  match ms with
  | (':', false) :: body =>
    match untilClosing ':' body with
    | none => repetition ms
    | some ([], _) => .error .emptyClass
    | some (name, rest) =>
      let text := String.ofList name
      if (Regex.classRanges? text).isSome then .ok (some (.named text, rest))
      else if starDigitsBracket body then repetition ms
      else .error (.unknownClass name)
  | ('=', false) :: body =>
    match untilClosing '=' body with
    | none => repetition ms
    | some ([], _) => .error .emptyAlike
    | some ([c], rest) => .ok (some (.alike c, rest))
    | some (text, _) => if starDigitsBracket body then repetition ms else .error (.longAlike text)
  | ms => repetition ms

def elements : Nat → List Mark → Except Fault (List Element)
  | 0, _ => .ok []
  | _, [] => .ok []
  | fuel + 1, m :: ms => do
    let special ← if m = ('[', false) ∧ 2 ≤ ms.length then bracket ms else pure none
    match special, ms with
    | some (e, rest), _ => pure (e :: (← elements fuel rest))
    | none, ('-', false) :: (high, _) :: rest =>
      if m.1 ≤ high then pure (.range m.1 high :: (← elements fuel rest))
      else throw (.reversed m.1 high)
    | none, ms => pure (.single m.1 :: (← elements fuel ms))

namespace Element

def bytes : Element → Bytes
  | single c | alike c => [c]
  | range low high => (List.range (high.toNat + 1 - low.toNat)).map fun i => Char.ofNat (low.toNat + i)
  | named name =>
    allBytes.filter fun c => ((Regex.classRanges? name).getD []).any (Regex.CharSet.inRange c)
  | repeated c count => List.replicate (count.getD 0) c

def isNamed : Element → Bool
  | named _ => true
  | _ => false

def isAlike : Element → Bool
  | alike _ => true
  | _ => false

def fills : Element → Bool
  | repeated _ none => true
  | _ => false

def isCase : Element → Bool
  | named "upper" | named "lower" => true
  | _ => false

end Element

def bytesOf (es : List Element) : Bytes := es.flatMap Element.bytes

/-! ## Two lists -/

structure Settings where
  complement : Bool := false
  delete : Bool := false
  squeeze : Bool := false
  truncate : Bool := false
deriving DecidableEq, Repr

def domain (s : Settings) (first : List Element) : Bytes :=
  let used := bytesOf first
  if s.complement then allBytes.filter fun c => !used.contains c else used

/-- The bytes of elements that are left, those of the first one without the ones already taken.
`fresh` tells that none of them was taken. -/
structure Walk where
  current : Bytes := []
  fresh : Bool := false
  isCase : Bool := false
  rest : List Element

def Walk.settle (current : Bytes) (fresh isCase : Bool) : List Element → Walk
  | [] => ⟨current, fresh, isCase, []⟩
  | e :: es =>
    if current.isEmpty then Walk.settle e.bytes true e.isCase es
    else ⟨current, fresh, isCase, e :: es⟩

namespace Walk

def start (es : List Element) : Walk := settle [] false false es

def next (w : Walk) : Walk := settle (w.current.drop 1) false w.isCase w.rest

def skip (w : Walk) : Walk := settle [] false false w.rest

end Walk

/-- Pairs the bytes of two lists. Where the second list begins with letters of one case, the first
one has to as well, and the letters are paired as wholes. -/
def pairs : Nat → Walk → Walk → Except Fault (List (Char × Char))
  | 0, _, _ => .ok []
  | fuel + 1, first, second =>
    match first.current, second.current with
    | a :: _, b :: _ =>
      if second.isCase && second.fresh then
        if first.isCase && first.fresh then do
          pure (first.current.zip second.current ++ (← pairs fuel first.skip second.skip))
        else .error .misaligned
      else do pure ((a, b) :: (← pairs fuel first.next second.next))
    | [], _ :: _ => if second.isCase && second.fresh then .error .misaligned else .ok []
    | _, [] => .ok []

/-- Fills a repetition without a number so that the list has a length. -/
def fillTo (length : Nat) (es : List Element) : List Element :=
  let missing := length - (bytesOf es).length
  es.map fun e => match e with
    | .repeated c none => .repeated c (if missing = 0 then none else some missing)
    | e => e

def extend (length : Nat) (es : List Element) : Except Fault (List Element) :=
  let missing := length - (bytesOf es).length
  if missing = 0 then .ok es
  else match es.getLast? with
    | none => .error .emptySecond
    | some e =>
      if e.isNamed then .error .endsWithClass
      else
        let last := match e with
          | .single c | .alike c | .repeated c _ => c
          | .range _ high => high
          | .named _ => ' '
        .ok (es ++ [.repeated last (some missing)])

def isHomogeneous (cs : Bytes) : Bool :=
  match cs with
  | [] => true
  | c :: cs => cs.all (· == c)

/-- The images of bytes. A later pair of a byte counts. -/
def table (s : Settings) (first second : List Element) : Except Fault (List (Char × Char)) := do
  if first.any Element.fills then throw .fillsFirst
  let size := (domain s first).length
  if 1 < (second.filter Element.fills).length then throw .fillsTwice
  let second := fillTo size second
  if second.any Element.isAlike then throw .alikeInSecond
  if second.any fun e => e.isNamed && !e.isCase then throw .classInSecond
  let fuel := size + (bytesOf second).length + 1
  if !s.complement then
    let _ ← pairs fuel (.start first) (.start second)
  let second ← if s.truncate then pure second else extend size second
  if s.complement then
    if first.any Element.isNamed && !((bytesOf second).length = size && isHomogeneous (bytesOf second)) then
      throw .manyImages
    pure ((domain s first).zip (bytesOf second)).reverse
  else pure (← pairs (size + 1) (.start first) (.start second)).reverse

def squeezeRuns (set : Bytes) : Bytes → Bytes
  | a :: b :: cs =>
    if a = b ∧ a ∈ set then squeezeRuns set (b :: cs) else a :: squeezeRuns set (b :: cs)
  | cs => cs

def plan (s : Settings) (first : List Element) (second : Option (List Element)) :
    Except Fault (Bytes → Bytes) := do
  match second with
  | none =>
    if first.any Element.fills then throw .fillsFirst
    let set := domain s first
    if s.delete then pure fun cs => cs.filter fun c => !set.contains c
    else pure (squeezeRuns set)
  | some second =>
    if s.delete then
      if first.any Element.fills then throw .fillsFirst
      let set := domain s first
      let filled := (second.filter Element.fills).length
      if 1 < filled then throw .fillsTwice
      if 0 < filled then throw .fillsInVain
      pure fun cs => squeezeRuns (bytesOf second) (cs.filter fun c => !set.contains c)
    else
      let images ← table s first second
      let size := (domain s first).length
      let translate (cs : Bytes) := cs.map fun c => (images.lookup c).getD c
      if s.squeeze then pure fun cs => squeezeRuns (bytesOf (fillTo size second)) (translate cs)
      else pure translate

/-! ## The program -/

def options : OptionTable where
  letters := [('A', .nothing), ('c', .nothing), ('C', .nothing), ('d', .nothing), ('s', .nothing),
    ('t', .nothing)]
  names := [("complement", .nothing, 'c'), ("delete", .nothing, 'd'),
    ("squeeze-repeats", .nothing, 's'), ("truncate-set1", .nothing, 't')]
  anywhere := false

open Effect in
def program : Program := do
  match options.read (← read).arguments with
  | .error f => misused 1 f.message
  | .ok chosen =>
    let s : Settings := {
      complement := chosen.has 'c' || chosen.has 'C'
      delete := chosen.has 'd'
      squeeze := chosen.has 's'
      truncate := chosen.has 't' }
    let least := if s.delete = s.squeeze then 2 else 1
    let most := if s.delete && !s.squeeze then 1 else 2
    match chosen.operands with
    | [] => misused 1 (ofText "missing operand")
    | first :: others =>
      if others.length + 1 < least then
        complain (ofText "missing operand after " ++ quoted ((others.getLast?).getD first))
        warn (ofText <| if s.squeeze then
            "Two strings must be given when both deleting and squeezing repeats."
          else "Two strings must be given when translating.")
        warn (ofText "Try '" ++ (← read).name ++ ofText " --help' for more information.")
        pure 1
      else match (first :: others).drop most with
        | extra :: _ =>
          complain (ofText "extra operand " ++ quoted extra)
          if others.length = 1 then
            warn (ofText "Only one string may be given when deleting without squeezing repeats.")
          warn (ofText "Try '" ++ (← read).name ++ ofText " --help' for more information.")
          pure 1
        | [] =>
          let parse (text : Bytes) : Effect (Except Fault (List Element)) := do
            let (marks, warnings) := unquote (text.length + 1) text
            warnings.forM complain
            pure (elements (marks.length + 1) marks)
          match ← parse first with
          | .error f => giveUp 1 f.message
          | .ok first =>
            let second ← match others with
              | [] => pure (.ok none)
              | text :: _ => do pure ((← parse text).map some)
            match second.bind (plan s first) with
            | .error f => giveUp 1 f.message
            | .ok act =>
              match ← input with
              | .ok cs => put (act cs); pure 0
              | .error r => giveUp 1 (ofText "read error: " ++ r.message)

end LazyBundle.Shell.Translate
