import LazyBundle.Shell.Format
import LazyBundle.Shell.Lines.Basic

/-!
# Ordering

Puts lines in order by keys: parts of lines that are compared as texts, as
numbers, as months or as versions. The first key that tells two lines apart
decides, and the lines as a whole after all keys.
-/

namespace LazyBundle.Shell.Lines

open Effect Copy

/-! ## Comparisons -/

/-- Byte by byte; the front of a text comes before the text. -/
def compareTexts : Bytes → Bytes → Ordering
  | [], [] => .eq
  | [], _ :: _ => .lt
  | _ :: _, [] => .gt
  | a :: as, b :: bs => (compare a b).then (compareTexts as bs)

def numberOf (cs : Bytes) : Bool × Nat × Bytes :=
  let (negative, cs) := match cs.dropWhile isGap with
    | '-' :: cs => (true, cs)
    | cs => (false, cs)
  let (n, rest) := takeNumber 10 cs
  let fraction := match rest with
    | '.' :: ds => ((ds.takeWhile Char.isDigit).reverse.dropWhile (· == '0')).reverse
    | _ => []
  (negative && !(n = 0 && fraction.isEmpty), n, fraction)

def compareNumbers (a b : Bytes) : Ordering :=
  let (na, wa, fa) := numberOf a
  let (nb, wb, fb) := numberOf b
  let size := (compare wa wb).then (compareTexts fa fb)
  match na, nb with
  | false, false => size
  | true, true => size.swap
  | true, false => .lt
  | false, true => .gt

/-- Where numbers of any form stand among each other: what is no number comes first. -/
def compareReals (a b : Bytes) : Ordering :=
  let place (cs : Bytes) : Nat × Int × Nat :=
    let (x, rest, _) := Format.takeReal .extended cs
    if rest.length = cs.length then (0, 0, 1)
    else match x with
      | .notNumber _ => (1, 0, 1)
      | .infinite true => (2, 0, 1)
      | .finite negative num den => (3, if negative then -(num : Int) else num, den)
      | .infinite false => (4, 0, 1)
  let (ka, na, da) := place a
  let (kb, nb, db) := place b
  (compare ka kb).then (compare (na * db) (nb * da))

def unitLetters : Bytes := "KMGTPEZYRQ".toList

def compareSizes (a b : Bytes) : Ordering :=
  let rank (cs : Bytes) : Int :=
    let (negative, cs) := match cs.dropWhile isGap with
      | '-' :: cs => (true, cs)
      | cs => (false, cs)
    let whole := cs.takeWhile Char.isDigit
    let (fraction, rest) := match cs.drop whole.length with
      | '.' :: ds => (ds.takeWhile Char.isDigit, ds.dropWhile Char.isDigit)
      | rest => ([], rest)
    let unit := match rest with
      | 'k' :: _ => 1
      | c :: _ => (unitLetters.findIdx? (· == c)).elim 0 (· + 1)
      | [] => 0
    if (whole ++ fraction).all (· == '0') then 0 else if negative then -(unit : Int) else unit
  (compare (rank a) (rank b)).then (compareNumbers a b)

def months : List String :=
  ["JAN", "FEB", "MAR", "APR", "MAY", "JUN", "JUL", "AUG", "SEP", "OCT", "NOV", "DEC"]

def monthOf (cs : Bytes) : Nat :=
  let front := ((cs.dropWhile isGap).take 3).map Char.toUpper
  (months.findIdx? fun m => m.toList == front).elim 0 (· + 1)

/-! ## Versions -/

/-- The rank of a character beside digits; a tilde comes even before the end. -/
def versionRank : Option Char → Int
  | none => -1
  | some c =>
    if c.isDigit then 0
    else if c.isAlpha then c.toNat
    else if c = '~' then -2
    else c.toNat + 256

def compareParts : Nat → Bytes → Bytes → Ordering
  | 0, _, _ | _, [], [] => .eq
  | fuel + 1, a, b =>
    let texts : Ordering × Bytes × Bytes := go (a.length + b.length + 1) a b
    match texts with
    | (.eq, a, b) =>
      let na := (a.dropWhile (· == '0')).takeWhile Char.isDigit
      let nb := (b.dropWhile (· == '0')).takeWhile Char.isDigit
      ((compare na.length nb.length).then (compareTexts na nb)).then
        (compareParts fuel (a.dropWhile Char.isDigit) (b.dropWhile Char.isDigit))
    | (o, _, _) => o
where
  /-- Goes on while one of both does not begin with a digit. -/
  go : Nat → Bytes → Bytes → Ordering × Bytes × Bytes
    | 0, a, b => (.eq, a, b)
    | fuel + 1, a, b =>
      let begins (cs : Bytes) : Bool := (cs.head?.map fun c => !c.isDigit).getD false
      if begins a || begins b then
        match compare (versionRank a.head?) (versionRank b.head?) with
        | .eq => go fuel (a.drop 1) (b.drop 1)
        | o => (o, a, b)
      else (.eq, a, b)

/-- A version without the endings of its name. -/
def withoutEndings : Nat → Bytes → Bytes
  | 0, cs => cs
  | _, [] => []
  | fuel + 1, c :: cs =>
    -- The endings at this place, and what follows them.
    let rest := skip (cs.length + 1) cs
    if rest.isEmpty then [c] else c :: withoutEndings fuel cs
where
  skip : Nat → Bytes → Bytes
    | 0, cs => cs
    | fuel + 1, cs =>
      match cs with
      | '.' :: d :: ds =>
        if d.isAlpha || d = '~' then skip fuel (ds.dropWhile fun c => c.isAlphanum || c == '~') else cs
      | cs => cs

def compareVersions (a b : Bytes) : Ordering :=
  let fuel := a.length + b.length + 1
  let hidden (cs : Bytes) : Nat :=
    if cs.isEmpty then 0
    else if cs = ['.'] then 1
    else if cs = ['.', '.'] then 2
    else if cs.head? = some '.' then 3 else 4
  let plain := compareParts fuel (withoutEndings (a.length + 1) a) (withoutEndings (b.length + 1) b)
  (compare (hidden a) (hidden b)).then (plain.then (compareParts fuel a b))

/-! ## Keys -/

structure Collation where
  /-- Whether blanks at the start and in front of the end are passed over. -/
  blanksAtStart : Bool := false
  blanksAtEnd : Bool := false
  dictionary : Bool := false
  printable : Bool := false
  fold : Bool := false
  numeric : Bool := false
  general : Bool := false
  human : Bool := false
  month : Bool := false
  random : Bool := false
  version : Bool := false
  reverse : Bool := false
deriving DecidableEq, Repr

namespace Collation

def withLetter? (o : Collation) (atStart atEnd : Bool) (c : Char) : Option Collation :=
  match c with
  | 'b' =>
    some { o with
      blanksAtStart := o.blanksAtStart || atStart
      blanksAtEnd := o.blanksAtEnd || atEnd }
  | 'd' => some { o with dictionary := true, printable := false }
  | 'f' => some { o with fold := true }
  | 'g' => some { o with general := true }
  | 'h' => some { o with human := true }
  | 'i' => some { o with printable := !o.dictionary }
  | 'M' => some { o with month := true }
  | 'n' => some { o with numeric := true }
  | 'R' => some { o with random := true }
  | 'r' => some { o with reverse := true }
  | 'V' => some { o with version := true }
  | _ => none

/-- Whether nothing is asked for but perhaps the reverse. -/
def isDefault (o : Collation) : Bool := { o with reverse := false } = ({} : Collation)

/-- The letters of what does not go together. -/
def conflict? (o : Collation) : Option Bytes :=
  let kinds := [o.numeric, o.general, o.human, o.month, o.version || o.random || o.dictionary || o.printable]
  if 1 < kinds.count true then
    some (([('d', o.dictionary), ('f', o.fold), ('g', o.general), ('h', o.human), ('i', o.printable),
      ('M', o.month), ('n', o.numeric), ('R', o.random), ('V', o.version)].filter (·.2)).map (·.1))
  else none

def shape (o : Collation) (cs : Bytes) : Bytes :=
  let cs := if o.dictionary then cs.filter fun c => c.isAlphanum || isGap c else cs
  let cs := if o.printable then cs.filter isPrintable else cs
  if o.fold then cs.map Char.toUpper else cs

def compare (o : Collation) (a b : Bytes) : Ordering :=
  let a := o.shape a
  let b := o.shape b
  let found := if o.numeric then compareNumbers a b
    else if o.general then compareReals a b
    else if o.human then compareSizes a b
    else if o.month then Ord.compare (monthOf a) (monthOf b)
    else if o.version then compareVersions a b
    else compareTexts a b
  if o.reverse then found.swap else found

end Collation

structure Key where
  /-- The fields and the characters that are passed over. -/
  fields : Nat := 0
  characters : Nat := 0
  /-- The same for the end; without characters the field belongs to the part. -/
  stop : Option (Nat × Nat) := none
  collation : Collation := {}
deriving Repr

def afterFields (separator : Option Char) (n : Nat) (l : Bytes) : Bytes :=
  match separator with
  | none => dropFields (min n l.length) l
  | some t => go t (min n (l.length + 1)) l
where
  go (t : Char) : Nat → Bytes → Bytes
    | 0, cs => cs
    | n + 1, cs => go t n ((cs.dropWhile (· != t)).drop 1)

def endOfField (separator : Option Char) (cs : Bytes) : Bytes :=
  match separator with
  | none => dropFields 1 cs
  | some t => cs.dropWhile (· != t)

def Key.part (k : Key) (separator : Option Char) (l : Bytes) : Bytes :=
  let front := afterFields separator k.fields l
  let front := if k.collation.blanksAtStart then front.dropWhile isGap else front
  let front := front.drop k.characters
  match k.stop with
  | none => front
  | some (fields, characters) =>
    let back := afterFields separator fields l
    let back := if characters = 0 then endOfField separator back
      else (if k.collation.blanksAtEnd then back.dropWhile isGap else back).drop characters
    front.take (front.length - back.length)

def readCount (what : String) (cs : Bytes) : Except Misuse (Nat × Bytes) :=
  let body := match cs.dropWhile isSpace with
    | '+' :: ds => ds
    | ds => ds
  if (body.head?.map Char.isDigit).getD false then .ok (takeNumber 10 body)
  else .error (.plain (ofText (what ++ ": invalid count at start of ") ++ quoted cs))

def readLetters (atStart : Bool) : Collation → Bytes → Collation × Bytes
  | o, [] => (o, [])
  | o, c :: cs =>
    match o.withLetter? atStart (!atStart) c with
    | some o => readLetters atStart o cs
    | none => (o, c :: cs)

def readKey (text : Bytes) : Except Misuse Key := do
  let spoiled (what : String) : Misuse :=
    (.plain (ofText (what ++ ": invalid field specification ") ++ quoted text))
  let (field, rest) ← readCount "invalid number at field start" text
  if field = 0 then throw (spoiled "field number is zero")
  let (character, rest) ← match rest with
    | '.' :: cs => readCount "invalid number after '.'" cs
    | rest => pure (1, rest)
  if character = 0 then throw (spoiled "character offset is zero")
  let (o, rest) := readLetters true {} rest
  let k : Key := { fields := field - 1, characters := character - 1, collation := o }
  match rest with
  | ',' :: cs =>
    let (field, rest) ← readCount "invalid number after ','" cs
    if field = 0 then throw (spoiled "field number is zero")
    let (character, rest) ← match rest with
      | '.' :: cs => readCount "invalid number after '.'" cs
      | rest => pure (0, rest)
    let (o, rest) := readLetters false o rest
    if !rest.isEmpty then throw (spoiled "stray character in field spec")
    pure { k with stop := some (field - 1, character), collation := o }
  | rest =>
    if !rest.isEmpty then throw (spoiled "stray character in field spec")
    pure k

/-! ## Sorting -/

structure SortPlan where
  keys : List Key := []
  collation : Collation := {}
  separator : Option Char := none
  unique : Bool := false
  stable : Bool := false
  merges : Bool := false
  zero : Bool := false
  /-- The letter of a check for order. -/
  check : Option Char := none
  target : Option Bytes := none

namespace SortPlan

/-- Keys without a collation of their own take the common one. -/
def allKeys (p : SortPlan) : List Key :=
  let keys := p.keys.map fun k =>
    if k.collation.isDefault ∧ !k.collation.reverse then { k with collation := p.collation } else k
  if keys.isEmpty ∧ !p.collation.isDefault then [{ collation := p.collation }] else keys

def compare (p : SortPlan) (a b : Bytes) : Ordering :=
  let keys := p.allKeys
  let byKey := keys.foldl (fun o k =>
    o.then (k.collation.compare (k.part p.separator a) (k.part p.separator b))) .eq
  let whole := if p.collation.reverse then (compareTexts a b).swap else compareTexts a b
  if keys.isEmpty then whole
  else if p.unique || p.stable then byKey
  else byKey.then whole

def dropRepeats (p : SortPlan) : List Bytes → List Bytes
  | a :: b :: ls =>
    if p.compare a b = .eq then dropRepeats p (a :: ls) else a :: dropRepeats p (b :: ls)
  | ls => ls
termination_by ls => ls.length

def sort (p : SortPlan) (sources : List (List Bytes)) : List Bytes :=
  let before (a b : Bytes) : Bool := p.compare a b != .gt
  let sorted := if p.merges then sources.foldl (fun a b => a.merge b before) []
    else sources.flatten.mergeSort before
  if p.unique then p.dropRepeats sorted else sorted

def disorder? (p : SortPlan) (n : Nat) : List Bytes → Option (Nat × Bytes)
  | a :: b :: ls =>
    match p.compare a b with
    | .gt => some (n, b)
    | .eq => if p.unique then some (n, b) else disorder? p (n + 1) (b :: ls)
    | .lt => disorder? p (n + 1) (b :: ls)
  | _ => none

def step (p : SortPlan) (letter : Char) (argument : Bytes) : Except Misuse SortPlan :=
  match letter with
  | 'k' => do
    let k ← readKey argument
    pure { p with keys := p.keys ++ [k] }
  | 't' => do
    let tab ← match argument with
      | [c] => pure c
      | ['\\', '0'] => pure '\x00'
      | [] => throw (.plain (ofText "empty tab"))
      | t => throw (.plain (ofText "multi-character tab " ++ quoted t))
    if (p.separator.map (· != tab)).getD false then throw (.plain (ofText "incompatible tabs"))
    pure { p with separator := some tab }
  | 'o' =>
    if (p.target.map (· != argument)).getD false then
      throw (.plain (ofText "multiple output files specified"))
    else pure { p with target := some argument }
  | 'c' | 'C' => do
    let check ← if argument.isEmpty then pure letter
      else choice "--check" [(["quiet", "silent"], 'C'), (["diagnose-first"], 'c')] argument
    if (p.check.map (· != check)).getD false then
      throw (.plain (ofText "options '-cC' are incompatible"))
    pure { p with check := some check }
  | 'W' => do
    let kind ← choice "--sort" [(["general-numeric"], 'g'), (["human-numeric"], 'h'), (["month"], 'M'),
      (["numeric"], 'n'), (["random"], 'R'), (["version"], 'V')] argument
    pure { p with collation := (p.collation.withLetter? true true kind).getD p.collation }
  | 'u' => pure { p with unique := true }
  | 's' => pure { p with stable := true }
  | 'm' => pure { p with merges := true }
  | 'z' => pure { p with zero := true }
  | c => pure { p with collation := (p.collation.withLetter? true true c).getD p.collation }

end SortPlan

def sortOptions : OptionTable where
  letters := "bdfgiMhnRrVcCmsuz".toList.map (fun c => (c, Need.nothing)) ++
    [('k', .argument), ('o', .argument), ('S', .argument), ('t', .argument), ('T', .argument)]
  names := [("ignore-leading-blanks", .nothing, 'b'), ("check", .joined, 'c'),
    ("dictionary-order", .nothing, 'd'), ("ignore-case", .nothing, 'f'),
    ("general-numeric-sort", .nothing, 'g'), ("ignore-nonprinting", .nothing, 'i'),
    ("key", .argument, 'k'), ("merge", .nothing, 'm'), ("month-sort", .nothing, 'M'),
    ("numeric-sort", .nothing, 'n'), ("human-numeric-sort", .nothing, 'h'),
    ("version-sort", .nothing, 'V'), ("random-sort", .nothing, 'R'), ("sort", .argument, 'W'),
    ("output", .argument, 'o'), ("reverse", .nothing, 'r'), ("stable", .nothing, 's'),
    ("buffer-size", .argument, 'S'), ("field-separator", .argument, 't'),
    ("temporary-directory", .argument, 'T'), ("unique", .nothing, 'u'),
    ("zero-terminated", .nothing, 'z'), ("parallel", .argument, 'P')]

def checkOrder (p : SortPlan) (check : Char) (name : Bytes) : Program := do
  match ← content name with
  | .error .isDirectory => giveUp 2 (ofText "read failed: " ++ nameText name ++ ofText ": Is a directory")
  | .error r => giveUp 2 (ofText "open failed: " ++ nameText name ++ [':', ' '] ++ r.message)
  | .ok cs =>
    match p.disorder? 2 (linesBy (if p.zero then '\x00' else '\n') cs) with
    | none => pure 0
    | some (n, l) =>
      if check = 'c' then
        complain (nameText name ++ ':' :: decimal n ++ ofText ": disorder: " ++ l)
      pure 1

def targetOf (p : SortPlan) : Effect (Except Bytes (Bytes → Effect Unit)) := do
  match p.target with
  | none => pure (.ok put)
  | some name =>
    let start ← read
    match ← openFile start.descriptors start.directory name ⟨false, true, true⟩ with
    | .error r => pure (.error (ofText "open failed: " ++ nameText name ++ [':', ' '] ++ r.message))
    | .ok _ => pure (.ok fun bytes => do
      match ← openFile start.descriptors start.directory name ⟨false, true, false⟩ with
      | .ok channel => let _ ← writeTo channel bytes
      | .error _ => pure ())

def sort : Program := inOrder sortOptions 2 ({} : SortPlan) SortPlan.step fun p operands => do
  let sources := if operands.isEmpty then [['-']] else operands
  let mark := if p.zero then '\x00' else '\n'
  match p.allKeys.findSome? (·.collation.conflict?), p.check with
  | some letters, _ => giveUp 2 (ofText "options '-" ++ letters ++ ofText "' are incompatible")
  | none, some check =>
    match sources with
    | _ :: other :: _ =>
      giveUp 2 (ofText "extra operand " ++ enquoted other ++ ofText " not allowed with -" ++ [check])
    | sources =>
      if p.target.isSome then giveUp 2 (ofText "options '-" ++ [check] ++ ofText "o' are incompatible")
      else checkOrder p check (sources.headD ['-'])
  | none, none =>
    for name in sources do
      if name ≠ ['-'] then
        match ← openRead name with
        | .ok _ => pure ()
        | .error r => return ← giveUp 2 (ofText "cannot read: " ++ nameText name ++ [':', ' '] ++ r.message)
    match ← targetOf p with
    | .error m => giveUp 2 m
    | .ok write =>
      let mut read : List (List Bytes) := []
      for name in sources do
        match ← content name with
        | .ok cs => read := linesBy mark cs :: read
        | .error r =>
          return ← giveUp 2 (ofText "read failed: " ++ nameText name ++ [':', ' '] ++ r.message)
      write ((p.sort read.reverse).flatMap fun l => l ++ [mark])
      pure 0

end LazyBundle.Shell.Lines
