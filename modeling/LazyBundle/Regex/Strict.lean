import LazyBundle.Regex.Machine
import LazyBundle.Regex.Size
import LazyBundle.Text.Blank
import LazyBundle.Text.Hex
import LazyBundle.Text.Letter

/-!
# Strict syntax

A syntax of expressions in which whatever has no meaning is malformed: a
repetition of nothing, an unknown escape, an open group. Groups can switch modes
on and off. Classes and letter cases beyond ASCII are not known, so what would
need them is malformed too, unless the mode `u` is switched off; then again
whatever could take a part of a character is malformed. Expressions that are
nested too deeply or need too large an automaton are refused.
-/

namespace LazyBundle.Regex.Strict

structure Modes where
  ignoreCase : Bool := false
  multiLine : Bool := false
  dotTakesAll : Bool := false
  /-- Whether a carriage return ends a line too. -/
  anyLineEnd : Bool := false
  unicode : Bool := true
  spaced : Bool := false

structure State where
  rest : List Char
  modes : Modes := {}
  /-- The names of groups so far. -/
  names : List (List Char) := []
  /-- How many groups are numbered so far. -/
  groups : Nat := 0

abbrev Parser := StateT State Option

def malformed {α : Type} : Parser α := fun _ => none

def check (condition : Bool) : Parser Unit :=
  if condition then pure () else malformed

def modes : Parser Modes := do
  return (← get).modes

def peek? : Parser (Option Char) := do
  return (← get).rest.head?

def next : Parser Char := do
  match (← get).rest with
  | c :: cs =>
    modify fun s => { s with rest := cs }
    pure c
  | [] => malformed

def startsWith (word : List Char) : Parser Bool := do
  return word.isPrefixOf (← get).rest

def accept (word : List Char) : Parser Bool := do
  match word.isPrefixOf? (← get).rest with
  | some rest =>
    modify fun s => { s with rest := rest }
    pure true
  | none => pure false

def takeRun (p : Char → Bool) : Parser (List Char) := do
  let cs := (← get).rest
  modify fun s => { s with rest := cs.dropWhile p }
  pure (cs.takeWhile p)

/-! ## Blanks -/

/-- What lies between the parts in the spaced mode: blanks, and comments up to the line end. -/
def gap : Nat → List Char → List Char
  | 0, cs => cs
  | fuel + 1, cs =>
    match cs.dropWhile Text.isBlank with
    | '#' :: cs => gap fuel (cs.dropWhile (· != '\n'))
    | cs => cs

def skipGap : Parser Unit :=
  modify fun s => if s.modes.spaced then { s with rest := gap s.rest.length s.rest } else s

def nextSkipping : Parser Char := do
  let c ← next
  skipGap
  pure c

def acceptSkipping (word : List Char) : Parser Bool := do
  let found ← accept word
  if found then skipGap
  pure found

def runSkipping (p : Char → Bool) : Nat → Parser (List Char)
  | 0 => pure []
  | fuel + 1 => do
    if ((← peek?).map p).getD false then
      let c ← nextSkipping
      let cs ← runSkipping p fuel
      pure (c :: cs)
    else pure []

def takeRunSkipping (p : Char → Bool) : Parser (List Char) := do
  runSkipping p (← get).rest.length

/-- The character behind the next one, in the spaced mode behind blanks; there the mark of a comment
hides only itself. -/
def peekSecond? : Parser (Option Char) := do
  let s ← get
  let behind := s.rest.drop 1
  if s.modes.spaced then
    let shown := match behind.dropWhile Text.isBlank with
      | '#' :: cs => cs.dropWhile Text.isBlank
      | cs => cs
    pure (shown.head?.or behind.head?)
  else pure behind.head?

/-! ## Parts -/

structure Part where
  expr : Expr
  /-- How deep groups, repetitions, classes, sequences and choices lie in each other. -/
  depth : Nat
  /-- Whether the part only switches modes. -/
  isSwitch : Bool := false

namespace Part

def leaf (e : Expr) : Part := ⟨e, 0, false⟩

def repeated (p : Part) (least : Nat) (most : Option Nat) : Part :=
  ⟨p.expr.times least most, p.depth + 1, false⟩

def deepest (ps : List Part) : Nat :=
  (ps.map Part.depth).foldl max 0

/-- Parts one after the other; a single one stays as it is. -/
def sequence : List Part → Part
  | [] => leaf .empty
  | [p] => { p with isSwitch := false }
  | ps => ⟨(ps.map Part.expr).foldr Expr.followedBy .empty, deepest ps + 1, false⟩

def choice : List Part → Part
  | [p] => p
  | ps => ⟨Expr.oneOf (ps.map Part.expr), deepest ps + 1, false⟩

def group (number : Option Nat) (p : Part) : Part :=
  ⟨(number.map fun n => Expr.group n p.expr).getD p.expr, p.depth + 1, false⟩

end Part

/-! ## Escapes -/

inductive Escape
  | literal (c : Char)
  | ranges (rs : List (Char × Char))
  | edge (e : Edge)

def hexValue (cs : List Char) : Option Nat :=
  cs.foldlM (fun n c => (Text.hexValue? c).map (n * 16 + ·)) 0

def codePoint (digits : List Char) : Parser Nat := do
  match hexValue digits with
  | some n =>
    check (n.isValidChar && !digits.isEmpty)
    pure n
  | none => malformed

/-- A code in hexadecimal digits, as many as given or between braces. A byte in two digits that is no
character is malformed where characters are bytes. -/
def hexEscape (count : Nat) : Parser Escape := do
  skipGap
  if ← acceptSkipping ['\x7b'] then
    let digits ← takeRunSkipping (· != '\x7d')
    let _ ← nextSkipping
    return .literal (Char.ofNat (← codePoint digits))
  else
    let digits ← runSkipping (fun _ => true) count
    check (digits.length == count)
    let n ← codePoint digits
    check ((← modes).unicode || count ≠ 2 || n < 128)
    return .literal (Char.ofNat n)

def namedControl? : Char → Option Char
  | 'a' => some '\x07'
  | 'f' => some '\x0c'
  | 't' => some '\t'
  | 'n' => some '\n'
  | 'r' => some '\r'
  | 'v' => some '\x0b'
  | _ => none

def isEdgeLetter (c : Char) : Bool :=
  ('a' ≤ c && c ≤ 'z') || ('A' ≤ c && c ≤ 'Z') || c == '-'

def namedEdge? (name : List Char) : Option Edge :=
  match String.ofList name with
  | "start" => some .wordStart
  | "end" => some .wordEnd
  | "start-half" => some .noWordBefore
  | "end-half" => some .noWordAfter
  | _ => none

/-- The edge of a word; a name in braces says which one. Braces around something else are left to be
read as a repetition. -/
def wordEdge : Parser Edge := do
  let before ← get
  if ← acceptSkipping ['\x7b'] then
    match (← peek?).map isEdgeLetter with
    | none => malformed
    | some false =>
      set before
      pure .wordEdge
    | some true =>
      let name ← takeRunSkipping isEdgeLetter
      check (← accept ['\x7d'])
      match namedEdge? name with
      | some e => pure e
      | none => malformed
  else pure .wordEdge

def escape : Parser Escape := do
  let c ← next
  let ascii := !(← modes).unicode
  match c with
  | 'x' => hexEscape 2
  | 'u' => hexEscape 4
  | 'U' => hexEscape 8
  | 'd' => if ascii then pure (.ranges CharSet.digits) else malformed
  | 's' => if ascii then pure (.ranges CharSet.space) else malformed
  | 'w' => if ascii then pure (.ranges CharSet.word) else malformed
  | 'A' => pure (.edge .textStart)
  | 'z' => pure (.edge .textEnd)
  | 'b' => if ascii then return .edge (← wordEdge) else malformed
  | 'B' => if ascii then pure (.edge .noWordEdge) else malformed
  | '<' => if ascii then pure (.edge .wordStart) else malformed
  | '>' => if ascii then pure (.edge .wordEnd) else malformed
  | c =>
    match namedControl? c with
    | some control => pure (.literal control)
    | none => if c.toNat < 128 ∧ !c.isAlphanum then pure (.literal c) else malformed

def literal (c : Char) : Parser Expr := do
  let modes ← modes
  if modes.ignoreCase then
    check !modes.unicode
    pure (.ofRanges (Ranges.single c).foldCase)
  else pure (.char c)

/-! ## Classes -/

inductive SetOperation
  | intersection
  | difference
  | symmetric

def SetOperation.apply : SetOperation → Ranges → Ranges → Ranges
  | intersection => Ranges.intersection
  | difference => Ranges.difference
  | symmetric => Ranges.symmetricDifference

structure Items where
  ranges : Ranges := []
  count : Nat := 0
  deepest : Nat := 0

namespace Items

def add (items : Items) (rs : Ranges) (depth : Nat) : Items :=
  ⟨items.ranges.union rs, items.count + 1, max items.deepest depth⟩

def depth (items : Items) : Nat :=
  if items.count ≤ 1 then items.deepest else items.deepest + 1

def joinTo (items : Items) (folds : Bool) : Option (SetOperation × Items) → Items
  | none => items
  | some (operation, left) =>
    let fold (rs : Ranges) : Ranges := if folds then rs.foldCase else rs
    ⟨operation.apply (fold left.ranges) (fold items.ranges), 1, max left.depth items.depth + 1⟩

end Items

/-- A class by its name between colons, and whether it is negated; none if this is not one. -/
def namedClass? (cs : List Char) : Option (Ranges × Bool × List Char) := do
  let cs ← ['[', ':'].isPrefixOf? cs
  let (negated, cs) := match cs with
    | '^' :: cs => (true, cs)
    | cs => (false, cs)
  let rest ← [':', ']'].isPrefixOf? (cs.dropWhile (· != ':'))
  let name := String.ofList (cs.takeWhile (· != ':'))
  let ranges ← if name = "ascii" then some [('\x00', '\x7f')]
    else if name = "word" then some CharSet.word
    else classRanges? name
  pure (Ranges.ofCharRanges ranges, negated, rest)

/-- The set of a class, in either case where case does not count. Where characters are bytes it may
not go beyond ASCII. -/
def finishClass (negated : Bool) (rs : Ranges) : Parser Ranges := do
  let modes ← modes
  check !(modes.ignoreCase && modes.unicode)
  let rs := if modes.ignoreCase then rs.foldCase else rs
  let rs := if negated then rs.complement else rs
  check (modes.unicode || rs.isAscii)
  pure rs

inductive ClassItem
  | literal (c : Char)
  | ranges (rs : Ranges)

def classItem : Parser ClassItem := do
  let item ← match ← next with
    | '\\' =>
      match ← escape with
      | .literal c => pure (.literal c)
      | .ranges rs => pure (ClassItem.ranges (Ranges.ofCharRanges rs))
      | .edge _ => malformed
    | c => pure (.literal c)
  match item with
  | .literal c => check ((← modes).unicode || c.toNat < 128)
  | .ranges _ => pure ()
  pure item

def classRange : Parser Ranges := do
  let first ← classItem
  skipGap
  let isRange := (← peek?) == some '-' && !([']', '-'].map some).contains (← peekSecond?)
  match isRange, first with
  | false, .literal c => pure (.single c)
  | false, .ranges rs => pure rs
  | true, .ranges _ => malformed
  | true, .literal low =>
    let _ ← nextSkipping
    match ← classItem with
    | .literal high =>
      check (low ≤ high)
      pure [(low.toNat, high.toNat)]
    | .ranges _ => malformed

def openingItems : Parser Items := do
  let dashes ← takeRunSkipping (· == '-')
  let items : Items := dashes.foldl (fun items c => items.add (.single c) 0) {}
  if dashes.isEmpty && (← acceptSkipping [']']) then pure (items.add (.single ']') 0)
  else pure items

mutual

def classBody : Nat → Parser (Ranges × Nat)
  | 0 => malformed
  | fuel + 1 => do
    skipGap
    let negated ← acceptSkipping ['^']
    let items ← classItems fuel none (← openingItems)
    pure (← finishClass negated items.ranges, items.depth + 1)

/-- The items up to the closing bracket. An operation joins everything on its left with what
stands between it and the next operation. -/
def classItems : Nat → Option (SetOperation × Items) → Items → Parser Items
  | 0, _, _ => malformed
  | fuel + 1, pending, items => do
    skipGap
    let joined := items.joinTo (← modes).ignoreCase pending
    match namedClass? (← get).rest with
    | some (rs, negated, rest) =>
      modify fun s => { s with rest := rest }
      classItems fuel pending (items.add (← finishClass negated rs) 0)
    | none =>
      if ← accept ['['] then
        let (rs, depth) ← classBody fuel
        classItems fuel pending (items.add rs depth)
      else if ← accept [']'] then pure joined
      else if ← accept ['&', '&'] then classItems fuel (some (.intersection, joined)) {}
      else if ← accept ['-', '-'] then classItems fuel (some (.difference, joined)) {}
      else if ← accept ['~', '~'] then classItems fuel (some (.symmetric, joined)) {}
      else
        let rs ← classRange
        classItems fuel pending (items.add rs 0)

end

/-! ## Repetitions -/

def decimal : Parser Nat := do
  let _ ← takeRun Text.isBlank
  let digits ← takeRunSkipping Char.isDigit
  let _ ← takeRunSkipping Text.isBlank
  check !digits.isEmpty
  let n := digits.foldl (fun n c => n * 10 + (c.toNat - 48)) 0
  check (n < Nat.pow 2 32)
  pure n

def bounds : Parser (Nat × Option Nat) := do
  skipGap
  let least ← decimal
  let most ← if ← acceptSkipping [','] then
      if (← peek?) == some '\x7d' then pure none else do pure (some (← decimal))
    else pure (some least)
  check (← acceptSkipping ['\x7d'])
  let _ ← accept ['?']
  check ((most.map fun m => decide (least ≤ m)).getD true)
  pure (least, most)

def repetition? : Char → Option (Parser (Nat × Option Nat))
  | '*' => some (short (0, none))
  | '+' => some (short (1, none))
  | '?' => some (short (0, some 1))
  | '\x7b' => some bounds
  | _ => none
where
  short (r : Nat × Option Nat) : Parser (Nat × Option Nat) := do
    let _ ← accept ['?']
    pure r

/-! ## Modes -/

def setMode (letter : Char) (on : Bool) (m : Modes) : Option Modes :=
  match letter with
  | 'i' => some { m with ignoreCase := on }
  | 'm' => some { m with multiLine := on }
  | 's' => some { m with dotTakesAll := on }
  | 'R' => some { m with anyLineEnd := on }
  | 'u' => some { m with unicode := on }
  | 'x' => some { m with spaced := on }
  | 'U' => some m
  | _ => none

/-- Applies the letters of a mode switch; those behind the dash are switched off. -/
def readModes (letters : List Char) (m : Modes) : Option Modes := do
  let on := letters.takeWhile (· != '-')
  let off := (letters.dropWhile (· != '-')).drop 1
  guard !(letters.contains '-' && off.isEmpty)
  guard (on ++ off).Nodup
  let m ← on.foldlM (fun m c => setMode c true m) m
  off.foldlM (fun m c => setMode c false m) m

def isNameStart (c : Char) : Bool :=
  c == '_' || Text.isLetter c

def isNamePart (c : Char) : Bool :=
  isNameStart c || Text.isNumeral c || c == '.' || c == '[' || c == ']'

def groupName : Parser Unit := do
  let name ← takeRun (· != '>')
  let _ ← next
  check ((name.head?.map isNameStart).getD false && name.all isNamePart)
  check !(← get).names.contains name
  modify fun s => { s with names := name :: s.names }

def newGroup : Parser Nat := do
  modify fun s => { s with groups := s.groups + 1 }
  return (← get).groups

/-! ## Expressions -/

def dot : Parser Expr := do
  let modes ← modes
  check modes.unicode
  let excluded : Ranges := if modes.dotTakesAll then []
    else if modes.anyLineEnd then [(10, 10), (13, 13)]
    else [(10, 10)]
  pure (.ofRanges excluded.complement)

def lineStart (m : Modes) : Edge :=
  if !m.multiLine then .textStart else if m.anyLineEnd then .anyLineStart else .lineStart

def lineEnd (m : Modes) : Edge :=
  if !m.multiLine then .textEnd else if m.anyLineEnd then .anyLineEnd else .lineEnd

def simplePart (c : Char) : Parser Expr := do
  match c with
  | '.' => dot
  | '^' => return .edge (lineStart (← modes))
  | '$' => return .edge (lineEnd (← modes))
  | '\\' =>
    match ← escape with
    | .literal c => literal c
    | .ranges rs => pure (.ofRanges (Ranges.ofCharRanges rs))
    | .edge e => pure (.edge e)
  | c => literal c

mutual

def alternatives : Nat → Parser (List Part)
  | 0 => malformed
  | fuel + 1 => do
    let first ← sequence fuel []
    if ← accept ['|'] then return first :: (← alternatives fuel)
    else return [first]

def sequence : Nat → List Part → Parser Part
  | 0, _ => malformed
  | fuel + 1, done => do
    skipGap
    match ← peek? with
    | none | some '|' | some ')' => pure (.sequence done.reverse)
    | some c =>
      let _ ← next
      match repetition? c with
      | some bounds =>
        let (least, most) ← bounds
        match done with
        | [] => malformed
        | p :: before =>
          check !p.isSwitch
          sequence fuel (p.repeated least most :: before)
      | none =>
        let p ← match c with
          | '(' => group fuel
          | '[' => do
            let (rs, depth) ← classBody fuel
            pure ⟨.ofRanges rs, depth, false⟩
          | c => do pure (.leaf (← simplePart c))
        sequence fuel (p :: done)

def group : Nat → Parser Part
  | 0 => malformed
  | fuel + 1 => do
    skipGap
    let outer ← modes
    let body (number : Option Nat) : Parser Part := do
      let p := Part.choice (← alternatives fuel)
      check (← accept [')'])
      modify fun s => { s with modes := outer }
      pure (p.group number)
    if !(← accept ['?']) then
      let number ← newGroup
      body (some number)
    else if (← startsWith ['=']) || (← startsWith ['!']) || (← startsWith ['<', '=']) ||
      (← startsWith ['<', '!']) then malformed
    else if (← accept ['P', '<']) || (← accept ['<']) then
      let number ← newGroup
      groupName
      body (some number)
    else
      let letters ← takeRun fun c => c != ':' && c != ')'
      match readModes letters outer with
      | none => malformed
      | some modes =>
        let closing ← next
        modify fun s => { s with modes := modes }
        if closing = ':' then body none
        else
          check !letters.isEmpty
          pure ⟨.empty, 0, true⟩

end

/-! ## Machines -/

/-- How deep the parts of an expression may lie in each other. -/
def depthLimit : Nat := 250

/-- How much memory an automaton may take. -/
def sizeLimit : Nat := 10 * Nat.pow 2 20

def parse? (text : String) : Option Machine := do
  let chars := text.toList
  let (ps, s) ← (alternatives (4 * chars.length + 8)).run { rest := chars }
  let p := Part.choice ps
  guard s.rest.isEmpty
  guard (p.depth ≤ depthLimit)
  guard (machineSize .forward p.expr ≤ sizeLimit ∧ machineSize .backward p.expr ≤ sizeLimit)
  pure (Machine.ofExpr p.expr false)

end LazyBundle.Regex.Strict
