import LazyBundle.Regex.Machine

/-!
# Basic and extended syntax

The two portable syntaxes of expressions. In the basic one a backslash gives
parentheses, braces and bars their meaning, in the extended one it takes it
away. Both know words, places and classes by a backslash and a letter.
-/

namespace LazyBundle.Regex.Posix

inductive Fault
  | badExpression
  | badCollation
  | badClassName
  | trailingBackslash
  | badReference
  | openBracket
  | openGroup
  | openBrace
  | badBounds
  | badRange
  | badRepetition
  | tooLarge
  | closedGroup
deriving DecidableEq, Repr

def Fault.message : Fault → String
  | badExpression => "Invalid regular expression"
  | badCollation => "Invalid collation character"
  | badClassName => "Invalid character class name"
  | trailingBackslash => "Trailing backslash"
  | badReference => "Invalid back reference"
  | openBracket => "Unmatched [, [^, [:, [., or [="
  | openGroup => "Unmatched ( or \\("
  | openBrace => "Unmatched \\\x7b"
  | badBounds => "Invalid content of \\\x7b\\\x7d"
  | badRange => "Invalid range end"
  | badRepetition => "Invalid preceding regular expression"
  | tooLarge => "Regular expression too big"
  | closedGroup => "Unmatched ) or \\)"

structure Dialect where
  extended : Bool := false
  /-- Whether a line feed ends a line inside the text: places hold around it, and neither a dot nor
  a negated set takes it. -/
  multiLine : Bool := false
  /-- Whether a repetition of nothing, an open brace and a parenthesis that closes nothing stand for
  themselves in the extended syntax. -/
  lenient : Bool := false
  /-- Whether letters of either case are the same: the ends of a range are read as capitals. -/
  folds : Bool := false
  /-- Whether lines inside the text end in another mark than a line feed: places then hold at the
  ends of the text alone. -/
  otherMark : Bool := false
deriving DecidableEq, Repr, Inhabited

def Dialect.anchorsLines (d : Dialect) : Bool := d.multiLine && !d.otherMark

def Dialect.limit (d : Dialect) (c : Char) : Char := if d.folds then c.toUpper else c

/-- The range between two characters, unless they are out of order. -/
def Dialect.range? (d : Dialect) (low high : Char) : Option (Char × Char) :=
  if d.limit low ≤ d.limit high then some (d.limit low, d.limit high) else none

inductive Sign
  | char (c : Char)
  | dot
  | opening
  | closing
  | bracket
  | bar
  | star
  | plus
  | question
  | openBrace
  | closeBrace
  | reference (n : Nat)
  | place (e : Edge)
  | ranges (rs : List (Char × Char)) (negated : Bool)
  /-- A backslash with nothing behind it. -/
  | backslash
  | stop
deriving DecidableEq, Repr, Inhabited

namespace Sign

def isRepetition : Sign → Bool
  | star | plus | question | openBrace => true
  | _ => false

/-- The character a sign stands for where it has no other meaning. -/
def face : Sign → Char
  | char c => c
  | star => '*'
  | plus => '+'
  | question => '?'
  | openBrace => '\x7b'
  | closeBrace => '\x7d'
  | closing => ')'
  | bar => '|'
  | opening => '('
  | bracket => '['
  | dot => '.'
  | _ => '\\'

end Sign

def escapedSign (d : Dialect) (c : Char) : Sign :=
  if '1' ≤ c ∧ c ≤ '9' then .reference (c.toNat - 48)
  else match c with
    | '<' => .place .wordStart
    | '>' => .place .wordEnd
    | 'b' => .place .wordEdge
    | 'B' => .place .noWordEdge
    | 'w' => .ranges CharSet.word false
    | 'W' => .ranges CharSet.word true
    | 's' => .ranges CharSet.space false
    | 'S' => .ranges CharSet.space true
    | '\x60' => .place .textStart
    | '\x27' => .place .textEnd
    | c =>
      if d.extended then .char c
      else match c with
        | '(' => .opening
        | ')' => .closing
        | '|' => .bar
        | '+' => .plus
        | '?' => .question
        | '\x7b' => .openBrace
        | '\x7d' => .closeBrace
        | c => .char c

def endsBranch (cs : List Char) : Bool :=
  cs.isEmpty || ['\\', ')'].isPrefixOf cs || ['\\', '|'].isPrefixOf cs

/-- The first sign of a text; `fresh` tells whether a branch begins here. -/
def scan (d : Dialect) (fresh : Bool) : List Char → Sign × List Char
  | [] => (.stop, [])
  | ['\\'] => (.backslash, [])
  | '\\' :: c :: cs => (escapedSign d c, cs)
  | c :: cs =>
    let sign : Sign := match c with
      | '.' => .dot
      | '[' => .bracket
      | '*' => .star
      | '^' =>
        if d.extended || fresh then .place (if d.anchorsLines then .lineStart else .textStart)
        else .char c
      | '$' =>
        if d.extended || endsBranch cs then .place (if d.anchorsLines then .lineEnd else .textEnd)
        else .char c
      | c =>
        if !d.extended then .char c
        else match c with
          | '(' => .opening
          | ')' => .closing
          | '|' => .bar
          | '+' => .plus
          | '?' => .question
          | '\x7b' => .openBrace
          | '\x7d' => .closeBrace
          | c => .char c
    (sign, cs)

/-! ## Sets between brackets -/

inductive Element
  | char (c : Char)
  | named (ranges : List (Char × Char))

/-- How long a name between brackets may be. -/
def nameLimit : Nat := 32

def elementName (mark : Char) : Nat → List Char → Option (List Char × List Char)
  | 0, _ => none
  | limit + 1, c :: d :: cs =>
    if c = mark ∧ d = ']' then some ([], cs)
    else (elementName mark limit (d :: cs)).map fun (name, rest) => (c :: name, rest)
  | _, _ => none

/-- One element; at the front a dash is an element too. -/
def element (front : Bool) : List Char → Except Fault (Element × List Char)
  | [] => .error .openBracket
  | '[' :: '.' :: cs =>
    match elementName '.' nameLimit cs with
    | some ([c], rest) => .ok (.char c, rest)
    | some _ => .error .badCollation
    | none => .error .openBracket
  | '[' :: '=' :: cs =>
    match elementName '=' nameLimit cs with
    | some ([c], rest) => .ok (.named [(c, c)], rest)
    | some _ => .error .badCollation
    | none => .error .openBracket
  | '[' :: ':' :: cs =>
    match elementName ':' nameLimit cs with
    | some (name, rest) =>
      match classRanges? (String.ofList name) with
      | some ranges => .ok (.named ranges, rest)
      | none => .error .badClassName
    | none => .error .openBracket
  | '-' :: cs =>
    if front || cs.head? == some ']' then .ok (.char '-', cs) else .error .badRange
  | c :: cs => .ok (.char c, cs)

def elements (d : Dialect) : Nat → Bool → List Char → Except Fault (List (Char × Char) × List Char)
  | 0, _, _ => .error .openBracket
  | fuel + 1, front, cs => do
    let (first, cs) ← element front cs
    let (ranges, cs) ← match first, cs with
      | .named _, '-' :: e :: cs =>
        if e = ']' then pure (match first with | .named rs => rs | .char c => [(c, c)], '-' :: e :: cs)
        else throw .badRange
      | .named rs, cs => pure (rs, cs)
      | .char low, '-' :: e :: cs =>
        if e = ']' then pure ([(low, low)], '-' :: e :: cs)
        else do
          let (last, cs) ← element true (e :: cs)
          match last with
          | .named _ => throw .badRange
          | .char high =>
            match d.range? low high with
            | some r => pure ([r], cs)
            | none => throw .badRange
      | .char c, cs => pure ([(c, c)], cs)
    match cs with
    | [] => throw .openBracket
    | ']' :: cs => pure (ranges, cs)
    | cs => do
      let (more, cs) ← elements d fuel false cs
      pure (ranges ++ more, cs)

def bracket (d : Dialect) (cs : List Char) : Except Fault (CharSet × List Char) := do
  let (negated, body) := match cs with
    | '^' :: cs => (true, cs)
    | cs => (false, cs)
  match body with
  | [] => throw .badExpression
  | c :: rest =>
    -- A bracket at the front is an element.
    let (ranges, rest) ← if c = ']' then do
        match rest with
        | '-' :: e :: _ =>
          if e = ']' then do
            let (more, rest) ← elements d (rest.length + 1) false rest
            pure ((c, c) :: more, rest)
          else do
            let (last, rest) ← element true (rest.drop 1)
            match last with
            | .named _ => throw .badRange
            | .char high =>
              match d.range? c high, rest with
              | none, _ => throw .badRange
              | some r, ']' :: rest => pure ([r], rest)
              | some r, rest => do
                let (more, rest) ← elements d (rest.length + 1) false rest
                pure (r :: more, rest)
        | ']' :: rest => pure ([(c, c)], rest)
        | rest => do
          let (more, rest) ← elements d (rest.length + 1) false rest
          pure ((c, c) :: more, rest)
      else elements d (body.length + 1) true body
    let extra := if negated && d.multiLine then [('\n', '\n')] else []
    pure (⟨ranges ++ extra, negated⟩, rest)

/-! ## Expressions -/

structure State where
  sign : Sign
  rest : List Char
  /-- How many groups were opened, and the numbers of those that were closed. -/
  groups : Nat := 0
  closed : List Nat := []

abbrev Parser := StateT State (Except Fault)

def fail {α : Type} (f : Fault) : Parser α := throw f

def advance (d : Dialect) (fresh : Bool) : Parser Unit :=
  modify fun s => let (sign, rest) := scan d fresh s.rest; { s with sign := sign, rest := rest }

def boundLimit : Nat := 32767

inductive Bound
  | none
  | malformed
  | number (n : Nat)

def bound (d : Dialect) : Nat → Bound → Parser Bound
  | 0, _ => pure .malformed
  | fuel + 1, b => do
    advance d false
    match (← get).sign with
    | .stop => pure .malformed
    | .closeBrace | .char ',' => pure b
    | .char c =>
      if c.isDigit then
        let digit := c.toNat - 48
        bound d fuel <| match b with
          | .none => .number digit
          | .number n => .number (min (boundLimit + 1) (n * 10 + digit))
          | .malformed => .malformed
      else bound d fuel .malformed
    | _ => bound d fuel .malformed

/-- The bounds behind an opening brace; none if they are malformed and stand for themselves. -/
def bounds (d : Dialect) : Parser (Option (Nat × Option Nat)) := do
  let start ← get
  let fuel := start.rest.length + 1
  let broken : Parser (Option (Nat × Option Nat)) := do
    if d.lenient && d.extended then
      set { start with sign := .char '\x7b' }
      pure none
    else fail (if (← get).sign = .stop then .openBrace else .badBounds)
  let first ← bound d fuel .none
  let comma := (← get).sign = .char ','
  match first with
  | .malformed => broken
  | .none => if comma then upper 0 fuel broken else fail .badBounds
  | .number n => if comma then upper n fuel broken else finish n (some n)
where
  finish (least : Nat) (most : Option Nat) : Parser (Option (Nat × Option Nat)) := do
    if (← get).sign ≠ .closeBrace then fail .badBounds
    else if (most.map fun m => decide (m < least)).getD false then fail .badBounds
    else if boundLimit < most.getD least then fail .tooLarge
    else pure (some (least, most))
  upper (least fuel : Nat) (broken : Parser (Option (Nat × Option Nat))) :
      Parser (Option (Nat × Option Nat)) := do
    match ← bound d fuel .none with
    | .malformed => broken
    | .none => finish least none
    | .number m => finish least (some m)

def repetitions (d : Dialect) : Nat → Expr → Parser Expr
  | 0, _ => fail .tooLarge
  | fuel + 1, p => do
    let sign := (← get).sign
    if !sign.isRepetition then pure p
    else
      let found ← match sign with
        | .star => pure (some (0, none))
        | .plus => pure (some (1, none))
        | .question => pure (some (0, some 1))
        | _ => bounds d
      match found with
      | none => pure p
      | some (least, most) => do
        advance d false
        let p := if most = some 0 then .empty else .repeated p least most
        let next := (← get).sign
        if !d.extended && (next = .star || next = .openBrace) then fail .badRepetition
        else repetitions d fuel p

mutual

def alternatives (d : Dialect) : Nat → Nat → Parser Expr
  | 0, _ => fail .tooLarge
  | fuel + 1, depth => do
    let before := (← get).closed
    let first ← branch d fuel depth .empty
    if (← get).sign = .bar then
      let closed := (← get).closed
      modify fun s => { s with closed := before }
      advance d true
      let others ← alternatives d fuel depth
      modify fun s => { s with closed := closed ++ s.closed }
      pure (.either first others)
    else pure first

def branch (d : Dialect) : Nat → Nat → Expr → Parser Expr
  | 0, _, _ => fail .tooLarge
  | fuel + 1, depth, done => do
    match (← get).sign with
    | .stop | .bar => pure done
    | .closing =>
      if 0 < depth then pure done
      else if d.lenient then do
        let p ← part d fuel depth
        branch d fuel depth (if done = .empty then p else .seq done p)
      else fail .closedGroup
    | _ => do
      let p ← part d fuel depth
      branch d fuel depth (if done = .empty then p else .seq done p)

def part (d : Dialect) : Nat → Nat → Parser Expr
  | 0, _ => fail .tooLarge
  | fuel + 1, depth => do
    let literal (c : Char) : Parser Expr := do
      advance d false
      repetitions d fuel (.char c)
    let sign := (← get).sign
    match sign with
    | .char c => literal c
    | .dot => do
      advance d false
      repetitions d fuel (.set (if d.multiLine then .notLineFeed else .all))
    | .ranges rs negated => do
      advance d false
      repetitions d fuel (.set ⟨rs, negated⟩)
    | .reference n => do
      if n ∈ (← get).closed then
        advance d false
        repetitions d fuel (.again n)
      else fail .badReference
    | .bracket => do
      match bracket d (← get).rest with
      | .error f => fail f
      | .ok (set, rest) =>
        modify fun s => { s with rest := rest }
        advance d false
        repetitions d fuel (.set set)
    | .opening => do
      let number := (← get).groups + 1
      modify fun s => { s with groups := number }
      advance d true
      let body ← if (← get).sign = .closing then pure .empty else alternatives d fuel (depth + 1)
      if (← get).sign ≠ .closing then fail .openGroup
      modify fun s => { s with closed := number :: s.closed }
      advance d false
      repetitions d fuel (.group number body)
    | .place e => do
      advance d false
      pure (.edge e)
    | .backslash => fail .trailingBackslash
    | .openBrace =>
      if !d.extended then fail .badRepetition
      else if d.lenient then literal sign.face else fail .badRepetition
    | .star | .plus | .question =>
      if d.extended && !d.lenient then fail .badRepetition
      else if d.extended then do
        advance d false
        part d fuel depth
      else literal sign.face
    | .closeBrace | .closing => literal sign.face
    | .bar | .stop => pure .empty

end

def parse (d : Dialect) (chars : List Char) : Except Fault Expr := do
  let (sign, rest) := scan d true chars
  let (p, _) ← (alternatives d (6 * chars.length + 12) 0).run { sign := sign, rest := rest }
  pure p

end LazyBundle.Regex.Posix
