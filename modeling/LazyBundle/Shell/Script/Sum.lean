import LazyBundle.Shell.Script.Basic

/-!
# Sums

A sum is worked out while it is read. What stands on a side that does not count
is read without its names being looked up and without values being given to them.
Numbers are 64 bits wide and wrap around.
-/

namespace LazyBundle.Shell.Sum

inductive Operator
  | times | quotient | rest | plus | minus | left | right
  | less | lessEqual | greater | greaterEqual | equal | unequal
  | and | xor | or
deriving DecidableEq, Repr

def Operator.rank : Operator → Nat
  | times | quotient | rest => 0
  | plus | minus => 1
  | left | right => 2
  | less | lessEqual | greater | greaterEqual => 3
  | equal | unequal => 4
  | and => 5
  | xor => 6
  | or => 7

inductive Token
  | number (n : Int)
  | name (text : Bytes)
  | binary (o : Operator)
  /-- Gives a name a value, which may be combined with its old one. -/
  | assign (o : Option Operator)
  | not | inverse | both | either | question | colon | opening | closing
  | unknown
  | stop
deriving DecidableEq, Repr, Inhabited

/-- The longest operators come first. -/
def operators : List (String × Token) := [
  ("<<=", .assign (some .left)), (">>=", .assign (some .right)),
  ("|=", .assign (some .or)), ("&=", .assign (some .and)), ("^=", .assign (some .xor)),
  ("+=", .assign (some .plus)), ("-=", .assign (some .minus)), ("*=", .assign (some .times)),
  ("/=", .assign (some .quotient)), ("%=", .assign (some .rest)),
  ("<<", .binary .left), (">>", .binary .right), ("<=", .binary .lessEqual),
  (">=", .binary .greaterEqual), ("==", .binary .equal), ("!=", .binary .unequal),
  ("&&", .both), ("||", .either),
  ("<", .binary .less), (">", .binary .greater), ("=", .assign none), ("!", .not),
  ("&", .binary .and), ("|", .binary .or), ("^", .binary .xor), ("+", .binary .plus),
  ("-", .binary .minus), ("*", .binary .times), ("/", .binary .quotient), ("%", .binary .rest),
  ("~", .inverse), ("?", .question), (":", .colon), ("(", .opening), (")", .closing)]

def largest : Int := Int.pow 2 63 - 1

def wrap (n : Int) : Int := n.bmod (Nat.pow 2 64)

def readNumber (cs : Bytes) : Nat × Bytes :=
  match cs with
  | '0' :: x :: d :: _ =>
    if (x = 'x' ∨ x = 'X') ∧ isHex d then takeNumber 16 (cs.drop 2) else takeNumber 8 cs
  | '0' :: _ => takeNumber 8 cs
  | cs => takeNumber 10 cs

/-- The tokens of a text; one for each step of fuel. -/
def tokens : Nat → Bytes → List Token
  | 0, _ => []
  | _, [] => []
  | fuel + 1, c :: cs =>
    if c = ' ' ∨ c = '\t' ∨ c = '\n' then tokens fuel cs
    else if c.isDigit then
      let (n, rest) := readNumber (c :: cs)
      .number (min n largest) :: tokens fuel rest
    else if isNameStart c then
      let name := (c :: cs).takeWhile isNameChar
      .name name :: tokens fuel ((c :: cs).drop name.length)
    else
      match operators.find? fun o => o.1.toList.isPrefixOf (c :: cs) with
      | some (text, token) => token :: tokens fuel ((c :: cs).drop text.length)
      | none => [.unknown]

/-- Why a sum has no value. -/
inductive Fault
  /-- The sum itself is wrong. -/
  | wrong (message : String)
  /-- A value is no number. -/
  | notNumber (text : Bytes)
deriving DecidableEq, Repr

structure Work where
  rest : List Token
  value? : Bytes → Option Bytes
  /-- The values that were given, the latest first. -/
  given : List (Bytes × Int) := []

abbrev Worked := StateT Work (Except Fault)

def peek : Worked Token := do pure ((← get).rest.headD .stop)

def advance : Worked Unit := modify fun w => { w with rest := w.rest.tail }

/-- The number that a whole text stands for; nothing stands for zero. -/
def numberOf? (text : Bytes) : Option Int :=
  let trimmed := text.dropWhile isSpace
  let (sign, body) := match trimmed with
    | '-' :: cs => (-1, cs)
    | '+' :: cs => (1, cs)
    | cs => ((1 : Int), cs)
  match body with
  | c :: _ =>
    if c.isDigit then
      let (n, rest) := readNumber body
      let value := sign * n
      if rest.all isSpace ∧ -largest - 1 ≤ value ∧ value ≤ largest then some value else none
    else none
  | [] => if text.all isSpace then some 0 else none

def numberOfDecimal? (text : Bytes) : Option Int :=
  let trimmed := text.dropWhile isSpace
  let (sign, body) := match trimmed with
    | '-' :: cs => (-1, cs)
    | '+' :: cs => (1, cs)
    | cs => ((1 : Int), cs)
  let (n, rest) := takeNumber 10 body
  if (body.head?.map Char.isDigit).getD false ∧ rest.all isSpace then some (sign * n) else none

/-- The value of a name; none counts as zero. -/
def lookUp (name : Bytes) : Worked Int := do
  let w ← get
  match w.given.lookup name with
  | some n => pure n
  | none =>
    match w.value? name with
    | none => pure 0
    | some text =>
      match numberOf? text with
      | some n => pure n
      | none => throw (.notNumber text)

def truth (b : Bool) : Int := if b then 1 else 0

/-- The bits of a number, seen as one without a sign. -/
def bits (n : Int) : Nat := (n.emod (Int.pow 2 64)).toNat

def ofBits (n : Nat) : Int := wrap n

def combine (o : Operator) (a b : Int) : Worked Int :=
  let shift := (b.emod 64).toNat
  match o with
  | .times => pure (wrap (a * b))
  | .quotient => if b = 0 then throw (.wrong "division by zero") else pure (wrap (a.tdiv b))
  | .rest => if b = 0 then throw (.wrong "division by zero") else pure (wrap (a.tmod b))
  | .plus => pure (wrap (a + b))
  | .minus => pure (wrap (a - b))
  | .left => pure (wrap (a * Int.pow 2 shift))
  | .right => pure (a.fdiv (Int.pow 2 shift))
  | .less => pure (truth (a < b))
  | .lessEqual => pure (truth (a ≤ b))
  | .greater => pure (truth (b < a))
  | .greaterEqual => pure (truth (b ≤ a))
  | .equal => pure (truth (a == b))
  | .unequal => pure (truth (a != b))
  | .and => pure (ofBits (bits a &&& bits b))
  | .xor => pure (ofBits (bits a ^^^ bits b))
  | .or => pure (ofBits (bits a ||| bits b))

mutual

/-- A value behind its signs; `counts` tells whether it is looked up. -/
def primary : Nat → Bool → Worked Int
  | 0, _ => throw (.wrong "expecting primary")
  | fuel + 1, counts => do
    let t ← peek
    advance
    match t with
    | .opening =>
      let n ← assignment fuel counts
      if (← peek) ≠ .closing then throw (.wrong "expecting ')'")
      advance
      pure n
    | .number n => pure n
    | .name text => if counts then lookUp text else pure 0
    | .binary .plus => primary fuel counts
    | .binary .minus => return wrap (-(← primary fuel counts))
    | .not => return truth ((← primary fuel counts) == 0)
    | .inverse => return -(← primary fuel counts) - 1
    | _ => throw (.wrong "expecting primary")

def binary : Nat → Nat → Bool → Worked Int
  | 0, _, _ => throw (.wrong "expecting primary")
  | fuel + 1, rank, counts => do
    let a ← primary fuel counts
    binaryFrom fuel rank counts a

def binaryFrom : Nat → Nat → Bool → Int → Worked Int
  | 0, _, _, _ => throw (.wrong "expecting primary")
  | fuel + 1, rank, counts, a => do
    match ← peek with
    | .binary o =>
      if o.rank < rank then
        advance
        let b ← binary fuel o.rank counts
        let a ← if counts then combine o a b else pure 0
        binaryFrom fuel rank counts a
      else pure a
    | _ => pure a

def both : Nat → Bool → Worked Int
  | 0, _ => throw (.wrong "expecting primary")
  | fuel + 1, counts => do
    let a ← binary fuel 8 counts
    if (← peek) = .both then
      advance
      let b ← both fuel (counts && a != 0)
      pure (truth (a != 0 && b != 0))
    else pure a

def either : Nat → Bool → Worked Int
  | 0, _ => throw (.wrong "expecting primary")
  | fuel + 1, counts => do
    let a ← both fuel counts
    if (← peek) = .either then
      advance
      let b ← either fuel (counts && a == 0)
      pure (truth (a != 0 || b != 0))
    else pure a

def choice : Nat → Bool → Worked Int
  | 0, _ => throw (.wrong "expecting primary")
  | fuel + 1, counts => do
    let a ← either fuel counts
    if (← peek) = .question then
      advance
      let yes ← assignment fuel (counts && a != 0)
      if (← peek) ≠ .colon then throw (.wrong "expecting ':'")
      advance
      let no ← choice fuel (counts && a == 0)
      pure (if a != 0 then yes else no)
    else pure a

def assignment : Nat → Bool → Worked Int
  | 0, _ => throw (.wrong "expecting primary")
  | fuel + 1, counts => do
    match (← get).rest with
    | .name text :: .assign o :: rest =>
      modify fun w => { w with rest := rest }
      let b ← assignment fuel counts
      if !counts then pure b
      else
        let n ← match o with
          | none => pure b
          | some o => combine o (← lookUp text) b
        modify fun w => { w with given := (text, n) :: w.given }
        pure n
    | _ => choice fuel counts

end

def value (value? : Bytes → Option Bytes) (text : Bytes) :
    Except Fault (Int × List (Bytes × Int)) := do
  let ts := tokens text.length text
  let (n, w) ← (assignment (8 * ts.length + 8) true).run { rest := ts, value? := value? }
  if w.rest.isEmpty then pure (n, w.given.reverse) else throw (.wrong "expecting EOF")

def Fault.message (text : Bytes) : Fault → Bytes
  | .wrong m => ofText ("arithmetic expression: " ++ m ++ ": \"") ++ text ++ ['"']
  | .notNumber value => ofText "Illegal number: " ++ value

end LazyBundle.Shell.Sum
