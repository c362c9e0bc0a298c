import LazyBundle.Shell.Format

/-!
# Conditions

Tests on texts, numbers and files. The command inside the shell reads operators
wherever they stand, the program of the same name goes by the count of its
arguments.
-/

namespace LazyBundle.Shell.Condition

abbrev Probe := Bytes → Option Entry

inductive Fault
  | missing (operator : Bytes)
  | unexpected (word : Bytes)
  | unclosed
  | notNumber (word : Bytes)
  | noBracket
  | notUnary (word : Bytes)
  | notBinary (word : Bytes)
  | extra (word : Bytes)
  | endsEarly (word : Bytes)
  | notInteger (word : Bytes)
  | noClosing
  | expected (word : String) (found : Option Bytes)
deriving Repr

def Fault.message : Fault → Bytes
  | missing operator => operator ++ ofText ": argument expected"
  | unexpected word =>
    (if word.isEmpty then [] else word ++ [':', ' ']) ++ ofText "unexpected operator"
  | unclosed => ofText "closing paren expected"
  | notNumber word => ofText "Illegal number: " ++ word
  | noBracket => ofText "missing ]"
  | notUnary word => quoted word ++ ofText ": unary operator expected"
  | notBinary word => quoted word ++ ofText ": binary operator expected"
  | extra word => ofText "extra argument " ++ quoted word
  | endsEarly word => ofText "missing argument after " ++ quoted word
  | notInteger word => ofText "invalid integer " ++ quoted word
  | noClosing => ofText "missing ']'"
  | expected word none => quoted (ofText word) ++ ofText " expected"
  | expected word (some found) =>
    quoted (ofText word) ++ ofText " expected, found " ++ quoted found

inductive Kind
  | unary
  | binary
  | negation
  | both
  | either
  | opening
  | closing
deriving DecidableEq, Repr

def unaryLetters : List Char := "rwxefdcbpugkstznhOGLS".toList

def binaryWords : List String :=
  ["=", "!=", "<", ">", "-eq", "-ne", "-ge", "-gt", "-le", "-lt", "-nt", "-ot", "-ef"]

def kind? (word : Bytes) : Option Kind :=
  match word with
  | ['!'] => some .negation
  | ['('] => some .opening
  | [')'] => some .closing
  | ['-', 'a'] => some .both
  | ['-', 'o'] => some .either
  | word =>
    if (binaryWords.map ofText).contains word then some .binary
    else match word with
      | ['-', c] => if c ∈ unaryLetters then some .unary else none
      | _ => none

def holdsFor (probe : Probe) (letter : Char) (word : Bytes) : Bool :=
  match letter, probe word with
  | 'z', _ => word.isEmpty
  | 'n', _ => !word.isEmpty
  | 'e', e => e.isSome
  | 'f', some (.file _) | 'f', some .program => true
  | 'd', some .directory => true
  | 'c', some .void | 'c', some .zeros | 'c', some .full => true
  | 'p', some .pipe => true
  | 's', some (.file content) => !content.isEmpty
  | 's', some .program | 's', some .directory => true
  | 'r', e | 'w', e | 'O', e | 'G', e => e.isSome
  | 'x', some .directory | 'x', some .program => true
  | _, _ => false

def number? (word : Bytes) : Option Int :=
  let (negative, digits) := Format.takeSign word
  if (digits.head?.map Char.isDigit).getD false then
    let (n, rest) := takeNumber 10 digits
    if rest.all isSpace then some (if negative then -(n : Int) else n) else none
  else none

/-- A test of two words; the fault says how a word that is no number is complained about. -/
def holdsBetween (fault : Bytes → Fault) (a operator b : Bytes) : Except Fault Bool := do
  let number (w : Bytes) : Except Fault Int := match number? w with
    | some n => .ok n
    | none => .error (fault w)
  match String.ofList operator with
  | "=" | "==" => pure (a == b)
  | "!=" => pure (a != b)
  | "<" => pure (decide (a < b))
  | ">" => pure (decide (b < a))
  | "-eq" => do pure ((← number a) == (← number b))
  | "-ne" => do pure ((← number a) != (← number b))
  | "-ge" => do let x ← number a; let y ← number b; pure (decide (y ≤ x))
  | "-gt" => do let x ← number a; let y ← number b; pure (decide (y < x))
  | "-le" => do let x ← number a; let y ← number b; pure (decide (x ≤ y))
  | "-lt" => do let x ← number a; let y ← number b; pure (decide (x < y))
  | _ => pure false

/-! ## Inside the shell -/

structure View where
  words : Array Bytes
  position : Nat := 0

abbrev Reader := StateT View (Except Fault)

/-- What a word means where it stands: a test of one word is no operator if it has to be an
operand. -/
def meaning (words : Array Bytes) (i : Nat) : Option (Option Kind) :=
  match words[i]? with
  | none => none
  | some word =>
    let kind := kind? word
    let operand : Bool := match kind with
      | some .unary =>
        match words[i + 1]?, words[i + 2]? with
        | none, _ => true
        | some _, none => false
        | some next, some _ => kind? next = some .binary
      | some .opening => words[i + 1]?.isNone
      | _ => false
    some (if operand then none else kind)

def meaningHere : Reader (Option (Option Kind)) := do
  let v ← get
  pure (meaning v.words v.position)

def wordHere : Reader (Option Bytes) := do
  let v ← get
  pure v.words[v.position]?

def step (n : Nat) : Reader Unit :=
  modify fun v => { v with position := v.position + n }

mutual

def disjunction (probe : Probe) : Nat → Option (Option Kind) → Reader Bool
  | 0, _ => pure false
  | fuel + 1, here => do
    let first ← conjunction probe fuel here
    let v ← get
    if meaning v.words (v.position + 1) = some (some .either) then
      step 2
      let more ← disjunction probe fuel (← meaningHere)
      pure (first || more)
    else pure first

def conjunction (probe : Probe) : Nat → Option (Option Kind) → Reader Bool
  | 0, _ => pure false
  | fuel + 1, here => do
    let first ← negation probe fuel here
    let v ← get
    if meaning v.words (v.position + 1) = some (some .both) then
      step 2
      let more ← conjunction probe fuel (← meaningHere)
      pure (first && more)
    else pure first

def negation (probe : Probe) : Nat → Option (Option Kind) → Reader Bool
  | 0, _ => pure false
  | fuel + 1, here => do
    if here = some (some .negation) then
      let v ← get
      let next := meaning v.words (v.position + 1)
      if next.isSome then step 1
      pure !(← negation probe fuel next)
    else primary probe fuel here

def primary (probe : Probe) : Nat → Option (Option Kind) → Reader Bool
  | 0, _ => pure false
  | fuel + 1, here => do
    match here with
    | none => pure false
    | some (some .opening) =>
      step 1
      let next ← meaningHere
      if next = some (some .closing) then pure false
      else
        let result ← disjunction probe fuel next
        step 1
        if (← meaningHere) = some (some .closing) then pure result else throw .unclosed
    | some (some .unary) =>
      let operator := (← wordHere).getD []
      step 1
      match ← wordHere with
      | none => throw (.missing operator)
      | some word =>
        if operator = ['-', 't'] ∧ (number? word).isNone then throw (.notNumber word)
        pure (holdsFor probe ((operator.drop 1).headD ' ') word)
    | some _ =>
      let v ← get
      if meaning v.words (v.position + 1) = some (some .binary) then
        let a := (← wordHere).getD []
        step 1
        let operator := (← wordHere).getD []
        step 1
        match ← wordHere with
        | none => throw (.missing operator)
        | some b => holdsBetween .notNumber a operator b
      else pure !((← wordHere).getD []).isEmpty

end

/-- Reads words from the front; gives also where the reading ended. -/
def evaluate (probe : Probe) (words : List Bytes) (here : Option (Option Kind)) : Except Fault Bool := do
  let (result, v) ← (disjunction probe (4 * words.length + 8) here).run { words := words.toArray }
  match v.words[v.position]?, v.words[v.position + 1]? with
  | some word, some _ => throw (.unexpected word)
  | _, _ => pure result

def holdsInside (probe : Probe) : Nat → List Bytes → Except Fault Bool
  | 0, _ => .ok false
  | fuel + 1, words =>
    let start (words : List Bytes) := evaluate probe words (meaning words.toArray 0)
    let grouped : Except Fault Bool :=
      if words.head? = some ['('] ∧ words.getLast? = some [')'] then
        start ((words.drop 1).dropLast)
      else if words.head? = some ['!'] then
        return !(← holdsInside probe fuel (words.drop 1))
      else start words
    match words with
    | [] => .ok false
    | [_, operator, _] =>
      if kind? operator = some .binary then evaluate probe words (some none) else grouped
    | [_, _, _, _] => grouped
    | words => start words

/-- The status of the command; a bracket wants its counterpart at the end. -/
def inside (probe : Probe) (bracketed : Bool) (args : List Bytes) : Except Fault Bool :=
  if bracketed then
    if (args.getLast?.bind List.head?) = some ']' then holdsInside probe (args.length + 1) args.dropLast
    else .error .noBracket
  else holdsInside probe (args.length + 1) args

/-! ## The program -/

def isBinaryWord (w : Bytes) : Bool :=
  (["=", "==", "!=", "-eq", "-ne", "-ge", "-gt", "-le", "-lt", "-nt", "-ot", "-ef"].map ofText).contains w

def isSwitch : Bytes → Bool
  | ['-', _] => true
  | _ => false

def wordAt (ahead : Nat) : Reader (Option Bytes) := do
  let v ← get
  pure v.words[v.position + ahead]?

def isWord (ahead : Nat) (word : String) : Reader Bool := do
  return (← wordAt ahead) == some (ofText word)

def isBinaryAt (ahead : Nat) : Reader Bool := do
  return ((← wordAt ahead).map isBinaryWord).getD false

def endsHere {α : Type} : Reader α := do
  throw (.endsEarly ((← get).words.toList.getLast?.getD []))

def takeWord : Reader Bytes := do
  match ← wordHere with
  | some word =>
    step 1
    pure word
  | none => endsHere

/-- Goes on by a word; another one has to follow. -/
def stepInside : Reader Unit := do
  step 1
  if (← wordHere).isNone then endsHere

def oneWord : Reader Bool := do
  return !(← takeWord).isEmpty

def unaryTest (probe : Probe) : Reader Bool := do
  let operator ← takeWord
  match operator with
  | ['-', c] =>
    if c ∈ unaryLetters ++ ['N'] then
      let word ← takeWord
      if c = 't' ∧ (number? word).isNone then throw (.notInteger word)
      pure (holdsFor probe c word)
    else throw (.notUnary operator)
  | _ => throw (.notUnary operator)

def binaryTest : Reader Bool := do
  let a ← takeWord
  let operator ← takeWord
  let b ← takeWord
  holdsBetween .notInteger a operator b

def twoWords (probe : Probe) : Reader Bool := do
  if ← isWord 0 "!" then
    step 1
    return !(← oneWord)
  else if ((← wordHere).map isSwitch).getD false then unaryTest probe
  else endsHere

/-- How many words a group from here on is taken to have: those up to the closing word, or all if that
is not near. -/
def groupLength : Reader Nat := do
  let v ← get
  let rest := v.words.toList.drop v.position
  let n := ((rest.drop 1).takeWhile (· ≠ [')'])).length + 1
  pure (if 4 < n then rest.length else n)

mutual

def anyOf (probe : Probe) : Nat → Reader Bool
  | 0 => pure false
  | fuel + 1 => do
    let first ← allOf probe fuel
    if ← isWord 0 "-o" then
      step 1
      let more ← anyOf probe fuel
      pure (first || more)
    else pure first

def allOf (probe : Probe) : Nat → Reader Bool
  | 0 => pure false
  | fuel + 1 => do
    let first ← term probe fuel
    if ← isWord 0 "-a" then
      step 1
      let more ← allOf probe fuel
      pure (first && more)
    else pure first

def term (probe : Probe) : Nat → Reader Bool
  | 0 => pure false
  | fuel + 1 => do
    if (← wordHere).isNone then endsHere
    else if ← isWord 0 "!" then
      stepInside
      return !(← term probe fuel)
    else if ← isWord 0 "(" then
      stepInside
      let result ← counted probe fuel (← groupLength)
      match ← wordHere with
      | some [')'] =>
        step 1
        pure result
      | some word => throw (.expected ")" (some word))
      | none => throw (.expected ")" none)
    else if (← isBinaryAt 1) && (← wordAt 2).isSome then binaryTest
    else if ((← wordHere).map isSwitch).getD false then unaryTest probe
    else oneWord

def threeWords (probe : Probe) : Nat → Reader Bool
  | 0 => pure false
  | fuel + 1 => do
    if ← isBinaryAt 1 then binaryTest
    else if ← isWord 0 "!" then
      stepInside
      return !(← twoWords probe)
    else if (← isWord 0 "(") && (← isWord 2 ")") then
      step 1
      let result ← oneWord
      step 1
      pure result
    else if (← isWord 1 "-a") || (← isWord 1 "-o") then anyOf probe fuel
    else throw (.notBinary ((← wordAt 1).getD []))

def counted (probe : Probe) : Nat → Nat → Reader Bool
  | 0, _ => pure false
  | fuel + 1, count => do
    match count with
    | 1 => oneWord
    | 2 => twoWords probe
    | 3 => threeWords probe fuel
    | 4 =>
      if ← isWord 0 "!" then
        stepInside
        return !(← threeWords probe fuel)
      else if (← isWord 0 "(") && (← isWord 3 ")") then
        step 1
        let result ← twoWords probe
        step 1
        pure result
      else anyOf probe fuel
    | _ => anyOf probe fuel

end

def holdsOutside (probe : Probe) (ws : List Bytes) : Except Fault Bool := do
  if ws.isEmpty then return false
  let (result, v) ← (counted probe (8 * ws.length + 8) ws.length).run { words := ws.toArray }
  match v.words[v.position]? with
  | some word => throw (.extra word)
  | none => pure result

def probeFrom (start : Start) (w : World) : Probe := fun path =>
  ((kindAt start.descriptors start.directory path).run w).1

def program (bracketed : Bool) : Program := do
  let probe := probeFrom (← read) (← get)
  let args := (← read).arguments
  let result := if bracketed then
      if args.getLast? = some [']'] then holdsOutside probe args.dropLast else .error .noClosing
    else holdsOutside probe args
  match result with
  | .ok true => pure 0
  | .ok false => pure 1
  | .error f => Effect.giveUp 2 f.message

end LazyBundle.Shell.Condition
