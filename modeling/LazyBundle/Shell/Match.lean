import LazyBundle.Regex.Bracket
import LazyBundle.Regex.Posix
import LazyBundle.Shell.Lines.Basic

/-!
# Matching lines

Writes the lines in which an expression is found, or counts them, or writes only
what was found.
-/

namespace LazyBundle.Shell.Match

open Effect Copy

inductive Form
  | basic
  | extended
  | literal
  | other
deriving DecidableEq, Repr

structure Search where
  form : Option Form := none
  /-- The patterns that options give. -/
  patterns : Option (List Bytes) := none
  /-- Files of patterns, to be read. -/
  files : List Bytes := []
  before : Option Nat := none
  after : Option Nat := none
  around : Option Nat := none
  /-- The digits of a number that stands alone. -/
  digits : Bytes := []
  limit : Option Nat := none
  /-- Letters without arguments. -/
  letters : List Char := []
  separator : Option Bytes := some ['-', '-']
  label : Bytes := ofText "(standard input)"

namespace Search

def has (s : Search) (letter : Char) : Bool := s.letters.contains letter

/-- A count of lines; one that is too large has no end. -/
def count? (text : Bytes) : Option (Option Nat) :=
  let body := text.dropWhile isSpace
  let (negative, ds) := match body with
    | '-' :: ds => (true, ds)
    | '+' :: ds => (false, ds)
    | ds => (false, ds)
  (digits? ds).map fun n => if negative ∧ n ≠ 0 ∨ Nat.pow 2 63 ≤ n then none else some n

def withForm (s : Search) (f : Form) : Except Misuse Search :=
  match s.form with
  | some g =>
    if f ≠ g then .error (.plain (ofText "conflicting matchers specified"))
    else .ok s
  | none => .ok { s with form := some f }

def step (s : Search) (letter : Char) (argument : Bytes) : Except Misuse Search :=
  let context : Except Misuse Nat :=
    match count? argument with
    | some (some n) => .ok n
    | some none =>
      if argument.contains '-' then .error (.plain (argument ++ ofText ": invalid context length argument"))
      else .ok (Nat.pow 2 62)
    | none => .error (.plain (argument ++ ofText ": invalid context length argument"))
  match letter with
  | 'E' => s.withForm .extended
  | 'F' => s.withForm .literal
  | 'G' => s.withForm .basic
  | 'P' => s.withForm .other
  | 'X' => .error (.plain (ofText "invalid matcher " ++ argument))
  | 'A' => do pure { s with after := some (← context), digits := [] }
  | 'B' => do pure { s with before := some (← context), digits := [] }
  | 'C' => do pure { s with around := some (← context), digits := [] }
  | 'm' =>
    match count? argument with
    | some n => .ok { s with limit := n }
    | none => .error (.plain (ofText "invalid max count"))
  | 'e' => .ok { s with patterns := some (s.patterns.getD [] ++ splitOn '\n' argument) }
  | 'f' => .ok { s with patterns := some (s.patterns.getD []), files := s.files ++ [argument] }
  | 'D' =>
    if (["read", "skip"].map ofText).contains argument then .ok s
    else .error (.plain (ofText "unknown devices method"))
  | 'd' => do
    let _ ← choice "--directories" [(["read"], ()), (["recurse"], ()), (["skip"], ())] argument
    pure s
  | 'b' => .ok { s with letters := letter :: s.letters }
  | 'K' =>
    if argument = ofText "text" then .ok { s with letters := 'a' :: s.letters }
    else if argument = ofText "without-match" then .ok { s with letters := 'I' :: s.letters }
    else if argument = ofText "binary" then .ok s
    else .error (.plain (ofText "unknown binary-files type"))
  | 'S' => .ok { s with separator := some argument }
  | 'N' => .ok { s with separator := none }
  | 'W' => .ok { s with label := argument }
  | 'Y' => .ok { s with letters := s.letters.filter fun c => c != 'i' && c != 'y' }
  | 'H' | 'h' => .ok { s with letters := letter :: s.letters.filter fun c => c != 'H' && c != 'h' }
  | 'l' | 'L' => .ok { s with letters := letter :: s.letters.filter fun c => c != 'l' && c != 'L' }
  | c =>
    if c.isDigit then .ok { s with digits := s.digits ++ [c], around := digits? (s.digits ++ [c]) }
    else .ok { s with letters := c :: s.letters }

end Search

def matchOptions : OptionTable where
  letters := "EFGHILPTUVZabchilnoqRrsuvwxyz0123456789".toList.map (fun c => (c, Need.nothing)) ++
    "ABCDXdefm".toList.map (fun c => (c, Need.argument))
  names := [("extended-regexp", .nothing, 'E'), ("fixed-strings", .nothing, 'F'),
    ("basic-regexp", .nothing, 'G'), ("perl-regexp", .nothing, 'P'), ("ignore-case", .nothing, 'i'),
    ("no-ignore-case", .nothing, 'Y'), ("invert-match", .nothing, 'v'),
    ("count", .nothing, 'c'), ("line-number", .nothing, 'n'), ("only-matching", .nothing, 'o'),
    ("quiet", .nothing, 'q'), ("silent", .nothing, 'q'), ("files-with-matches", .nothing, 'l'),
    ("files-without-match", .nothing, 'L'), ("word-regexp", .nothing, 'w'),
    ("line-regexp", .nothing, 'x'), ("regexp", .argument, 'e'), ("file", .argument, 'f'),
    ("no-filename", .nothing, 'h'), ("with-filename", .nothing, 'H'), ("max-count", .argument, 'm'),
    ("no-messages", .nothing, 's'), ("after-context", .argument, 'A'),
    ("before-context", .argument, 'B'), ("context", .argument, 'C'), ("text", .nothing, 'a'),
    ("byte-offset", .nothing, 'b'), ("null-data", .nothing, 'z'), ("null", .nothing, 'Z'),
    ("initial-tab", .nothing, 'T'), ("line-buffered", .nothing, 'U'), ("binary", .nothing, 'U'),
    ("color", .joined, 'k'), ("colour", .joined, 'k'), ("binary-files", .argument, 'K'),
    ("directories", .argument, 'd'), ("devices", .argument, 'D'), ("recursive", .nothing, 'r'),
    ("dereference-recursive", .nothing, 'R'), ("include", .argument, 'k'), ("exclude", .argument, 'k'),
    ("exclude-dir", .argument, 'k'), ("group-separator", .argument, 'S'),
    ("no-group-separator", .nothing, 'N'), ("label", .argument, 'W')]

/-- The repetitions of nothing at the start of an extended expression or one of its parts. -/
def idleRepetitions : Nat → Bool → Bytes → List Bytes
  | 0, _, _ | _, _, [] => []
  | fuel + 1, start, c :: cs =>
    let warning (text : String) : Bytes := ofText (text ++ " at start of expression")
    match c, cs with
    | '\\', _ :: cs => idleRepetitions fuel false cs
    | '[', cs =>
      let body := match cs with
        | '^' :: ']' :: cs | ']' :: cs | '^' :: cs => cs
        | cs => cs
      idleRepetitions fuel false ((body.dropWhile (· != ']')).drop 1)
    | '(', cs | '|', cs => idleRepetitions fuel true cs
    | '^', cs => idleRepetitions fuel start cs
    | '*', cs | '+', cs | '?', cs =>
      (if start then [warning (String.ofList [c])] else []) ++ idleRepetitions fuel start cs
    | '\x7b', cs =>
      let low := cs.takeWhile Char.isDigit
      let rest := cs.drop low.length
      let (high, rest) := match rest with
        | ',' :: rest => (rest.takeWhile Char.isDigit, rest.dropWhile Char.isDigit)
        | rest => (low, rest)
      match rest with
      | '\x7d' :: rest =>
        if low.isEmpty ∧ high.isEmpty then idleRepetitions fuel false cs
        else (if start then [warning "\x7b...\x7d"] else []) ++ idleRepetitions fuel start rest
      | _ => idleRepetitions fuel false cs
    | _, cs => idleRepetitions fuel false cs

inductive Fault
  | expression (f : Regex.Posix.Fault)
  /-- A set that looks like the name of a class. -/
  | bareClass

def Fault.message : Fault → Bytes
  | expression f => ofText f.message
  | bareClass => ofText "character class syntax is [[:space:]], not [:space:]"

/-- The expression for all patterns; they are alternatives. -/
def expression (x : Form) (folds : Bool) (patterns : List Bytes) : Except Fault Regex.Expr :=
  let parsed (d : Regex.Posix.Dialect) (p : Bytes) : Except Fault Regex.Expr :=
    match Regex.Posix.parse { d with folds := folds } p with
    | .error f => .error (.expression f)
    | .ok e => if (Regex.Bracket.setsIn (p.length + 1) p).any Regex.Bracket.looksNamed then .error .bareClass else .ok e
  let one (p : Bytes) : Except Fault Regex.Expr :=
    match x with
    | .literal => .ok (p.foldr (fun c e => .seq (.char c) e) .empty)
    | .basic => parsed {} p
    | .extended | .other => parsed { extended := true, lenient := true } p
  match patterns with
  | [] => .ok .never
  | p :: ps => ps.foldlM (fun e p => return .either e (← one p)) =<< one p

/-! ## Lines -/

structure Sight where
  machine : Regex.Machine
  inverted : Bool
  onlyMatches : Bool
  numbers : Bool
  offsets : Bool
  before : Nat
  after : Nat
  limit : Option Nat
  /-- What stands behind the name of a file, if that is not the usual mark. -/
  nameMark : Option Char
  separator : Option Bytes
  /-- Whether what stands in front of a line takes up as much room everywhere. -/
  aligned : Bool
  mark : Char

/-- The matches in a line that are not empty. -/
def Sight.matchesIn (s : Sight) (line : Array Char) : Nat → Nat → List (Nat × Bytes)
  | 0, _ => []
  | fuel + 1, position =>
    match s.machine.search line position with
    | none => []
    | some m =>
      if m.stop = m.start then
        if m.stop < line.size then s.matchesIn line fuel (m.stop + 1) else []
      else
        (m.start, (line.extract m.start m.stop).toList) :: s.matchesIn line fuel m.stop

structure Line where
  number : Nat
  offset : Nat
  text : Bytes
  selected : Bool

def Sight.lines (s : Sight) (ls : List Bytes) : List Line :=
  (ls.foldl (fun (done, n, offset) l =>
    let hit := (s.machine.search l.toArray 0).isSome != s.inverted
    (⟨n, offset, l, hit⟩ :: done, n + 1, offset + l.length + 1)) (([] : List Line), 1, 0)).1.reverse

def limited : Option Nat → List Line → List Line
  | none, ls => ls
  | some _, [] => []
  | some 0, ls => ls.map fun l => { l with selected := false }
  | some (n + 1), l :: ls =>
    if l.selected then l :: limited (some n) ls else l :: limited (some (n + 1)) ls

def numberWidth : Nat := 19

def Sight.lead (s : Sight) (name : Option Bytes) (mark : Char) (n offset : Nat) : Bytes :=
  let number (n : Nat) : Bytes :=
    padLeft ' ' (if s.aligned then numberWidth else 0) (decimal n) ++ [mark]
  let lead := (match name with
    | some name => name ++ [s.nameMark.getD mark]
    | none => []) ++
    (if s.numbers then number n else []) ++ (if s.offsets then number offset else [])
  if s.aligned && !lead.isEmpty then lead ++ ['\t'] else lead

def Sight.line (s : Sight) (name : Option Bytes) (l : Line) : Bytes :=
  if s.onlyMatches then
    if s.inverted ∨ !l.selected then []
    else (s.matchesIn l.text.toArray (l.text.length + 1) 0).flatMap fun (start, text) =>
      s.lead name ':' l.number (l.offset + start) ++ text ++ ['\n']
  else s.lead name (if l.selected then ':' else '-') l.number l.offset ++ l.text ++ [s.mark]

def Sight.shown (s : Sight) (name : Option Bytes) (ls : List Line) : Bytes :=
  let hits := (ls.filter (·.selected)).map (·.number)
  let near (n : Nat) : Bool := hits.any fun h => h ≤ n + s.before && n ≤ h + s.after
  let groups := 0 < s.before + s.after
  let gapText := match s.separator with
    | some text => text ++ ['\n']
    | none => []
  (ls.foldl (fun (text, last) l =>
    if near l.number then
      let gap := groups && last ≠ 0 && last + 1 ≠ l.number
      (text ++ (if gap then gapText else []) ++ s.line name l, l.number)
    else (text, last)) (([] : Bytes), 0)).1

/-! ## The program -/

def run (name : String) (x : Form) : Program := fun start => go { start with name := ofText name }
where
  go : Program := do
    let chosen := matchOptions.readFrom false (← read).arguments
    match chosen.options.foldlM (fun s o => s.step o.1 o.2) ({} : Search), chosen.fault with
    | .error m, _ =>
      complain m.message
      if m.hinted then usage else pure 2
    | .ok _, some f =>
      complain f.message
      usage
    | .ok s, none =>
      let fromFiles ← s.files.mapM fun name => do pure (name, ← content name)
      match fromFiles.find? fun r => !r.2.toBool with
      | some (name, .error r) => giveUp 2 (name ++ [':', ' '] ++ r.message)
      | _ =>
        let listed := fromFiles.flatMap fun r => (r.2.toOption).getD [] |> linesOf
        match s.patterns, chosen.operands with
        | none, [] => usage
        | none, p :: files => search s (splitOn '\n' p) files
        | some given, files => search s (given ++ listed) files
  usage : Program := do
    warn (ofText "Usage: grep [OPTION]... PATTERNS [FILE]...")
    warn (ofText "Try 'grep --help' for more information.")
    pure 2
  search (s : Search) (patterns : List Bytes) (files : List Bytes) : Program := do
    let form := s.form.getD x
    let folds := s.has 'i' || s.has 'y'
    if s.limit = some 0 then return 1
    match expression form folds patterns with
    | .error f => giveUp 2 f.message
    | .ok e =>
      if form = .extended then
        for w in patterns.flatMap fun p => idleRepetitions (p.length + 1) true p do
          complain (ofText "warning: " ++ w)
      let e := if s.has 'x' then .seq (.edge .textStart) (.seq e (.edge .textEnd))
        else if s.has 'w' then .seq (.edge .noWordBefore) (.seq e (.edge .noWordAfter))
        else e
      let mark := if s.has 'z' then '\x00' else '\n'
      let sight : Sight := {
        machine := Regex.Machine.ofExpr e folds
        inverted := s.has 'v'
        onlyMatches := s.has 'o'
        numbers := s.has 'n'
        offsets := s.has 'b'
        before := (s.before.or s.around).getD 0
        after := (s.after.or s.around).getD 0
        limit := s.limit
        nameMark := if s.has 'Z' then some '\x00' else none
        separator := s.separator
        aligned := s.has 'T'
        mark := mark }
      if files.isEmpty && (s.has 'r' || s.has 'R') then return 1
      let sources := if files.isEmpty then [['-']] else files
      let headed := s.has 'H' || (1 < sources.length && !s.has 'h')
      let mut found := false
      let mut broken := false
      for name in sources do
        match ← content name with
        | .error r =>
          if !s.has 's' then complain (name ++ [':', ' '] ++ r.message)
          broken := true
        | .ok cs =>
          let shownName := if name = ['-'] then s.label else name
          let binary := cs.contains '\x00' && !s.has 'a' && !s.has 'z'
          let text := if binary then cs.map fun c => if c = '\x00' then mark else c else cs
          let ls := if binary && s.has 'I' then []
            else limited s.limit (sight.lines (Lines.linesBy mark text))
          let hits := (ls.filter (·.selected)).length
          let nameEnd := sight.nameMark.getD '\n'
          if 0 < hits then found := true
          if s.has 'q' then
            if found then return 0
          else if s.has 'l' then
            if 0 < hits then put (shownName ++ [nameEnd])
          else if s.has 'L' then
            if hits = 0 then put (shownName ++ [nameEnd])
          else if s.has 'c' then
            put ((if headed then shownName ++ [sight.nameMark.getD ':'] else []) ++ decimal hits ++ ['\n'])
          else if binary then
            if 0 < hits then complain (shownName ++ ofText ": binary file matches")
          else put (sight.shown (if headed then some shownName else none) ls)
      pure (if broken then 2 else if found then 0 else 1)

end LazyBundle.Shell.Match
