import LazyBundle.Shell.Lines.Basic

/-!
# Repeated lines

Joins neighbours that are the same as far as they are compared.
-/

namespace LazyBundle.Shell.Lines

open Effect Copy

inductive Delimiting
  | none
  | before
  | between
  | after
  | around
deriving DecidableEq, Repr

structure Repeats where
  counted : Bool := false
  /-- Which lines are written: those without others like them, one of those with others, and all
  the others of these. -/
  unique : Bool := true
  first : Bool := true
  others : Bool := false
  delimiting : Delimiting := .none
  /-- Whether all lines are written, in groups. -/
  grouped : Bool := false
  /-- Whether an option told which lines are written. -/
  told : Bool := false
  fold : Bool := false
  zero : Bool := false
  fields : Nat := 0
  /-- Whether the fields to be skipped were told by a number alone. -/
  fieldsAlone : Bool := false
  characters : Nat := 0
  compared : Option Nat := .none

def uniqOptions : OptionTable where
  letters := "cdDuiz0123456789".toList.map (fun c => (c, Need.nothing)) ++
    [('f', .argument), ('s', .argument), ('w', .argument)]
  names := [("count", .nothing, 'c'), ("repeated", .nothing, 'd'), ("all-repeated", .joined, 'D'),
    ("group", .joined, 'g'), ("unique", .nothing, 'u'), ("ignore-case", .nothing, 'i'),
    ("skip-fields", .argument, 'f'), ("skip-chars", .argument, 's'), ("check-chars", .argument, 'w'),
    ("zero-terminated", .nothing, 'z')]

namespace Repeats

def step (r : Repeats) (letter : Char) (argument : Bytes) : Except Misuse Repeats :=
  let amount (what : String) : Except Misuse Nat :=
    match amount? false 0 (wordLimit - 1) argument with
    | .ok n => .ok n
    | .error .malformed => .error (.plain (argument ++ ofText (": invalid number of " ++ what)))
    | .error _ => .ok (wordLimit - 1)
  let way (option : String) (ways : List (List String × Delimiting)) (unsaid : Delimiting) :
      Except Misuse Delimiting :=
    if argument.isEmpty then .ok unsaid else choice option ways argument
  match letter with
  | 'c' => pure { r with counted := true, told := true }
  | 'd' => pure { r with unique := false, told := true }
  | 'D' => do
    let d ← way "--all-repeated" [(["none"], .none), (["prepend"], .before), (["separate"], .between)] .none
    pure { r with unique := false, others := true, delimiting := d, told := true }
  | 'g' => do
    let d ← way "--group"
      [(["prepend"], .before), (["append"], .after), (["separate"], .between), (["both"], .around)] .between
    pure { r with grouped := true, delimiting := d }
  | 'u' => pure { r with first := false, told := true }
  | 'i' => pure { r with fold := true }
  | 'z' => pure { r with zero := true }
  | 'f' => do
    let n ← amount "fields to skip"
    pure { r with fields := n, fieldsAlone := false }
  | 's' => do
    let n ← amount "bytes to skip"
    pure { r with characters := n }
  | 'w' => do
    let n ← amount "bytes to compare"
    pure { r with compared := some n }
  | c =>
    pure { r with
      fields := (if r.fieldsAlone then r.fields * 10 else 0) + (c.toNat - 48)
      fieldsAlone := true }

def view (r : Repeats) (l : Bytes) : Bytes :=
  let l := (dropFields (min r.fields l.length) l).drop r.characters
  let l := match r.compared with
    | some n => l.take n
    | .none => l
  if r.fold then l.map Char.toLower else l

def shown (r : Repeats) (group : List Bytes) : List Bytes :=
  match group with
  | [l] => if r.unique then [l] else []
  | group =>
    if r.others then group.dropLast ++ (if r.first then group.getLast?.toList else [])
    else if r.first then group.head?.toList else []

def text (r : Repeats) (groups : List (List Bytes)) : Bytes :=
  let mark := if r.zero then '\x00' else '\n'
  let line (group : List Bytes) (l : Bytes) : Bytes :=
    (if r.counted then padLeft ' ' 7 (decimal group.length) ++ [' '] else []) ++ l ++ [mark]
  let body := if r.grouped then groups.map fun g => g.flatMap (line g)
    else (groups.filter fun g => r.delimiting = .none || 1 < g.length).map fun g =>
      (r.shown g).flatMap (line g)
  match r.delimiting with
  | .none => body.flatten
  | .before => body.flatMap fun b => mark :: b
  | .between => joinWith [mark] body
  | .after => body.flatMap fun b => b ++ [mark]
  | .around => if body.isEmpty then [] else body.flatMap (fun b => mark :: b) ++ [mark]

end Repeats

def runsOf (same : Bytes → Bytes → Bool) (ls : List Bytes) : List (List Bytes) :=
  ls.foldr (fun l runs =>
    match runs with
    | (m :: ms) :: rest => if same l m then (l :: m :: ms) :: rest else [l] :: runs
    | runs => [l] :: runs) []

def plusOperands (r : Repeats) : List Bytes → Repeats × List Bytes
  | [] => (r, [])
  | o :: rest =>
    let (r, rest) := plusOperands r rest
    match o with
    | '+' :: ds =>
      match digits? ds with
      | some n => ({ r with characters := n }, rest)
      | none => (r, o :: rest)
    | o => (r, o :: rest)

def uniq : Program := inOrder uniqOptions 1 ({} : Repeats) Repeats.step fun r operands => do
  let (r, operands) := plusOperands r operands
  match operands with
  | _ :: _ :: o :: _ => misused 1 (ofText "extra operand " ++ quoted o)
  | operands =>
    if r.grouped ∧ r.told then
      misused 1 (ofText "--group is mutually exclusive with -c/-d/-D/-u")
    else if r.others ∧ r.counted then
      misused 1 (ofText "printing all duplicated lines and repeat counts is meaningless")
    else
      let source := operands.headD ['-']
      match ← content source with
      | .error .isDirectory => giveUp 1 (ofText "error reading " ++ enquoted source ++ ofText ": Is a directory")
      | .error e => giveUp 1 (nameText source ++ [':', ' '] ++ e.message)
      | .ok cs =>
        let ls := linesBy (if r.zero then '\x00' else '\n') cs
        let written := r.text (runsOf (fun a b => r.view a == r.view b) ls)
        match operands with
        | [_, target] =>
          if target = ['-'] then put written; return 0
          let start ← read
          match ← openFile start.descriptors start.directory target ⟨false, true, false⟩ with
          | .ok channel =>
            let _ ← writeTo channel written
            pure 0
          | .error e => giveUp 1 (nameText target ++ [':', ' '] ++ e.message)
        | _ =>
          put written
          pure 0

end LazyBundle.Shell.Lines
