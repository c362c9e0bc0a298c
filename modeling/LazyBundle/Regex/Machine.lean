import LazyBundle.Regex.Basic

/-!
# Searching

An expression is turned into a list of steps that refer to each other by number.
A search walks through them depth first and marks each pair of a step and a
place, so that no pair is walked through twice. It takes the leftmost match,
there the longest one, and of several ways to that end the first one that tries
more repetitions before fewer and left alternatives before right ones.
-/

namespace LazyBundle.Regex

inductive Step
  | done
  | fail
  | set (s : CharSet) (next : Nat)
  | edge (e : Edge) (next : Nat)
  | fork (first second : Nat)
  | mark (slot : Nat) (next : Nat)
  | again (group : Nat) (next : Nat)
deriving Repr, Inhabited

/-- Steps under construction: the step before another one is built after it. -/
abbrev Steps := Array Step

def emit (steps : Steps) (s : Step) : Steps × Nat :=
  let number := steps.size
  (steps.push s, number)

def times (build : Steps → Nat → Steps × Nat) : Nat → Steps → Nat → Steps × Nat
  | 0, steps, next => (steps, next)
  | n + 1, steps, next =>
    let (steps, next) := build steps next
    times build n steps next

/-- As `times`, but the rounds may stop at `exit` before each of them. -/
def upTo (build : Steps → Nat → Steps × Nat) (exit : Nat) : Nat → Steps → Nat → Steps × Nat
  | 0, steps, next => (steps, next)
  | n + 1, steps, next =>
    let (steps, entry) := build steps next
    let (steps, entry) := emit steps (.fork entry exit)
    upTo build exit n steps entry

/-- The steps of an expression that go on to `next`; returns where they begin. -/
def build : Expr → Steps → Nat → Steps × Nat
  | .empty, steps, next => (steps, next)
  | .never, steps, _ => emit steps .fail
  | .set s, steps, next => emit steps (.set s next)
  | .edge e, steps, next => emit steps (.edge e next)
  | .seq p q, steps, next =>
    let (steps, middle) := build q steps next
    build p steps middle
  | .either p q, steps, next =>
    let (steps, first) := build p steps next
    let (steps, second) := build q steps next
    emit steps (.fork first second)
  | .repeated p least none, steps, next =>
    let (steps, loop) := emit steps .fail
    let (steps, entry) := build p steps loop
    let steps := steps.setIfInBounds loop (.fork entry next)
    times (build p) least steps loop
  | .repeated p least (some most), steps, next =>
    let (steps, entry) := upTo (build p) next (most - least) steps next
    times (build p) least steps entry
  | .group n p, steps, next =>
    let (steps, close) := emit steps (.mark (2 * n + 1) next)
    let (steps, entry) := build p steps close
    emit steps (.mark (2 * n) entry)
  | .again n, steps, next => emit steps (.again n next)

structure Machine where
  steps : Steps
  start : Nat
  /-- Whether what matched before has a say in what matches next. -/
  remembers : Bool
  foldsCase : Bool
deriving Inhabited

def Machine.ofExpr (p : Expr) (foldsCase : Bool) : Machine :=
  let p := if foldsCase then p.foldCase else p
  let (steps, start) := build p #[.done] 0
  ⟨steps, start, p.hasReference, foldsCase⟩

/-- Where the groups begin and end, by slots; the latest entry of a slot counts. -/
abbrev Marks := List (Nat × Nat)

structure Spot where
  step : Nat
  position : Nat
  marks : Marks := []
  /-- Steps since the last character, so that a walk which remembers does not turn in circles. -/
  since : List Nat := []

namespace Machine

def groupSpan? (marks : Marks) (n : Nat) : Option (Nat × Nat) := do
  let a ← marks.lookup (2 * n)
  let b ← marks.lookup (2 * n + 1)
  if a ≤ b then pure (a, b) else none

def sameChar (m : Machine) (a b : Char) : Bool :=
  if m.foldsCase then a.toLower == b.toLower else a == b

def sameText (m : Machine) (text : Array Char) (a b : Nat) : Nat → Bool
  | 0 => true
  | n + 1 =>
    match text[a]?, text[b]? with
    | some c, some d => m.sameChar c d && m.sameText text (a + 1) (b + 1) n
    | _, _ => false

def before? (text : Array Char) (position : Nat) : Option Char :=
  if position = 0 then none else text[position - 1]?

def follow (m : Machine) (text : Array Char) (s : Spot) : List Spot :=
  let here (next : Nat) : Spot :=
    { s with step := next, since := if m.remembers then s.step :: s.since else [] }
  match m.steps.getD s.step .fail with
  | .done | .fail => []
  | .set cs next =>
    match text[s.position]? with
    | some c => if cs.has c then [{ s with step := next, position := s.position + 1, since := [] }] else []
    | none => []
  | .edge e next =>
    if e.holds (before? text s.position) text[s.position]? then [here next] else []
  | .fork first second => [here first, here second]
  | .mark slot next => [{ here next with marks := (slot, s.position) :: s.marks }]
  | .again n next =>
    match groupSpan? s.marks n with
    | none => []
    | some (a, b) =>
      if m.sameText text a s.position (b - a) then
        if a = b then [here next]
        else [{ s with step := next, position := s.position + (b - a), since := [] }]
      else []

structure Visited where
  flags : Array Bool
  width : Nat

def Visited.start (m : Machine) (text : Array Char) : Visited :=
  ⟨if m.remembers then #[] else Array.replicate (m.steps.size * (text.size + 1)) false, text.size + 1⟩

def Visited.has (v : Visited) (s : Spot) : Bool :=
  v.flags.getD (s.step * v.width + s.position) false || s.since.contains s.step

def Visited.add (v : Visited) (s : Spot) : Visited :=
  { v with flags := v.flags.setIfInBounds (s.step * v.width + s.position) true }

/-- Walks on from a stack of spots; finds the farthest end, or the first way to a given end. -/
def explore (m : Machine) (text : Array Char) (goal : Option Nat) :
    Nat → List Spot → Visited → Option Spot → Option Spot × Visited
  | 0, _, visited, best => (best, visited)
  | _, [], visited, best => (best, visited)
  | fuel + 1, s :: stack, visited, best =>
    if visited.has s then m.explore text goal fuel stack visited best
    else
      let visited := visited.add s
      match m.steps.getD s.step .fail with
      | .done =>
        if goal = some s.position then (some s, visited)
        else
          let better := match best with
            | none => true
            | some b => b.position < s.position
          m.explore text goal fuel stack visited (if better && goal.isNone then some s else best)
      | _ => m.explore text goal fuel (m.follow text s ++ stack) visited best

/-- Without memory every pair of a step and a position is expanded once. -/
def fuel (m : Machine) (text : Array Char) : Nat :=
  if m.remembers then 1000000 else 2 * m.steps.size * (text.size + 1) + 2

structure Match where
  start : Nat
  stop : Nat
  marks : Marks
deriving Repr, Inhabited

def Match.group? (t : Match) (n : Nat) : Option (Nat × Nat) :=
  if n = 0 then some (t.start, t.stop) else groupSpan? t.marks n

/-- The match that begins at a position, and what the walk has visited. Pairs that were visited
from positions without a match lead to no match. -/
def matchAt (m : Machine) (text : Array Char) (position : Nat) (visited : Visited) :
    Option Match × Visited :=
  let spot : Spot := { step := m.start, position := position }
  match m.explore text none (m.fuel text) [spot] visited none with
  | (none, visited) => (none, visited)
  | (some far, visited) =>
    match (m.explore text (some far.position) (m.fuel text) [spot] (Visited.start m text) none).1 with
    | some s => (some ⟨position, s.position, s.marks⟩, visited)
    | none => (some ⟨position, far.position, far.marks⟩, visited)

def searchFrom (m : Machine) (text : Array Char) : Nat → Nat → Visited → Option Match
  | 0, _, _ => none
  | fuel + 1, position, visited =>
    match m.matchAt text position visited with
    | (some t, _) => some t
    | (none, visited) => m.searchFrom text fuel (position + 1) visited

def search (m : Machine) (text : Array Char) (position : Nat) : Option Match :=
  m.searchFrom text (text.size + 1 - position) position (Visited.start m text)

/-! ## Whether there is a match

Whether anything matches is found without marks: all steps that can be reached
are followed at once, character by character. -/

/-- What is reached at one place: whether a match ends there, and otherwise the sets that wait for the
next character with the steps behind them. `seen` holds the last place at which each step was
reached, counted from 1. -/
structure Front where
  found : Bool := false
  waiting : List (CharSet × Nat) := []
  seen : Array Nat

def reach (m : Machine) (before after : Option Char) (place : Nat) : Nat → List Nat → Front → Front
  | 0, _, front | _, [], front => front
  | fuel + 1, n :: stack, front =>
    if front.seen.getD n place = place then m.reach before after place fuel stack front
    else
      let front := { front with seen := front.seen.setIfInBounds n place }
      match m.steps.getD n .fail with
      | .done => { front with found := true }
      | .set s next =>
        m.reach before after place fuel stack { front with waiting := (s, next) :: front.waiting }
      | .edge e next =>
        let stack := if e.holds before after then next :: stack else stack
        m.reach before after place fuel stack front
      | .fork first second => m.reach before after place fuel (first :: second :: stack) front
      | .mark _ next => m.reach before after place fuel (next :: stack) front
      | .fail | .again _ _ => m.reach before after place fuel stack front

/-- Every step is followed once at a place and leads to two others at most. -/
def anyFrom (m : Machine) (before : Option Char) (place : Nat) (threads : List Nat)
    (seen : Array Nat) (rest : List Char) : Bool :=
  let fuel := threads.length + 2 * m.steps.size + 2
  let front := m.reach before rest.head? place fuel (m.start :: threads) ⟨false, [], seen⟩
  front.found ||
    match rest with
    | [] => false
    | c :: rest =>
      let threads := front.waiting.filterMap fun w => if w.1.has c then some w.2 else none
      m.anyFrom (some c) (place + 1) threads front.seen rest

def occursIn (m : Machine) (text : String) : Bool :=
  if m.remembers then (m.search text.toList.toArray 0).isSome
  else m.anyFrom none 1 [] (Array.replicate m.steps.size 0) text.toList

end Machine

end LazyBundle.Regex
