import LazyBundle.Regex.Simplify

/-!
# Sizes

How much memory the states of an automaton over bytes take that walks through an
expression, forward or backward. A repetition takes its expression as often as
it may match, so a short expression can need an automaton of any size.
-/

namespace LazyBundle.Regex

inductive Direction
  | forward
  | backward
deriving DecidableEq, Repr

/-- A state without its edges. -/
def stateSize : Nat := 32

def edgeSize : Nat := 8

def linkSize : Nat := 4

/-! ## Sets -/

def sameFirst (a b : Ranges) : Bool :=
  a.head? == b.head?

def restsBehind (encodings : List Ranges) : List (List Ranges) :=
  (encodings.splitBy sameFirst).map (·.map (·.drop 1))

/-- The rests of the states from one on. States with the same rest are one state. -/
def restsFrom : Nat → List Ranges → List (List Ranges)
  | 0, _ => []
  | fuel + 1, encodings =>
    if encodings.all List.isEmpty then []
    else encodings :: (restsBehind encodings).flatMap (restsFrom fuel)

/-- No character takes more than four bytes. -/
def forwardSetSize (encodings : List Ranges) : Nat :=
  let rests := (restsFrom 4 encodings).eraseDups
  stateSize + (rests.map fun rest => stateSize + edgeSize * (restsBehind rest).length).foldr (· + ·) 0

/-- Backward, states are shared that have the same way behind them. -/
def backwardSetSize (encodings : List Ranges) : Nat :=
  let ways := (encodings.flatMap fun e => (List.range e.length).map fun n => e.take (n + 1)).eraseDups
  2 * stateSize + linkSize * encodings.length + stateSize * ways.length

def setSize (d : Direction) (rs : Ranges) : Nat :=
  match rs with
  | [(low, high)] => if low = high then stateSize * (Ranges.bytes low).length else several
  | _ => several
where
  several : Nat :=
    if rs.isAscii then 2 * stateSize + edgeSize * rs.length
    else
      match d with
      | .forward => forwardSetSize rs.encodings
      | .backward => backwardSetSize rs.encodings

/-! ## Words -/

def wordBytes? : Expr → Option (List Nat)
  | .set ⟨[(low, high)], false⟩ => if low = high then some (Ranges.bytes low.toNat) else none
  | .seq p q => do
    let a ← wordBytes? p
    let b ← wordBytes? q
    pure (a ++ b)
  | _ => none

def words? : Expr → Option (List (List Nat))
  | .either p q => do
    let a ← words? p
    let b ← words? q
    pure (a ++ b)
  | p => (wordBytes? p).map fun w => [w]

/-- Cuts a list of words at the empty ones. Of the empty ones in front of all others only the first
counts; `seen` words are behind. -/
def chunksOf (current : List (List Nat)) (seen : List (List Nat)) :
    List (List Nat) → List (List (List Nat))
  | [] => [current.reverse]
  | [] :: ws =>
    if !seen.isEmpty && seen.all List.isEmpty then chunksOf current seen ws
    else current.reverse :: chunksOf [] ([] :: seen) ws
  | w :: ws => chunksOf (w :: current) (w :: seen) ws

def firstBytes (ws : List (List Nat)) : List Nat :=
  (ws.filterMap List.head?).eraseDups

def treeSize : Nat → List (List Nat) → Nat
  | 0, _ => 0
  | fuel + 1, ws =>
    if ws.all List.isEmpty then 0
    else
      let chunks := chunksOf [] [] ws
      let sizes := chunks.map fun chunk =>
        let firsts := firstBytes chunk
        let behind := (firsts.map fun b =>
          treeSize fuel ((chunk.filter (·.head? == some b)).map (·.drop 1))).foldr (· + ·) 0
        match firsts.length with
        | 0 => 0
        | 1 => stateSize + linkSize + behind
        | n => stateSize + edgeSize * n + linkSize + behind
      stateSize + linkSize * (chunks.length - 1) + sizes.foldr (· + ·) 0

def wordsSize (d : Direction) (ws : List (List Nat)) : Nat :=
  let ws := match d with
    | .forward => ws
    | .backward => ws.map List.reverse
  stateSize + treeSize ((ws.map List.length).foldl max 0 + 1) ws

/-! ## Expressions -/

def repetitionSize (p : Expr) (size least : Nat) (most : Option Nat) : Nat :=
  match least, most with
  | 0, some 1 => 2 * stateSize + 2 * linkSize + size
  | 0, none =>
    if p.takesSome then stateSize + 2 * linkSize + size
    else 3 * stateSize + 4 * linkSize + size
  | least, none => stateSize + 2 * linkSize + least * size
  | least, some most =>
    let fixed := if least = 0 then stateSize else least * size
    if least = most then fixed
    else fixed + stateSize + (most - least) * (stateSize + 2 * linkSize + size)

def sizes (d : Direction) : Expr → Nat × Nat
  | .set s => alone (setSize d (Ranges.ofCharRanges s.ranges))
  | .seq p q => alone ((sizes d p).1 + (sizes d q).1)
  | .either p q =>
    let branches := (sizes d p).2 + (sizes d q).2
    let size := match words? (.either p q) with
      | some ws => wordsSize d ws
      | none => 2 * stateSize + branches
    (size, branches)
  | .repeated p least most => alone (repetitionSize p (sizes d p).1 least most)
  | .group _ p =>
    alone ((sizes d p).1 + match d with
      | .forward => 2 * stateSize
      | .backward => 0)
  | .empty | .never | .edge _ | .again _ => alone stateSize
where
  alone (n : Nat) : Nat × Nat := (n, n + linkSize)

def frameSize (d : Direction) : Nat :=
  let search := 3 * stateSize + edgeSize + 2 * linkSize
  match d with
  | .forward => search + 3 * stateSize
  | .backward => search + stateSize

def machineSize (d : Direction) (p : Expr) : Nat :=
  frameSize d + (sizes d p).1

end LazyBundle.Regex
