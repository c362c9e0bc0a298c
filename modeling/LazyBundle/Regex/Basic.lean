/-!
# Regular expressions

Expressions over characters, whatever the syntax they were written in. Groups
are numbered from 1; a reference asks for the text of a group once more.
-/

namespace LazyBundle.Regex

/-- The characters inside the ranges, or all the others. -/
structure CharSet where
  ranges : List (Char × Char)
  negated : Bool := false
deriving DecidableEq, Repr, Inhabited

namespace CharSet

def inRange (c : Char) (r : Char × Char) : Bool :=
  r.1 ≤ c && c ≤ r.2

def has (s : CharSet) (c : Char) : Bool :=
  s.ranges.any (inRange c) != s.negated

def single (c : Char) : CharSet := ⟨[(c, c)], false⟩

def all : CharSet := ⟨[], true⟩

def notLineFeed : CharSet := ⟨[('\n', '\n')], true⟩

def negate (s : CharSet) : CharSet :=
  { s with negated := !s.negated }

def digits : List (Char × Char) := [('0', '9')]

def upper : List (Char × Char) := [('A', 'Z')]

def lower : List (Char × Char) := [('a', 'z')]

def word : List (Char × Char) := digits ++ upper ++ lower ++ [('_', '_')]

def space : List (Char × Char) := [('\t', '\r'), (' ', ' ')]

def shifted (low high : Char) (up : Bool) (r : Char × Char) : Option (Char × Char) :=
  let a := if r.1 ≤ low then low else r.1
  let b := if r.2 ≤ high then r.2 else high
  let move (c : Char) : Char := Char.ofNat (if up then c.toNat - 32 else c.toNat + 32)
  if a ≤ b then some (move a, move b) else none

def foldCase (s : CharSet) : CharSet :=
  { s with ranges := s.ranges ++ s.ranges.filterMap (shifted 'a' 'z' true) ++
      s.ranges.filterMap (shifted 'A' 'Z' false) }

end CharSet

def classRanges? (name : String) : Option (List (Char × Char)) :=
  match name with
  | "alnum" => some (CharSet.digits ++ CharSet.upper ++ CharSet.lower)
  | "alpha" => some (CharSet.upper ++ CharSet.lower)
  | "blank" => some [('\t', '\t'), (' ', ' ')]
  | "cntrl" => some [('\x00', '\x1f'), ('\x7f', '\x7f')]
  | "digit" => some CharSet.digits
  | "graph" => some [('!', '~')]
  | "lower" => some CharSet.lower
  | "print" => some [(' ', '~')]
  | "punct" => some [('!', '/'), (':', '@'), ('[', '\x60'), ('\x7b', '~')]
  | "space" => some CharSet.space
  | "upper" => some CharSet.upper
  | "xdigit" => some [('0', '9'), ('A', 'F'), ('a', 'f')]
  | _ => none

inductive Edge
  | textStart
  | textEnd
  | lineStart
  | lineEnd
  /-- A line that ends with a line feed, a carriage return, or both in the other order. -/
  | anyLineStart
  | anyLineEnd
  | wordStart
  | wordEnd
  | wordEdge
  | noWordEdge
  | noWordBefore
  | noWordAfter
deriving DecidableEq, Repr

namespace Edge

def isWord (c : Option Char) : Bool :=
  match c with
  | some c => CharSet.word.any (CharSet.inRange c)
  | none => false

/-- Whether the condition holds between two characters; none stands for an end of the text. -/
def holds (before after : Option Char) : Edge → Bool
  | textStart => before.isNone
  | textEnd => after.isNone
  | lineStart => before.isNone || before == some '\n'
  | lineEnd => after.isNone || after == some '\n'
  | anyLineStart =>
    before.isNone || before == some '\n' || (before == some '\r' && after != some '\n')
  | anyLineEnd =>
    after.isNone || after == some '\r' || (after == some '\n' && before != some '\r')
  | wordStart => !isWord before && isWord after
  | wordEnd => isWord before && !isWord after
  | wordEdge => isWord before != isWord after
  | noWordEdge => isWord before == isWord after
  | noWordBefore => !isWord before
  | noWordAfter => !isWord after

end Edge

inductive Expr
  | empty
  | never
  | set (s : CharSet)
  | edge (e : Edge)
  | seq (p q : Expr)
  | either (p q : Expr)
  | repeated (p : Expr) (least : Nat) (most : Option Nat)
  | group (number : Nat) (p : Expr)
  | again (number : Nat)
deriving DecidableEq, Repr, Inhabited

namespace Expr

def char (c : Char) : Expr := .set (.single c)

def foldCase : Expr → Expr
  | set s => .set s.foldCase
  | seq p q => .seq p.foldCase q.foldCase
  | either p q => .either p.foldCase q.foldCase
  | repeated p least most => .repeated p.foldCase least most
  | group n p => .group n p.foldCase
  | empty => .empty
  | never => .never
  | edge e => .edge e
  | again n => .again n

def hasReference : Expr → Bool
  | seq p q | either p q => p.hasReference || q.hasReference
  | repeated p _ _ | group _ p => p.hasReference
  | again _ => true
  | _ => false

def groupCount : Expr → Nat
  | seq p q | either p q => max p.groupCount q.groupCount
  | repeated p _ _ => p.groupCount
  | group n p => max n p.groupCount
  | _ => 0

def highestReference : Expr → Nat
  | seq p q | either p q => max p.highestReference q.highestReference
  | repeated p _ _ | group _ p => p.highestReference
  | again n => n
  | _ => 0

end Expr

end LazyBundle.Regex
