import LazyBundle.Regex.Ranges

/-!
# Simple expressions

Constructors that leave out what has no effect: nothing in a sequence, a
repetition that repeats once, a choice between single characters.
-/

namespace LazyBundle.Regex.Expr

def ofRanges (rs : Ranges) : Expr :=
  .set rs.toCharSet

def ranges? : Expr → Option Ranges
  | set ⟨rs, false⟩ => some (Ranges.ofCharRanges rs)
  | _ => none

/-- Whether nothing but the empty text can match. -/
def takesNothing : Expr → Bool
  | empty | edge _ => true
  | seq p q | either p q => p.takesNothing && q.takesNothing
  | repeated p _ most => p.takesNothing || most == some 0
  | group _ p => p.takesNothing
  | never | set _ | again _ => false

/-- Whether the empty text can not match. -/
def takesSome : Expr → Bool
  | set s => !s.ranges.isEmpty
  | seq p q => p.takesSome || q.takesSome
  | either p q => p.takesSome && q.takesSome
  | repeated p least _ => 0 < least && p.takesSome
  | group _ p => p.takesSome
  | empty | never | edge _ | again _ => false

def followedBy (p q : Expr) : Expr :=
  match p, q with
  | empty, q => q
  | p, empty => p
  | p, q => .seq p q

def branches : Expr → List Expr
  | either p q => p.branches ++ q.branches
  | p => [p]

def joined : List Expr → Expr
  | [] => .never
  | [p] => p
  | p :: ps => .either p (joined ps)

/-- A choice; between single characters it is a set. -/
def oneOf (ps : List Expr) : Expr :=
  let all := ps.flatMap branches
  match all with
  | [p] => p
  | all =>
    match all.mapM ranges? with
    | some sets => .ofRanges (sets.foldl Ranges.union [])
    | none => joined all

/-- A repetition; what takes nothing is repeated once at most. -/
def times (p : Expr) (least : Nat) (most : Option Nat) : Expr :=
  let (least, most) := if p.takesNothing then (min least 1, some (min (most.getD 1) 1)) else (least, most)
  if most = some 0 then .empty
  else if least = 1 ∧ most = some 1 then p
  else .repeated p least most

end LazyBundle.Regex.Expr
