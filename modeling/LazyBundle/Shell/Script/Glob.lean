import LazyBundle.Shell.Basic

/-!
# Patterns

Patterns stand for the texts that they match as a whole. A pattern is given as
characters that quotes may have taken the meaning from; a backslash takes the
meaning from the character behind it.
-/

namespace LazyBundle.Shell

inductive Glob
  | char (c : Char)
  | one
  | any
  | set (negated : Bool) (choices : List (Char → Bool))

namespace Glob

/-- A character of a pattern and whether it stands for itself. -/
abbrev Source := List (Char × Bool)

def classes : List (String × (Char → Bool)) := [
  ("alpha", Char.isAlpha), ("digit", Char.isDigit), ("alnum", Char.isAlphanum),
  ("upper", Char.isUpper), ("lower", Char.isLower), ("space", isSpace),
  ("blank", fun c => c == ' ' || c == '\t'), ("xdigit", isHex),
  ("print", isPrintable), ("graph", fun c => isPrintable c && c != ' '),
  ("punct", fun c => isPrintable c && c != ' ' && !c.isAlphanum),
  ("cntrl", fun c => c < ' ' || c == '\x7f')]

def class? (s : Source) : Option ((Char → Bool) × Source) :=
  match s with
  | (':', false) :: rest =>
    let name := rest.takeWhile fun p => p.1.isAlpha
    match rest.drop name.length with
    | (':', false) :: (']', false) :: more =>
      (classes.lookup (String.ofList (name.map (·.1)))).map (·, more)
    | _ => none
  | _ => none

def member? : Source → Option (Char × Source)
  | ('\\', false) :: (c, _) :: rest => some (c, rest)
  | (c, _) :: rest => some (c, rest)
  | [] => none

/-- The choices of a set up to its closing bracket. A bracket in front stands for itself. -/
def choices? : Nat → Bool → Source → Option (List (Char → Bool) × Source)
  | 0, _, _ => none
  | _ + 1, false, (']', false) :: rest => some ([], rest)
  | fuel + 1, _, s => do
    let further (choice : Char → Bool) (rest : Source) := do
      let (more, rest) ← choices? fuel false rest
      some (choice :: more, rest)
    match s with
    | ('[', false) :: behind =>
      match class? behind with
      | some (inside, rest) => further inside rest
      | none => range s further
    | s => range s further
where
  range (s : Source)
      (further : (Char → Bool) → Source → Option (List (Char → Bool) × Source)) := do
    let (low, rest) ← member? s
    match rest with
    | ('-', false) :: (last, isQuoted) :: behind =>
      if last = ']' ∧ !isQuoted then further (· == low) rest
      else do
        let (high, rest) ← member? ((last, isQuoted) :: behind)
        further (fun c => low ≤ c && c ≤ high) rest
    | rest => further (· == low) rest

/-- The steps of a pattern. A bracket that is never closed stands for itself. -/
def ofSource : Nat → Source → List Glob
  | 0, _ => []
  | _, [] => []
  | fuel + 1, (c, true) :: rest => .char c :: ofSource fuel rest
  | fuel + 1, ('\\', false) :: (c, _) :: rest => .char c :: ofSource fuel rest
  | fuel + 1, ('*', false) :: rest => .any :: ofSource fuel rest
  | fuel + 1, ('?', false) :: rest => .one :: ofSource fuel rest
  | fuel + 1, ('[', false) :: rest =>
    let (negated, inside) := match rest with
      | ('!', false) :: inside => (true, inside)
      | inside => (false, inside)
    match choices? (inside.length + 1) true inside with
    | some (choices, rest) => .set negated choices :: ofSource fuel rest
    | none => .char '[' :: ofSource fuel rest
  | fuel + 1, (c, false) :: rest => .char c :: ofSource fuel rest

def parse (s : Source) : List Glob := ofSource s.length s

def tails : Bytes → List Bytes
  | [] => [[]]
  | c :: cs => (c :: cs) :: tails cs

def accepts : List Glob → Bytes → Bool
  | [], cs => cs.isEmpty
  | .any :: gs, cs => (tails cs).any (accepts gs)
  | _ :: _, [] => false
  | .char d :: gs, c :: cs => c == d && accepts gs cs
  | .one :: gs, _ :: cs => accepts gs cs
  | .set negated choices :: gs, c :: cs => (choices.any (· c) != negated) && accepts gs cs

/-- Whether a pattern may stand for more than one text. -/
def isWild (gs : List Glob) : Bool :=
  gs.any fun g => match g with
    | .char _ => false
    | _ => true

def fronts (gs : List Glob) (cs : Bytes) : List Nat :=
  (List.range (cs.length + 1)).filter fun n => accepts gs (cs.take n)

def backs (gs : List Glob) (cs : Bytes) : List Nat :=
  (List.range (cs.length + 1)).filter fun n => accepts gs (cs.drop (cs.length - n))

end Glob

end LazyBundle.Shell
